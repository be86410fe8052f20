import BlockImage.Proofs.Ends.ReadAhead
import BlockImage.Proofs.Image.Info
import BlockImage.Proofs.Job.Steps
import BlockImage.Proofs.Transfer.Checking
import BlockImage.Proofs.Transfer.RoundTrip

/-!
# Jobs on an image file

Where nothing stands in the way, a file that holds an image is told of, checked and restored. To tell of it and to check
it leaves all files as they are, and to restore it changes the target only.
-/
namespace BlockImage

namespace Job

open Transfer ReadAhead

/-- Nothing stands in the way of reading an image: the settings are accepted, the owner lets the session run, and there
is room in memory. -/
structure CanRead (circumstances : Circumstances) (config : Config) (head : Head) (bitmap : Bitmap) : Prop where
  quiet : circumstances.owner.Quiet
  running : circumstances.running = true
  accepted : config.validate .fromImage = .ok ()
  room : circumstances.grants (bitmapSize bitmap.total)
  granted : ∀ size ∈ restoringBuffers config head.width head.options, circumstances.grants size

/-- Nothing stands in the way of restoring an image either: there is room for what is restored. -/
structure CanRestore (circumstances : Circumstances) (config : Config) (head : Head) (bitmap : Bitmap) : Prop
    extends CanRead circumstances config head bitmap where
  memory : circumstances.machine.ensureMemory (memoryFigure config head.descriptor bitmap) = .ok ()
  space : circumstances.machine.ensureSpace (dataBytes head.descriptor) = .ok ()
  fits : head.descriptor.deviceSize.toNat ≤ Folder.fileSizeLimit

/-- A folder of which the file at a place was just opened for reading. -/
def reading (folder : Folder) (image : Place) : ReadAhead OpenFiles where
  world := { unopened folder with input := { place := image } }

variable {folder : Folder} {image place : Place} {path : String} {bytes : ByteArray}

theorem reading_follows (folder : Folder) (image : Place) :
    Follows (OpenFiles.Reading folder image) OpenFiles.inputView (reading folder image) :=
  follows_of_none ⟨rfl, rfl⟩ rfl

theorem left_reading (there : folder.get? image = some (.file bytes)) :
    (ahead OpenFiles.inputView (reading folder image)).left = bytes := by
  have view : ahead OpenFiles.inputView (reading folder image) = { bytes, position := 0 } := by
    rw [View.ext_iff]
    exact ⟨Folder.bytesAt_of_get? there, rfl⟩
  rw [view]
  exact Bytes.extract_eq_self (Nat.le_refl _)

variable {config : Config} {descriptor : Descriptor} {bitmap : Bitmap}

/-- What is told of an image file is that it is as long as it is. -/
theorem imageInfo_of_imageOf (found : folder.find path = .ok (image, .file (imageOf config descriptor bitmap bytes)))
    (probed : Probed descriptor bitmap) {grants : Nat → Bool} (room : grants (bitmapSize bitmap.total))
    (inside : ∀ block, bitmap.get block = true → (block + 1) * descriptor.blockSize.toNat ≤ bytes.size)
    (tolerate : Bool) :
    ∃ info, imageInfo path tolerate folder grants = .ok info ∧ info.bitmap = bitmap ∧ info.corruption = none ∧
      info.expectedSize = (imageOf config descriptor bitmap bytes).size := by
  have there := Folder.get?_of_find found
  have front : Image.front grants (ahead OpenFiles.inputView (reading folder image)).left =
      .ok (.written config descriptor, bitmap) := by
    rw [left_reading there, imageOf, Layout.image_eq]
    exact Image.front_written probed room _
  have reads := (OpenFiles.Reading.reads there).toReads.readAhead
  have leads : Leads
      ((below (openInput path) >>= fun _ => OpenFiles.source.toStream.readAhead.readInfo tolerate grants :
        Operation (ReadAhead OpenFiles) ImageInfo) { world := unopened folder })
      (fun info _ => info.bitmap = bitmap ∧ info.corruption = none ∧
        info.expectedSize = (imageOf config descriptor bitmap bytes).size) fun _ _ => False := by
    rw [leads_bind, leads_below]
    refine (openInput_leads found).weaken ?_
    rintro _ _ rfl
    refine (reads.readInfo front (reading_follows folder image) tolerate).weaken ?_
    rintro info _ ⟨same, intact⟩
    refine ⟨(congrArg Prod.snd same).symm, intact, ?_⟩
    rw [size_imageOf probed inside]
    exact ImageInfo.expectedSize_of_opened same
  obtain ⟨info, _, came, told⟩ := leads.exists_ok
  refine ⟨info, ?_, told⟩
  simp only [imageInfo, came]

/-- What is left behind the front of an image is its data. -/
theorem left_behind_imageOf {view : View} (probed : Probed descriptor bitmap)
    (stands : view.left = imageOf config descriptor bitmap bytes) :
    (view.skip (Layout.dataOffset descriptor.totalBlocks.toNat (imageOptions config).encoding)).left =
      Layout.data (imageOptions config) (bitmap.contents descriptor.blockSize.toNat bytes) := by
  rw [imageOf, Layout.image_eq] at stands
  exact Image.left_behind_front probed stands

variable {circumstances : Circumstances} {settings : Config}

/-- An image file that was written passes its check, and no file has changed then. -/
theorem checkImage_of_imageOf (found : folder.find path = .ok (image, .file (imageOf config descriptor bitmap bytes)))
    (probed : Probed descriptor bitmap)
    (inside : ∀ block, bitmap.get block = true → (block + 1) * descriptor.blockSize.toNat ≤ bytes.size)
    (can : CanRead circumstances settings (.written config descriptor) bitmap) :
    ∃ summary events, checkImage circumstances path settings folder = { result := .ok summary, folder, events } := by
  have there := Folder.get?_of_find found
  have reads := (OpenFiles.Reading.reads there).toReads.readAhead
  have ends : ∃ summary after events, checkImage circumstances path settings folder =
      { result := .ok summary, folder := after, events } ∧ after = folder := by
    rw [checkImage]
    refine run_of_leads can.accepted ?_
    rw [leads_bind, leads_inWorld, leads_onFirst, leads_below]
    refine (openInput_leads found).weaken ?_
    rintro _ _ rfl
    dsimp only
    rw [leads_bind]
    refine Leads.weaken (readImage_leads_of_steady (reads.ofFirst (fun _ : Discard => True) fun _ => ()) probed can.room
      ⟨reading_follows folder image, trivial⟩ (left_reading there)) ?_
    rintro _ run ⟨rfl, frame, moved, running, same, grants⟩
    refine Leads.weaken (restoreBlocks_discard_leads reads can.quiet probed frame.kept.1 (running.trans can.running) ?_
      (Bitmap.length_contents ..) (Bitmap.size_of_mem_contents inside) ?_) ?_
    · rw [same, grants]
      exact can.granted
    · exact moved ▸ left_behind_imageOf probed (left_reading there)
    · exact fun _ _ follows => follows.kept.same
  obtain ⟨summary, _, events, ended, rfl⟩ := ends
  exact ⟨summary, events, ended⟩

/-- A session that restores one file to another one leaves its blocks there. -/
theorem restoreBlocks_leads_of_opened {owner : Owner} {head : Head} {blocks : List ByteArray}
    {run : Run (ReadAhead OpenFiles)}
    (follows : Follows (OpenFiles.Opened folder image place bytes) OpenFiles.inputView run.world)
    (quiet : owner.Quiet) (running : run.running = true) (probed : Probed head.descriptor bitmap)
    (granted : ∀ size ∈ restoringBuffers run.session.config head.width head.options, run.grants size)
    (length : blocks.length = bitmap.marked.length) (sizes : ∀ block ∈ blocks, block.size = head.width)
    (data : (ahead OpenFiles.inputView run.world).left = Layout.data head.options blocks) :
    Leads (restoreBlocks owner OpenFiles.source.toStream.readAhead OpenFiles.target.besideReadAhead head bitmap run)
      (fun _ after => folder.Rewrites place (Bytes.place head.width (OpenFiles.outputView run.world.world).bytes
        bitmap.marked blocks) after.world.world.folder)
      fun _ _ => False := by
  refine Leads.weaken (restoreBlocks_leads_of_steady OpenFiles.Opened.reads.toReads.readAhead
    OpenFiles.Opened.writes.besideReadAhead quiet probed follows running granted length sizes data) ?_
  rintro summary after ⟨follows, placed⟩
  have holds := follows.kept.rewrites
  rw [placed] at holds
  exact holds

variable {paths : Paths}

/-- Restoring an image file brings the allocated blocks to the target. -/
theorem restore_of_imageOf
    (found : folder.find paths.source = .ok (image, .file (imageOf config descriptor bitmap bytes)))
    (offers : folder.Offers paths.target paths.overwrite place) (apart : image ≠ place)
    (probed : Probed descriptor bitmap)
    (inside : ∀ block, bitmap.get block = true → (block + 1) * descriptor.blockSize.toNat ≤ bytes.size)
    (can : CanRestore circumstances settings (.written config descriptor) bitmap) :
    ∃ summary restored events,
      restore circumstances paths settings folder = { result := .ok summary, folder := restored, events } ∧
      folder.Rewrites place (Bytes.place descriptor.blockSize.toNat
        (Bytes.padded (folder.bytesAt place) descriptor.deviceSize.toNat) bitmap.marked
        (bitmap.contents descriptor.blockSize.toNat bytes)) restored := by
  have there := Folder.get?_of_find found
  rw [restore]
  refine run_of_leads can.accepted ?_
  rw [leads_bind, leads_inWorld, leads_below]
  refine (openInput_leads found).weaken ?_
  rintro _ _ rfl
  dsimp only
  rw [leads_bind]
  refine Leads.weaken (readImage_leads_of_steady (OpenFiles.Reading.reads there).toReads.readAhead probed can.room
    (reading_follows folder image) (left_reading there)) ?_
  rintro _ run ⟨rfl, frame, moved, running, same, grants⟩
  have stays : run.world.world.folder = folder := frame.kept.kept.same
  simp only [leads_bind, leads_settling, leads_get, leads_ofExcept, stays, checkOverwrite_eq offers, can.memory,
    leads_inWorld, leads_below]
  refine (prepareTarget_leads (stays ▸ offers) can.space can.fits).weaken ?_
  rintro _ _ ⟨prepared, rewrites, rfl⟩
  rw [stays] at rewrites
  -- The target is there too, and what is ahead of the image file is what was ahead of it before.
  let files : OpenFiles := { run.world.world with folder := prepared, output := { place } }
  have opened : OpenFiles.Opened folder image place (imageOf config descriptor bitmap bytes) files :=
    .begun frame.kept.kept.onInput there apart rewrites
  have seen : OpenFiles.inputView files = OpenFiles.inputView run.world.world := by
    rw [View.ext_iff, opened.bytes_inputView, OpenFiles.inputView, stays, frame.kept.kept.onInput,
      Folder.bytesAt_of_get? there]
    exact ⟨rfl, rfl⟩
  have before : (OpenFiles.outputView files).bytes =
      Bytes.padded (folder.bytesAt place) descriptor.deviceSize.toNat := rewrites.bytesAt
  have follows : Follows (OpenFiles.Opened folder image place _) OpenFiles.inputView
      { run.world with world := files } := frame.kept.of_same opened seen
  rw [← before]
  refine restoreBlocks_leads_of_opened follows can.quiet (running.trans can.running) probed ?_
    (Bitmap.length_contents ..) (Bitmap.size_of_mem_contents inside) ?_
  · change ∀ size ∈ restoringBuffers run.session.config _ _, run.grants size = true
    rw [same, grants]
    exact can.granted
  · rw [ahead_of_same seen, moved]
    exact left_behind_imageOf probed (left_reading there)

end Job

end BlockImage
