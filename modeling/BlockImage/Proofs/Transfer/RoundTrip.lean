import BlockImage.Proofs.Image.Opening
import BlockImage.Proofs.Transfer.ImageBytes
import BlockImage.Proofs.Transfer.Restoring

/-!
# From a device to an image and back

What imaging wrote is opened and restored without failure where no call on a device fails, whatever the settings of the
two sessions are, and every allocated block is what it was on the device that was imaged.
-/
namespace BlockImage

/-- Everything is at hand to restore an image: settings that are accepted, the memory for the bitmap and the working
areas, and two devices that do not fail. -/
structure Restorable (owner : Owner) (config : Config) (grants : Nat → Bool) (head : Head) (bitmap : Bitmap)
    (image target : Device) : Prop where
  quiet : owner.Quiet
  accepted : config.validate .fromImage = .ok ()
  room : grants (bitmapSize bitmap.total)
  granted : ∀ size ∈ Transfer.restoringBuffers config head.width head.options, grants size
  readable : image.faults.Steady
  writable : target.faults.Steady

/-- The allocated blocks of one device are brought to another one, and nothing else on that one is touched. -/
structure Bitmap.Brings (bitmap : Bitmap) (width : Nat) (source before after : ByteArray) : Prop where
  allocated : ∀ block, bitmap.get block = true → Bytes.blockAt width after block = Bytes.blockAt width source block
  elsewhere : ∀ index, ¬ bitmap.Covers width index → Bytes.byteAt after index = Bytes.byteAt before index
  grown : before.size ≤ after.size

theorem Bitmap.brings_place (bitmap : Bitmap) {width : Nat} {source : ByteArray} (before : ByteArray)
    (inside : ∀ block, bitmap.get block = true → (block + 1) * width ≤ source.size) :
    bitmap.Brings width source before (Bytes.place width before bitmap.marked (bitmap.contents width source)) := by
  have sizes := Bitmap.size_of_mem_contents inside
  -- A marked block is at some index of the list, and at the same index its content is placed.
  refine ⟨fun block marks => ?_, fun index outside => ?_, Bytes.size_place_ge _ _ _⟩
  · obtain ⟨index, within, rfl⟩ := List.mem_iff_getElem.mp (bitmap.mem_marked.mpr marks)
    have given : index < (bitmap.contents width source).length := by
      rw [Bitmap.length_contents]
      exact within
    have ascending : bitmap.marked.Pairwise (· < ·) := bitmap.markedFrom_ascending 0
    rw [Bytes.blockAt_place before ascending (fun block member => Nat.le_of_eq (sizes block member)) within given
      (sizes _ (List.getElem_mem given))]
    exact List.getElem_map _
  · refine Bytes.byteAt_place_of_outside before (fun block member => Nat.le_of_eq (sizes block member))
      fun number member => ?_
    exact fun within => outside ⟨number, bitmap.mem_marked.mp member, within⟩

namespace Transfer

variable {owner : Owner} {config : Config} {descriptor : Descriptor} {bitmap : Bitmap} {blocks : List ByteArray}

section Steady

variable {ω β : Type} {image : Stream ω} {kept : ω → Prop} {input : ω → View} {run : Run ω}

/-- Where no call fails, the front of an image that was written is taken back. -/
theorem readImage_leads_of_steady {rest : ω → β} (reads : image.Reads kept input rest fun _ => False)
    (probed : Probed descriptor bitmap) (room : run.grants (bitmapSize bitmap.total)) (held : kept run.world)
    (stands : (input run.world).left = Layout.image (imageOptions config) descriptor bitmap blocks) :
    Leads (readImage image run)
      (fun opened after => opened = (.written config descriptor, bitmap) ∧ Frame kept rest run.world after.world ∧
        input after.world = (input run.world).skip
          (Layout.dataOffset descriptor.totalBlocks.toNat (imageOptions config).encoding) ∧
        after.running = run.running ∧ after.session.config = run.session.config ∧ after.grants = run.grants)
      fun _ _ => False := by
  let excused : Error → Prop := fun _ => False
  have leads := @readImage_leads _ _ _ _ _ _ excused _ reads (fun _ _ fault => fault) (fun fault => fault) run held
  have front : Image.front run.grants (input run.world).left = .ok (.written config descriptor, bitmap) := by
    rw [stands, Layout.image_eq]
    exact Image.front_written probed room _
  rw [front] at leads
  refine leads.mono ?_ ?_
  · rintro opened after ⟨same, frame, moved, running, kept⟩
    cases same
    exact ⟨rfl, frame, moved, running, kept⟩
  · rintro failure after (allowed | refused)
    · exact allowed
    · cases refused

/-- Where no call fails, data that was written is restored. -/
theorem restoreBlocks_leads_of_steady {target : Target ω} {output : ω → View} {head : Head}
    (reads : image.Reads kept input output fun _ => False) (writes : target.Writes kept output input fun _ => False)
    (quiet : owner.Quiet) (probed : Probed head.descriptor bitmap) (held : kept run.world)
    (running : run.running = true)
    (granted : ∀ size ∈ restoringBuffers run.session.config head.width head.options, run.grants size)
    (length : blocks.length = bitmap.marked.length) (sizes : ∀ block ∈ blocks, block.size = head.width)
    (data : (input run.world).left = Layout.data head.options blocks) :
    Leads (restoreBlocks owner image target head bitmap run)
      (fun _ after => kept after.world ∧
        (output after.world).bytes = Bytes.place head.width (output run.world).bytes bitmap.marked blocks)
      fun _ _ => False := by
  have all : blocks.length = head.total := length.trans probed.verifiedBlocks.symm
  have spared : owner.Spares (fun _ => False) run.running := .inr ⟨quiet, running⟩
  refine (restoreBlocks_leads reads writes (fun _ _ fault => fault.elim) (fun _ _ fault => fault.elim) probed.measured
    run held spared ?_).mono ?_ ?_
  · intro size member refused
    exact absurd (granted size member) refused
  · rintro summary after ⟨held, _, _, placed, _⟩
    rw [data, Head.blocksIn_data all sizes] at placed
    exact ⟨held, placed⟩
  · -- None of the reasons to fail is given: no call fails, the data is whole, and its tags fit.
    rintro failure after ⟨fault | ⟨_, _, short⟩ | ⟨_, number, _, inside, closes, unfit, _⟩, _⟩
    · exact fault
    · rw [data, Head.size_data all sizes] at short
      exact absurd short (Nat.lt_irrefl _)
    · rw [data] at unfit
      exact absurd (Head.fits_data all sizes (by omega) closes) unfit

end Steady

variable {run : Run (Device × Device)}

/-- Opening an image that was written leaves everything at hand to restore what is left of it, its data. -/
theorem readImage_of_restorable (probed : Probed descriptor bitmap)
    (ready : Restorable owner run.session.config run.grants (.written config descriptor) bitmap run.world.1 run.world.2)
    (image : run.world.1.view.left = Layout.image (imageOptions config) descriptor bitmap blocks) :
    ∃ opened, readImage Device.source.ofFirst.toStream run = .ok (.written config descriptor, bitmap) opened ∧
      opened.world.1.view = run.world.1.view.skip
        (Layout.dataOffset descriptor.totalBlocks.toNat (imageOptions config).encoding) ∧
      opened.world.2.view = run.world.2.view ∧ opened.running = run.running ∧
      Restorable owner opened.session.config opened.grants (.written config descriptor) bitmap opened.world.1
        opened.world.2 ∧
      opened.world.1.view.left = Layout.data (imageOptions config) blocks := by
  have front := readImage_leads_of_steady Device.SteadyPair.reads.toReads probed ready.room
    ⟨ready.readable, ready.writable, rfl⟩ image
  obtain ⟨_, opened, returned, rfl, frame, moved, running, kept, grants⟩ := front.exists_ok
  refine ⟨opened, returned, moved, frame.rest, running, ?_, ?_⟩
  · rw [kept, grants]
    exact { ready with readable := frame.kept.first, writable := frame.kept.second }
  · rw [moved]
    rw [Layout.image_eq] at image
    exact Image.left_behind_front probed image

theorem restoreBlocks_of_restorable {head : Head} (probed : Probed head.descriptor bitmap)
    (ready : Restorable owner run.session.config run.grants head bitmap run.world.1 run.world.2)
    (running : run.running = true)
    (length : blocks.length = bitmap.marked.length) (sizes : ∀ block ∈ blocks, block.size = head.width)
    (data : run.world.1.view.left = Layout.data head.options blocks) :
    ∃ summary after,
      restoreBlocks owner Device.source.ofFirst.toStream Device.target.ofSecond head bitmap run = .ok summary after ∧
      after.world.2.bytes = Bytes.place head.width run.world.2.bytes bitmap.marked blocks := by
  obtain ⟨summary, after, returned, _, placed⟩ := (restoreBlocks_leads_of_steady Device.SteadyPair.reads.toReads
    Device.SteadyPair.writes ready.quiet probed ⟨ready.readable, ready.writable, rfl⟩ running ready.granted length sizes
    data).exists_ok
  exact ⟨summary, after, returned, placed⟩

/-- Imaging a device, opening the image and restoring it brings over the allocated blocks, whatever else the settings of
the two sessions say. -/
theorem restore_written_image
    (ready : Imageable owner run.session.config run.grants descriptor bitmap run.world.1 run.world.2)
    (running : run.running = true)
    (fresh : run.world.2.view = { bytes := ByteArray.empty, position := 0 }) :
    ∃ summary after,
      writeImage owner Device.source.ofFirst Device.target.ofSecond.toSink descriptor bitmap run = .ok summary after ∧
      ∀ restorer (back : Run (Device × Device)),
        Restorable restorer back.session.config back.grants (.written run.session.config descriptor) bitmap
          back.world.1 back.world.2 →
        back.running = true → back.world.1.view = { bytes := after.world.2.bytes, position := 0 } →
        ∃ opened, readImage Device.source.ofFirst.toStream back =
            .ok (.written run.session.config descriptor, bitmap) opened ∧
          opened.world.1.position =
            Layout.dataOffset descriptor.totalBlocks.toNat (imageOptions run.session.config).encoding ∧
          ∃ restored final,
            restoreBlocks restorer Device.source.ofFirst.toStream Device.target.ofSecond
              (.written run.session.config descriptor) bitmap opened = .ok restored final ∧
            bitmap.Brings descriptor.blockSize.toNat run.world.1.bytes back.world.2.bytes final.world.2.bytes := by
  obtain ⟨summary, after, returned, placed, _⟩ := writeImage_of_imageable run ready running
  refine ⟨summary, after, returned, fun restorer back ready' running' stands => ?_⟩
  -- The image was put at the start of nothing, so it is all there is.
  have image : after.world.2.bytes = Layout.image (imageOptions run.session.config) descriptor bitmap
      (bitmap.contents descriptor.blockSize.toNat run.world.1.bytes) := by
    have bytes := congrArg View.bytes placed
    rw [fresh, View.bytes_put] at bytes
    exact bytes.trans ((Bytes.overwrite_size ByteArray.empty _).trans (ByteArray.empty_append ..))
  have left : back.world.1.view.left = Layout.image (imageOptions run.session.config) descriptor bitmap
      (bitmap.contents descriptor.blockSize.toNat run.world.1.bytes) := by
    rw [stands, View.left, ← image]
    exact Bytes.extract_eq_self (Nat.le_refl _)
  obtain ⟨opened, answered, moved, same, running, still, data⟩ := readImage_of_restorable ready.probed ready' left
  refine ⟨opened, answered, ?_, ?_⟩
  · have position := congrArg View.position moved
    rw [stands, View.position_skip, Nat.zero_add] at position
    exact position
  · obtain ⟨restored, final, finished, bytes⟩ := restoreBlocks_of_restorable ready.probed still
      (running.trans running') (Bitmap.length_contents ..) (Bitmap.size_of_mem_contents ready.inside) data
    refine ⟨restored, final, finished, ?_⟩
    have before : opened.world.2.bytes = back.world.2.bytes := congrArg View.bytes same
    rw [bytes, before]
    exact bitmap.brings_place _ ready.inside

/-- The contents of the two allocated blocks of the sample. -/
def sampleBlocks : List ByteArray := [⟨#[7]⟩, ⟨#[9]⟩]

/-- An image of the sample. -/
def sampleImage : ByteArray := Layout.image (imageOptions sampleImaging.session.config) .sample .sample sampleBlocks

/-- A session that restores an image to a device of four bytes, two blocks at a time. -/
def sampleRestoring (image : ByteArray) : Run (Device × Device) where
  session := { direction := .fromImage, config := { bufferSize := 2, reseed := false, blocksPerChecksum := 5 } }
  world := ({ bytes := image, faults := .short 3 }, { bytes := ⟨#[1, 2, 3, 4]⟩, faults := .short 1 })

theorem sampleRestoring_restorable (image : ByteArray) : Restorable {} (sampleRestoring image).session.config
    (sampleRestoring image).grants (.written sampleImaging.session.config .sample) .sample
      (sampleRestoring image).world.1 (sampleRestoring image).world.2 where
  quiet := Owner.quiet_default
  accepted := rfl
  room := by
    have room : addressable (bitmapSize Bitmap.sample.total) := by decide
    exact room
  granted := by
    -- The settings are the same whatever the image.
    have granted : ∀ size ∈ restoringBuffers (sampleRestoring ByteArray.empty).session.config 1
        (imageOptions sampleImaging.session.config), addressable size := by decide
    exact granted
  readable := Faults.short_steady (by decide)
  writable := Faults.short_steady (by decide)

/-- The image of the sample opens and is restored. -/
theorem sampleImage_restores : ∃ opened summary restored,
    readImage Device.source.ofFirst.toStream (sampleRestoring sampleImage) =
      .ok (.written sampleImaging.session.config .sample, .sample) opened ∧
    restoreBlocks {} Device.source.ofFirst.toStream Device.target.ofSecond
      (.written sampleImaging.session.config .sample) .sample opened = .ok summary restored := by
  have left := Bytes.extract_eq_self (Nat.le_refl sampleImage.size)
  obtain ⟨opened, answered, _, _, running, still, data⟩ :=
    readImage_of_restorable Probed.sample (sampleRestoring_restorable sampleImage) left
  obtain ⟨summary, restored, finished, _⟩ :=
    restoreBlocks_of_restorable Probed.sample still running (by decide) (by decide) data
  exact ⟨opened, summary, restored, answered, finished⟩

theorem restore_written_sample : ∃ summary after,
    writeImage {} Device.source.ofFirst Device.target.ofSecond.toSink .sample .sample sampleImaging = .ok summary after ∧
      ∃ opened restored final, readImage Device.source.ofFirst.toStream (sampleRestoring after.world.2.bytes) =
          .ok (.written sampleImaging.session.config .sample, .sample) opened ∧
        restoreBlocks {} Device.source.ofFirst.toStream Device.target.ofSecond
          (.written sampleImaging.session.config .sample) .sample opened = .ok restored final ∧
        Bitmap.sample.Brings 1 ⟨#[7, 8, 9]⟩ ⟨#[1, 2, 3, 4]⟩ final.world.2.bytes := by
  obtain ⟨summary, after, returned, back⟩ := restore_written_image sampleImaging_imageable rfl rfl
  obtain ⟨opened, answered, _, restored, final, finished, brought⟩ :=
    back {} (sampleRestoring after.world.2.bytes) (sampleRestoring_restorable _) rfl rfl
  exact ⟨summary, after, returned, opened, restored, final, answered, finished, brought⟩

end Transfer

end BlockImage
