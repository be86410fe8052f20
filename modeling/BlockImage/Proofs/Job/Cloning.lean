import BlockImage.Proofs.Job.Steps
import BlockImage.Proofs.Transfer.RoundTrip

/-!
# Cloning a file to an image file

Where nothing stands in the way, the image file holds the image of the allocated blocks and nothing else, whatever an
old file held there, and no other file has changed.
-/
namespace BlockImage.Job

open Transfer

/-- Nothing stands in the way of imaging what a probe has found: the settings are accepted, the owner lets the session
run, and there is room in memory and for the image file. -/
structure CanImage (circumstances : Circumstances) (config : Config) (descriptor : Descriptor) (bitmap : Bitmap) :
    Prop where
  quiet : circumstances.owner.Quiet
  running : circumstances.running = true
  accepted : config.validate .toImage = .ok ()
  memory : circumstances.machine.ensureMemory (memoryFigure config descriptor bitmap) = .ok ()
  space : circumstances.machine.ensureSpace (Layout.imageSize descriptor (imageOptions config)) = .ok ()
  granted : ∀ size ∈ imagingBuffers config descriptor.blockSize.toNat, circumstances.grants size

/-- Where a job stands when it has opened the file at a place and is about to probe it. -/
def probing (circumstances : Circumstances) (config : Config) (folder : Folder) (source : Place) : Run OpenFiles where
  session := { direction := .toImage, config }
  running := circumstances.running
  world := { unopened folder with input := { place := source } }
  grants := circumstances.grants

variable {circumstances : Circumstances} {config : Config} {prober : Probe OpenFiles} {paths : Paths} {folder : Folder}
  {source image : Place} {bytes : ByteArray} {descriptor : Descriptor} {bitmap : Bitmap}

/-- A session that images one file to another one that is empty leaves the image there. -/
theorem writeImage_leads_of_opened {owner : Owner} {run : Run OpenFiles}
    (opened : OpenFiles.Opened folder source image bytes run.world)
    (nothing : run.world.outputView = { bytes := ByteArray.empty, position := 0 }) (quiet : owner.Quiet)
    (running : run.running = true) (settings : run.session.config = config) (probed : Probed descriptor bitmap)
    (inside : ∀ block, bitmap.get block = true → (block + 1) * descriptor.blockSize.toNat ≤ bytes.size)
    (granted : ∀ size ∈ imagingBuffers config descriptor.blockSize.toNat, run.grants size) :
    Leads (writeImage owner OpenFiles.source OpenFiles.target.toSink descriptor bitmap run)
      (fun _ after => folder.Rewrites image (imageOf config descriptor bitmap bytes) after.world.folder)
      fun _ _ => False := by
  subst settings
  have reads : OpenFiles.source.Reads (OpenFiles.Opened folder source image bytes) OpenFiles.inputView
      OpenFiles.outputView fun _ => False := OpenFiles.Opened.reads
  refine (writeImage_leads_of_steady reads OpenFiles.Opened.writes.toWrites (fun _ opened => opened.bytes_inputView)
    quiet probed inside opened running granted).weaken ?_
  rintro summary after ⟨left, placed, _⟩
  have holds := left.rewrites
  rw [placed, nothing, View.bytes_put] at holds
  have whole := Bytes.overwrite_size ByteArray.empty (imageOf run.session.config descriptor bitmap bytes)
  rw [ByteArray.empty_append] at whole
  exact whole ▸ holds

/-- The image file holds the image then, and nothing else has changed. -/
theorem cloneToImage_writes_image (found : folder.find paths.source = .ok (source, .file bytes))
    (offers : folder.Offers paths.target paths.overwrite image) (apart : source ≠ image) (reads : prober.OnlyReads)
    {probed : Run OpenFiles}
    (answered : Transfer.probe prober (probing circumstances config folder source) = .ok (descriptor, bitmap) probed)
    (inside : ∀ block, bitmap.get block = true → (block + 1) * descriptor.blockSize.toNat ≤ bytes.size)
    (can : CanImage circumstances config descriptor bitmap) :
    ∃ summary cloned events,
      cloneToImage circumstances prober paths config folder = { result := .ok summary, folder := cloned, events } ∧
      folder.Rewrites image (imageOf config descriptor bitmap bytes) cloned := by
  obtain ⟨settings, grants, running, position, world⟩ := probe_onlyReads reads answered
  have same : probed.world.folder = folder := by
    rw [world]
    rfl
  rw [cloneToImage]
  refine run_of_leads can.accepted ?_
  rw [leads_bind, leads_inWorld]
  refine (openInput_leads found).weaken ?_
  rintro _ _ rfl
  rw [leads_bind]
  change Leads (Transfer.probe prober (probing circumstances config folder source)) _ _
  rw [answered]
  -- The checks pass, and then the image file is there and empty.
  simp only [leads_ok, leads_bind, leads_settling, leads_get, leads_ofExcept, same, checkOverwrite_eq offers, can.memory,
    can.space, leads_inWorld]
  refine (createImage_leads (same ▸ offers)).weaken ?_
  rintro _ _ ⟨created, rewrites, rfl⟩
  rw [same] at rewrites
  let ready : Run OpenFiles :=
    { probed with world := { probed.world with folder := created, output := { place := image } } }
  have onInput : probed.world.input.place = source := by
    rw [world]
    rfl
  have opened : OpenFiles.Opened folder source image bytes ready.world :=
    .begun onInput (Folder.get?_of_find found) apart rewrites
  have nothing : ready.world.outputView = { bytes := ByteArray.empty, position := 0 } := by
    rw [View.ext_iff]
    exact ⟨rewrites.bytesAt, rfl⟩
  exact writeImage_leads_of_opened opened nothing can.quiet (running.trans can.running) settings
    (probed_of_probe answered) inside (grants ▸ can.granted)

end BlockImage.Job
