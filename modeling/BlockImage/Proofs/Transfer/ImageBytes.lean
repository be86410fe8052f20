import BlockImage.Proofs.Device
import BlockImage.Proofs.Image.Decoding
import BlockImage.Proofs.Image.Opening
import BlockImage.Proofs.Transfer.Imaging

/-!
# The bytes of an image

Where no call on a device fails, imaging appends exactly the image that the layout describes. Its bytes depend neither
on the size of the buffer nor on how many bytes the calls move at a time.
-/
namespace BlockImage

/-- Everything is at hand for the image of a device: its probe's answers, settings that are accepted, the memory for the
working areas, and two devices that do not fail, the first of which holds the allocated blocks. -/
structure Imageable (owner : Owner) (config : Config) (grants : Nat → Bool) (descriptor : Descriptor)
    (bitmap : Bitmap) (source target : Device) : Prop where
  quiet : owner.Quiet
  accepted : config.validate .toImage = .ok ()
  probed : Probed descriptor bitmap
  granted : ∀ size ∈ Transfer.imagingBuffers config descriptor.blockSize.toNat, grants size
  readable : source.faults.Steady
  writable : target.faults.Steady
  inside : ∀ block, bitmap.get block = true → (block + 1) * descriptor.blockSize.toNat ≤ source.bytes.size

/-- The allocated blocks of a device in ascending order. -/
def Bitmap.contents (bitmap : Bitmap) (width : Nat) (bytes : ByteArray) : List ByteArray :=
  bitmap.marked.map (Bytes.blockAt width bytes)

@[simp] theorem Bitmap.length_contents (bitmap : Bitmap) (width : Nat) (bytes : ByteArray) :
    (bitmap.contents width bytes).length = bitmap.marked.length := List.length_map _

theorem Bitmap.size_of_mem_contents {bitmap : Bitmap} {width : Nat} {bytes : ByteArray}
    (inside : ∀ block, bitmap.get block = true → (block + 1) * width ≤ bytes.size) :
    ∀ block ∈ bitmap.contents width bytes, block.size = width := by
  intro block member
  obtain ⟨number, marks, rfl⟩ := List.mem_map.mp member
  exact Bytes.size_blockAt (inside number (bitmap.mem_marked.mp marks))

namespace Transfer

/-- The image that a session writes of a device that holds the given bytes. -/
def imageOf (config : Config) (descriptor : Descriptor) (bitmap : Bitmap) (bytes : ByteArray) : ByteArray :=
  Layout.image (imageOptions config) descriptor bitmap (bitmap.contents descriptor.blockSize.toNat bytes)

/-- Tags that a session writes into the image of `blocks` blocks. -/
def writtenTags (config : Config) (blocks : Nat) : Nat :=
  if (imageOptions config).tagged then Layout.tagCount blocks config.blocksPerChecksum.toNat else 0

theorem tagsBefore_eq_writtenTags (config : Config) (blocks : Nat) :
    Layout.tagsBefore (imageOptions config) blocks blocks = writtenTags config blocks := by
  rw [writtenTags]
  split
  next tagged => exact Layout.tagsBefore_total tagged blocks
  next untagged => rw [Layout.tagsBefore, if_neg untagged]

/-- The tags of an image take as many bytes as its head tells. -/
theorem tagTotal_written (config : Config) (descriptor : Descriptor) :
    4 * (Head.written config descriptor).tagTotal =
      Layout.tagCount descriptor.verifiedBlocks.toNat (imageOptions config).blocksPerChecksum.toNat *
        (imageOptions config).checksumSize.toNat := by
  rw [Head.tagTotal, checksumSize_imageOptions]
  change 4 * (if (imageOptions config).tagged then Layout.tagCount descriptor.verifiedBlocks.toNat _ else 0) = _
  split
  next tagged =>
    have size : config.checksum.tagSize = 4 := Layout.tagSize_of_tagged tagged
    rw [size, Nat.mul_comm]
    rfl
  next untagged =>
    -- Without tags there are either no groups or no bytes in a tag.
    rw [Options.tagged, Bool.and_eq_true, decide_eq_true_eq, decide_eq_true_eq] at untagged
    rcases Nat.eq_zero_or_pos (imageOptions config).blocksPerChecksum.toNat with ungrouped | grouped
    · rw [Layout.tagCount, if_pos ungrouped, Nat.zero_mul]
    · have none : config.checksum.tagSize = 0 := Nat.eq_zero_of_not_pos fun some => untagged ⟨grouped, some⟩
      rw [none, Nat.mul_zero, Nat.mul_zero]

theorem imageSize_written (config : Config) (descriptor : Descriptor) :
    Layout.imageSize descriptor (imageOptions config) =
      Layout.dataOffset descriptor.totalBlocks.toNat (imageOptions config).encoding +
        (Head.written config descriptor).startOf (Head.written config descriptor).total := by
  rw [Head.startOf_total, Head.dataSize, tagTotal_written, Layout.imageSize]
  exact Nat.add_assoc ..

/-- An image is as long as its head and its bitmap tell. -/
theorem size_image {config : Config} {descriptor : Descriptor} {bitmap : Bitmap} {blocks : List ByteArray}
    (probed : Probed descriptor bitmap) (length : blocks.length = (Head.written config descriptor).total)
    (sizes : ∀ block ∈ blocks, block.size = (Head.written config descriptor).width) :
    (Layout.image (imageOptions config) descriptor bitmap blocks).size =
      Layout.imageSize descriptor (imageOptions config) := by
  have data := Head.size_data length sizes
  rw [Layout.image_eq, ByteArray.size_append, Layout.size_front _ probed.total, imageSize_written, ← data]
  rfl

theorem size_imageOf {config : Config} {descriptor : Descriptor} {bitmap : Bitmap} {bytes : ByteArray}
    (probed : Probed descriptor bitmap)
    (inside : ∀ block, bitmap.get block = true → (block + 1) * descriptor.blockSize.toNat ≤ bytes.size) :
    (imageOf config descriptor bitmap bytes).size = Layout.imageSize descriptor (imageOptions config) := by
  apply size_image probed
  · rw [Bitmap.length_contents]
    exact probed.verifiedBlocks.symm
  · exact Bitmap.size_of_mem_contents inside

/-- Whatever the source is, a session that images it without failure has put an image of as many blocks as are marked. -/
theorem wrote_of_writeImage {σ : Type} {owner : Owner} {source : Source σ} {descriptor : Descriptor} {bitmap : Bitmap}
    {run after : Run (σ × Device)} {summary : Summary} (probed : Probed descriptor bitmap)
    (wrote : writeImage owner source.ofFirst Device.target.ofSecond.toSink descriptor bitmap run = .ok summary after) :
    ∃ blocks, blocks.length = (Head.written run.session.config descriptor).total ∧
      (∀ block ∈ blocks, block.size = (Head.written run.session.config descriptor).width) ∧
      after.world.2.view =
        run.world.2.view.put (Layout.image (imageOptions run.session.config) descriptor bitmap blocks) ∧
      summary.tags = run.session.summary.tags +
        writtenTags run.session.config (Head.written run.session.config descriptor).total := by
  have apart : (source.ofFirst : Source (σ × Device)).Apart (fun _ => True) fun world => world.2.view :=
    source.ofFirst_apart fun _ _ held => held
  -- Nothing is known of the source, so of the blocks only their number and their size are.
  have gives := apart.givesBlocks run.session.config probed.blockSize_pos fun _ => True
  have leads := writeImage_leads Device.target_ofSecond_writes_all.toWrites (fun _ _ _ => trivial) gathers_length gives
    probed.total probed.blockSize_pos (fun _ _ => trivial) trivial
    (.inl trivial : owner.Spares (fun _ => True) run.running) fun _ _ _ => trivial
  obtain ⟨_, blocks, length, sizes, placed, tags⟩ := leads.of_ok wrote
  have total : blocks.length = (Head.written run.session.config descriptor).total :=
    length.trans probed.verifiedBlocks.symm
  rw [tagsBefore_eq_writtenTags, total] at tags
  exact ⟨blocks, total, sizes, placed, tags⟩

/-- Where no call fails and every allocated block can be read, the image of these blocks is written. -/
theorem writeImage_leads_of_steady {ω β : Type} {source : Source ω} {target : Sink ω} {kept : ω → Prop}
    {input output : ω → View} {rest : ω → β} (reads : source.Reads kept input output fun _ => False)
    (writes : target.Writes kept output rest fun _ => False) {bytes : ByteArray}
    (holds : ∀ world, kept world → (input world).bytes = bytes) {owner : Owner} (quiet : owner.Quiet)
    {descriptor : Descriptor} {bitmap : Bitmap} (probed : Probed descriptor bitmap)
    (inside : ∀ block, bitmap.get block = true → (block + 1) * descriptor.blockSize.toNat ≤ bytes.size) {run : Run ω}
    (held : kept run.world) (running : run.running = true)
    (granted : ∀ size ∈ imagingBuffers run.session.config descriptor.blockSize.toNat, run.grants size) :
    Leads (writeImage owner source target descriptor bitmap run)
      (fun summary after => kept after.world ∧
        output after.world = (output run.world).put (Layout.image (imageOptions run.session.config) descriptor bitmap
          (bitmap.contents descriptor.blockSize.toNat bytes)) ∧
        summary.tags = run.session.summary.tags + writtenTags run.session.config bitmap.marked.length)
      fun _ _ => False := by
  let width := descriptor.blockSize.toNat
  let chunks := bitmap.chunks (run.session.config.chunkCapacity width)
  have within : ∀ chunk ∈ chunks, chunk.stop * width ≤ bytes.size := by
    intro chunk member
    obtain ⟨block, marks, last⟩ := Bitmap.exists_last_of_mem_chunks member
    rw [← last]
    exact inside block marks
  have gives : source.GivesBlocks kept output run.session.config width (· ∈ chunks)
      (fun numbers blocks => blocks = numbers.map (Bytes.blockAt width bytes)) fun _ => False :=
    reads.givesBlocks _ probed.blockSize_pos holds within _
  refine (writeImage_leads writes (fun _ _ fault => fault.elim) (gathers_map _) gives probed.total
    probed.blockSize_pos (fun _ member => member) held (.inr ⟨quiet, running⟩) ?_).weaken ?_
  · intro size member refused
    exact absurd (granted size member) refused
  · rintro summary after ⟨held, blocks, rfl, _, placed, tags⟩
    refine ⟨held, placed, ?_⟩
    rw [tags, List.length_map, tagsBefore_eq_writtenTags]

/-- A device is imaged without failure, and the image is that of its allocated blocks. -/
theorem writeImage_of_imageable {owner : Owner} {descriptor : Descriptor} {bitmap : Bitmap}
    (run : Run (Device × Device))
    (ready : Imageable owner run.session.config run.grants descriptor bitmap run.world.1 run.world.2)
    (running : run.running = true) :
    ∃ summary after,
      writeImage owner Device.source.ofFirst Device.target.ofSecond.toSink descriptor bitmap run = .ok summary after ∧
        after.world.2.view = run.world.2.view.put (Layout.image (imageOptions run.session.config) descriptor bitmap
          (bitmap.contents descriptor.blockSize.toNat run.world.1.bytes)) ∧
        summary.tags = run.session.summary.tags + writtenTags run.session.config bitmap.marked.length := by
  obtain ⟨summary, after, returned, _, placed, tags⟩ := (writeImage_leads_of_steady Device.SteadyPair.reads
    Device.SteadyPair.writes.toWrites (fun _ pair => pair.holds) ready.quiet ready.probed ready.inside
    ⟨ready.readable, ready.writable, rfl⟩ running ready.granted).exists_ok
  exact ⟨summary, after, returned, placed, tags⟩

/-- The bytes that imaging appends are the layout's. Other sizes of the buffer and of the calls, and another memory, give
the same. -/
theorem writeImage_appends_image {owner : Owner} {descriptor : Descriptor} {bitmap : Bitmap}
    {run : Run (Device × Device)}
    (ready : Imageable owner run.session.config run.grants descriptor bitmap run.world.1 run.world.2)
    (running : run.running = true) :
    ∃ summary after,
      writeImage owner Device.source.ofFirst Device.target.ofSecond.toSink descriptor bitmap run = .ok summary after ∧
      after.world.2.view = run.world.2.view.put (Layout.image (imageOptions run.session.config) descriptor bitmap
        (bitmap.contents descriptor.blockSize.toNat run.world.1.bytes)) ∧
      (run.world.2.position = run.world.2.bytes.size → after.world.2.bytes = run.world.2.bytes ++
        Layout.image (imageOptions run.session.config) descriptor bitmap
          (bitmap.contents descriptor.blockSize.toNat run.world.1.bytes)) ∧
      summary.tags = run.session.summary.tags + writtenTags run.session.config bitmap.marked.length ∧
      (run.session.config.checksum = .crc32 → ∀ blocks number,
        (Layout.register (imageOptions run.session.config) blocks number).tag = Head.storedCrc
          (Checksum.ofBytes (Bytes.join (Layout.covered (imageOptions run.session.config) blocks number)))) ∧
      ∀ owner' bufferSize grants source' target',
        Imageable owner' { run.session.config with bufferSize } grants descriptor bitmap source' target' →
        source'.bytes = run.world.1.bytes → target'.view = run.world.2.view →
        ∃ summary' after', writeImage owner' Device.source.ofFirst Device.target.ofSecond.toSink descriptor bitmap {
            run with
            session := { run.session with config := { run.session.config with bufferSize } }
            grants
            world := (source', target') } = .ok summary' after' ∧
          after'.world.2.bytes = after.world.2.bytes ∧ summary'.tags = summary.tags := by
  obtain ⟨summary, after, returned, placed, tags⟩ := writeImage_of_imageable run ready running
  refine ⟨summary, after, returned, placed, fun atEnd => ?_, tags, fun crc32 => Layout.tag_register_crc32 crc32, ?_⟩
  · have bytes := congrArg View.bytes placed
    rw [View.bytes_put] at bytes
    change after.world.2.bytes = Bytes.overwrite run.world.2.bytes run.world.2.position _ at bytes
    rw [bytes, atEnd, Bytes.overwrite_size]
  · -- The image depends on what the first device holds, and on none of what the second run changes.
    intro owner' bufferSize grants source' target' ready' sameSource sameTarget
    let run' : Run (Device × Device) := {
      run with
      session := { run.session with config := { run.session.config with bufferSize } }
      grants
      world := (source', target') }
    obtain ⟨summary', after', returned', placed', tags'⟩ := writeImage_of_imageable run' ready' running
    refine ⟨summary', after', returned', ?_, ?_⟩
    · change after'.world.2.view.bytes = after.world.2.view.bytes
      rw [placed, placed', sameTarget, sameSource]
      rfl
    · rw [tags, tags']
      rfl

/-- A session that images three bytes, of which the middle one is not allocated, byte by byte. -/
def sampleImaging : Run (Device × Device) where
  session := { direction := .toImage, config := { bufferSize := 1, blocksPerChecksum := 1 } }
  world := ({ bytes := ⟨#[7, 8, 9]⟩, faults := .short 1 }, { bytes := ByteArray.empty, faults := .short 2 })

theorem sampleImaging_imageable : Imageable {} sampleImaging.session.config sampleImaging.grants .sample .sample
    sampleImaging.world.1 sampleImaging.world.2 where
  quiet := Owner.quiet_default
  accepted := rfl
  probed := Probed.sample
  granted := by decide
  readable := Faults.short_steady (by decide)
  writable := Faults.short_steady (by decide)
  inside block marks := by
    have below : block < 3 := Bitmap.lt_total_of_get marks
    change (block + 1) * 1 ≤ 3
    omega

theorem writeImage_appends_sample : ∃ summary after,
    writeImage {} Device.source.ofFirst Device.target.ofSecond.toSink .sample .sample sampleImaging = .ok summary after ∧
      after.world.2.bytes = sampleImaging.world.2.bytes ++
        Layout.image (imageOptions sampleImaging.session.config) .sample .sample [⟨#[7]⟩, ⟨#[9]⟩] ∧
      summary.tags = 2 := by
  obtain ⟨summary, after, returned, _, appended, tags, _⟩ := writeImage_appends_image sampleImaging_imageable rfl
  exact ⟨summary, after, returned, appended rfl, tags⟩

/-- The same session with a buffer that no machine has room for. -/
def sampleRefused : Run (Device × Device) :=
  { sampleImaging with
    session := { sampleImaging.session with config := { sampleImaging.session.config with bufferSize := 1 <<< 60 } } }

/-- Without memory for the working areas nothing is appended, though no device fails and the session is not ended. -/
theorem writeImage_refused : ({} : Owner).Quiet ∧ sampleRefused.running = true ∧
    sampleRefused.session.config.validate .toImage = .ok () ∧ Probed .sample .sample ∧
    sampleRefused.world.1.faults.Steady ∧ sampleRefused.world.2.faults.Steady ∧
    (∀ block, Bitmap.sample.get block = true →
      (block + 1) * Descriptor.sample.blockSize.toNat ≤ sampleRefused.world.1.bytes.size) ∧
    ∃ after, writeImage {} Device.source.ofFirst Device.target.ofSecond.toSink .sample .sample sampleRefused =
        .error (.insufficientMemory (1 <<< 60) 0) after ∧
      after.world.2.bytes ≠ sampleRefused.world.2.bytes ++
        Layout.image (imageOptions sampleRefused.session.config) .sample .sample [⟨#[7]⟩, ⟨#[9]⟩] := by
  refine ⟨sampleImaging_imageable.quiet, rfl, rfl, Probed.sample, sampleImaging_imageable.readable,
    sampleImaging_imageable.writable, sampleImaging_imageable.inside, _, rfl, fun same => ?_⟩
  -- The head alone makes any image longer than nothing.
  have size := congrArg ByteArray.size same
  rw [ByteArray.size_append, Layout.image_eq, ByteArray.size_append, Layout.front, ByteArray.size_append,
    ByteArray.size_append, Head.size_encode] at size
  have head : Head.storedSize = 98 := rfl
  have nothing : sampleRefused.world.2.bytes.size = 0 := rfl
  change sampleRefused.world.2.bytes.size = _ at size
  omega

end Transfer

end BlockImage
