import BlockImage.Proofs.Transfer.ImageBytes
import BlockImage.Proofs.Transfer.Salvage

/-!
# Partial images

However a session that images a device ends, it has appended a front of one and the same image, which is that of what
could be salvaged of the device. Where the front stops is told by the way the session ended.
-/
namespace BlockImage

/-- A device holds what another one holds, and its calls fail where those of the other one do. -/
structure Device.Like (origin device : Device) : Prop where
  bytes : device.bytes = origin.bytes
  faults : device.faults = origin.faults

theorem Device.Like.reads {origin : Device} : (Device.source.ofFirst : Source (Device × Device)).Reads
    (fun world => Device.Like origin world.1) (fun world => world.1.view) (fun world => world.2.view) fun _ => True := by
  refine Device.source_ofFirst_reads (fun world _ => world.1.faults.within_all) ?_ fun _ _ => rfl
  exact fun _ _ like faults bytes => ⟨bytes.trans like.bytes, faults.trans like.faults⟩

theorem Device.Like.writes {origin : Device} : (Device.target.ofSecond : Target (Device × Device)).Writes
    (fun world => Device.Like origin world.1) (fun world => world.2.view) (fun _ => ()) fun _ => True :=
  Device.target_ofSecond_writes (fun world _ => world.2.faults.within_all) (fun _ _ like _ => like) fun _ _ => rfl

/-- The contents of a bitmap are those of its first chunks and then those of the others. -/
theorem Bitmap.contents_of_chunks {bitmap : Bitmap} {capacity : Nat} {passed left : List Chunk}
    (split : bitmap.chunks capacity = passed ++ left) (width : Nat) (bytes : ByteArray) :
    bitmap.contents width bytes = (passed.flatMap Chunk.blocks).map (Bytes.blockAt width bytes) ++
      (left.flatMap Chunk.blocks).map (Bytes.blockAt width bytes) := by
  rw [contents, ← bitmap.flatMap_chunks capacity, split, List.flatMap_append, List.map_append]

namespace Transfer

variable {ω : Type}

/-- What is found on a device where some pieces are lost, with zeros for these and behind its end. -/
def found (device : Device) (descriptor : Descriptor) (lost : List (Nat × Nat)) : ByteArray :=
  Bytes.blank (Bytes.padded device.bytes (descriptor.totalBlocks.toNat * descriptor.blockSize.toNat)) lost

/-- How a session that images a device can end when `length` bytes of an image of `size` bytes are written, `parts`
being what came of the writes before the request to sync. -/
inductive Ends (options : Options) (descriptor : Descriptor) (bitmap : Bitmap) (chunks : List Chunk) (start : Run ω)
    (size length : Nat) (parts : EStateM.Result Error (Run ω) Unit) : EStateM.Result Error (Run ω) Summary → Prop
  | done {summary : Summary} {after : Run ω} (whole : length = size) :
      Ends options descriptor bitmap chunks start size length parts (.ok summary after)
  | unsynced {cause : IoError} {before after : Run ω} (written : parts = .ok () before) (whole : length = size) :
      Ends options descriptor bitmap chunks start size length parts (.error (.write 0 cause) after)
  | broken {failure : Error} {before after : Run ω} {reported : List Chunk} (broke : parts = .error failure before)
      (told : Reported start after.events reported)
      (ends : EndsAt options descriptor bitmap chunks reported length failure) :
      Ends options descriptor bitmap chunks start size length parts (.error failure after)

theorem LostIn.mono {source : Source ω} {kept : ω → Prop} {config : Config} {width : Nat} {allowed : Chunk → Prop}
    {numbers others : List Nat} {lost : List (Nat × Nat)}
    (lostIn : LostIn source kept config width allowed numbers lost) (fewer : ∀ number ∈ numbers, number ∈ others) :
    LostIn source kept config width allowed others lost := by
  intro piece member
  obtain ⟨rescues, chunk, may, within, lacks⟩ := lostIn piece member
  exact ⟨rescues, chunk, may, fun block inside => fewer block (within block inside), lacks⟩

/-- Working areas that there is no memory for are refused before anything is done. -/
theorem writeParts_refused {owner : Owner} {source : Source ω} {target : Sink ω} {descriptor : Descriptor}
    {bitmap : Bitmap} {run : Run ω}
    (large : ∃ size ∈ imagingBuffers run.session.config descriptor.blockSize.toNat, ¬ run.grants size) :
    ∃ size, writeParts owner source target descriptor bitmap run = .error (.insufficientMemory size 0) run := by
  obtain ⟨first, second, buffers⟩ : ∃ first second,
      imagingBuffers run.session.config descriptor.blockSize.toNat = [first, second] := ⟨_, _, rfl⟩
  rw [buffers] at large
  have refused : ∃ size, [first, second].forM (checkAllocation run.grants) = .error (.insufficientMemory size 0) := by
    by_cases granted : run.grants first
    · obtain ⟨size, member, large⟩ := large
      simp only [List.mem_cons, List.not_mem_nil, or_false] at member
      rcases member with rfl | rfl
      · exact absurd granted large
      · exact ⟨size, by
          simp [checkAllocation_of_granted granted, checkAllocation_of_refused large, bind, Except.bind]⟩
    · exact ⟨first, by simp [checkAllocation_of_refused granted, bind, Except.bind]⟩
  obtain ⟨size, refused⟩ := refused
  refine ⟨size, ?_⟩
  change EStateM.bind (allocate (imagingBuffers run.session.config descriptor.blockSize.toNat)) _ run = _
  rw [buffers]
  change EStateM.bind (ofExcept ([first, second].forM (checkAllocation run.grants))) _ run = _
  rw [refused]
  rfl

section

variable {owner : Owner} {descriptor : Descriptor} {bitmap : Bitmap} {run : Run (Device × Device)}

/-- Of an image so many bytes are on the target when a session that images a device has ended. -/
structure Fronted (owner : Owner) (descriptor : Descriptor) (bitmap : Bitmap) (run : Run (Device × Device))
    (image : ByteArray) (length : Nat) : Prop where
  within : length ≤ image.size
  placed : (stateAfter (writeImage owner Device.source.ofFirst Device.target.ofSecond.toSink descriptor bitmap
    run)).world.2.view = run.world.2.view.put (image.extract 0 length)
  ends : Ends (imageOptions run.session.config) descriptor bitmap
    (bitmap.chunks (run.session.config.chunkCapacity descriptor.blockSize.toNat)) run image.size length
    (writeParts owner Device.source.ofFirst Device.target.ofSecond.toSink descriptor bitmap run)
    (writeImage owner Device.source.ofFirst Device.target.ofSecond.toSink descriptor bitmap run)
  refused : (∃ size ∈ imagingBuffers run.session.config descriptor.blockSize.toNat, ¬ run.grants size) →
    length = 0

variable {image bytes : ByteArray} {before : Run (Device × Device)}

/-- All of the image is there once its parts are written, whatever comes of the request to sync. -/
theorem fronted_of_written
    (written : writeParts owner Device.source.ofFirst Device.target.ofSecond.toSink descriptor bitmap run =
      .ok () before)
    (placed : before.world.2.view = run.world.2.view.put image) :
    Fronted owner descriptor bitmap run image image.size := by
  have parts : Leads (writeParts owner Device.source.ofFirst Device.target.ofSecond.toSink descriptor bitmap run)
      (fun _ after => True ∧ after.world.2.view = run.world.2.view.put image) fun _ after => True ∧ False := by
    rw [written]
    exact ⟨trivial, placed⟩
  let whole : View → Unit → Prop := fun seen _ => seen = run.world.2.view.put image
  have leads := leads_conclude Device.target_ofSecond_writes_all.toWrites (fun _ _ => whole)
    (fun failure _ seen other => whole seen other ∧ ∃ cause, failure = .write 0 cause)
    (parts.mono (fun _ _ finished => finished) fun _ _ none => none.2.elim)
    fun cause _ _ _ _ _ finished => ⟨finished, cause, rfl⟩
  constructor
  · exact Nat.le_refl _
  · rw [Bytes.extract_eq_self (Nat.le_refl _)]
    have left := leads.mono (fun _ _ finished => finished.2.2) fun _ _ broke => broke.2.1
    exact left.stateAfter
  · rw [writeImage]
    cases result : conclude Device.target.ofSecond.toSink
        (writeParts owner Device.source.ofFirst Device.target.ofSecond.toSink descriptor bitmap) run with
    | ok summary after => exact .done rfl
    | error failure after =>
      obtain ⟨_, _, cause, rfl⟩ := leads.of_error result
      exact .unsynced written rfl
  · intro large
    obtain ⟨size, refused⟩ := writeParts_refused large
    rw [refused] at written
    cases written

/-- Where a part could not be written, what is there is the front of the image up to some place in that part. -/
theorem fronted_of_unfinished {failure : Error} {reported : List Chunk}
    (broke : writeParts owner Device.source.ofFirst Device.target.ofSecond.toSink descriptor bitmap run =
      .error failure before)
    (told : Reported run before.events reported)
    (placed : before.world.2.view = run.world.2.view.put bytes) (starts : Bytes.StartsWith image bytes)
    (ends : EndsAt (imageOptions run.session.config) descriptor bitmap
      (bitmap.chunks (run.session.config.chunkCapacity descriptor.blockSize.toNat)) reported bytes.size failure) :
    Fronted owner descriptor bitmap run image bytes.size := by
  let left : Error → Array Event → View → Unit → Prop := fun cause events seen _ =>
    cause = failure ∧ events = before.events ∧ seen = run.world.2.view.put bytes
  have parts : Leads (writeParts owner Device.source.ofFirst Device.target.ofSecond.toSink descriptor bitmap run)
      (fun _ _ => True ∧ False) fun cause after => True ∧ left cause after.events after.world.2.view () := by
    rw [broke]
    exact ⟨trivial, rfl, rfl, placed⟩
  have leads := leads_conclude Device.target_ofSecond_writes_all.toWrites (fun _ _ _ _ => False) left parts
    fun _ _ _ _ _ _ none => none.elim
  obtain ⟨_, after, failed, _, rfl, events, seen⟩ :=
    (leads.mono (fun _ _ finished => finished.2.2) fun _ _ broke => broke).exists_error
  have failed' : writeImage owner Device.source.ofFirst Device.target.ofSecond.toSink descriptor bitmap run =
    .error _ after := failed
  constructor
  · exact starts.size_le
  · rw [failed', ← starts.eq_extract]
    exact seen
  · rw [failed']
    refine .broken broke ?_ ends
    rw [events]
    exact told
  · intro large
    obtain ⟨size, refused⟩ := writeParts_refused large
    rw [refused] at broke
    cases broke
    exact ends

/-- A session that nothing disturbs writes the whole image. -/
theorem writeImage_writes_imageOf {content : ByteArray} {owner' : Owner} {grants : Nat → Bool} {source target : Device}
    (ready : Imageable owner' run.session.config grants descriptor bitmap source target) (holds : source.bytes = content) :
    ∃ summary after,
      writeImage owner' Device.source.ofFirst Device.target.ofSecond.toSink descriptor bitmap
        { run with running := true, grants, world := (source, target) } = .ok summary after ∧
      after.world.2.view = target.view.put (imageOf run.session.config descriptor bitmap content) := by
  obtain ⟨summary, after, returned, placed, _⟩ :=
    writeImage_of_imageable { run with running := true, grants, world := (source, target) } ready rfl
  refine ⟨summary, after, returned, ?_⟩
  rw [placed, imageOf, ← holds]

/-- However a session that images a device ends, what it has appended is a front of the image that a session writes
which nothing disturbs, of a device that holds what could be salvaged of this one. The other session may be granted more
memory, so that this is told of a session without its working areas too. -/
theorem interrupted_image_is_front (owner : Owner) (run : Run (Device × Device)) (probed : Probed descriptor bitmap) :
    ∃ lost,
      LostIn Device.source.ofFirst (fun world : Device × Device => Device.Like run.world.1 world.1) run.session.config
        descriptor.blockSize.toNat
        (· ∈ bitmap.chunks (run.session.config.chunkCapacity descriptor.blockSize.toNat)) bitmap.marked lost ∧
      (∀ owner' grants source target, Imageable owner' run.session.config grants descriptor bitmap source target →
        source.bytes = found run.world.1 descriptor lost →
        ∃ summary after,
          writeImage owner' Device.source.ofFirst Device.target.ofSecond.toSink descriptor bitmap
            { run with running := true, grants, world := (source, target) } = .ok summary after ∧
          after.world.2.view = target.view.put
            (imageOf run.session.config descriptor bitmap (found run.world.1 descriptor lost))) ∧
      ∃ length, Fronted owner descriptor bitmap run
        (imageOf run.session.config descriptor bitmap (found run.world.1 descriptor lost)) length := by
  let width := descriptor.blockSize.toNat
  let chunks := bitmap.chunks (run.session.config.chunkCapacity width)
  have held : Device.Like run.world.1 run.world.1 := ⟨rfl, rfl⟩
  have inside : ∀ chunk ∈ chunks, chunk.stop * width ≤ descriptor.totalBlocks.toNat * width := by
    intro chunk member
    obtain ⟨block, marks, last⟩ := Bitmap.exists_last_of_mem_chunks member
    have below := Bitmap.lt_total_of_get marks
    rw [← last, ← probed.total]
    exact Nat.mul_le_mul_right _ below
  have spares : owner.Spares (fun _ => True) run.running := .inl trivial
  have leads := writeParts_leads Device.Like.writes.toWrites (fun _ _ _ => trivial) (gathers_salvaged ..)
    (givesBlocks_salvaged Device.Like.reads (fun _ like => like.bytes) run.session.config probed.blockSize_pos inside)
    probed.total probed.blockSize_pos (fun _ member => member) held spares fun _ _ _ => trivial
  cases result : writeParts owner Device.source.ofFirst Device.target.ofSecond.toSink descriptor bitmap run with
  | ok _ before =>
    obtain ⟨_, blocks, ⟨_, lost, lostIn, rfl⟩, _, placed, _⟩ := leads.of_ok result
    refine ⟨lost, lostIn, fun _ _ _ _ ready holds => writeImage_writes_imageOf ready holds, ?_⟩
    exact ⟨_, fronted_of_written result placed⟩
  | error failure before =>
    obtain ⟨_, _, reported, passed, done, bytes, unfinished⟩ := leads.of_error result
    obtain ⟨_, lost, lostIn, rfl⟩ := unfinished.given
    obtain ⟨left, split⟩ := unfinished.within
    refine ⟨lost, lostIn.mono fun number member => ?_, fun _ _ _ _ ready holds => writeImage_writes_imageOf ready holds,
      bytes.size, fronted_of_unfinished result unfinished.told unfinished.placed ?_ unfinished.ends⟩
    · rw [← bitmap.flatMap_chunks (run.session.config.chunkCapacity width), split, List.flatMap_append]
      exact List.mem_append_left _ member
    · -- The blocks of the chunks that are left make up the image with those that came in.
      rw [imageOf, Bitmap.contents_of_chunks split]
      apply unfinished.starts
      rw [unfinished.length, List.length_map, split, Chunk.total_append, Chunk.total_eq left]

end

/-- A session that images three bytes of a device that has only the first of them. -/
def sampleLacking : Run (Device × Device) where
  session := { direction := .toImage, config := { checksum := .none } }
  world := ({ bytes := ⟨#[7]⟩ }, { bytes := ByteArray.empty })

theorem interrupted_image_sample : ∃ lost length reported after,
    writeImage {} Device.source.ofFirst Device.target.ofSecond.toSink .sample .sample sampleLacking =
      .error (.read 2 .endOfDevice) after ∧
    after.world.2.view = sampleLacking.world.2.view.put ((imageOf sampleLacking.session.config .sample .sample
      (found sampleLacking.world.1 .sample lost)).extract 0 length) ∧
    after.events.toList.map Event.position = reported.map Chunk.stop ∧
    length = (Layout.front (imageOptions sampleLacking.session.config) .sample .sample).size +
      Layout.startOf (imageOptions sampleLacking.session.config) 1 0 (Chunk.total reported) := by
  obtain ⟨after, failed⟩ : ∃ after, writeImage {} Device.source.ofFirst Device.target.ofSecond.toSink .sample .sample
      sampleLacking = .error (.read 2 .endOfDevice) after :=
    failureOf_eq_some.mp (by decide +kernel)
  obtain ⟨lost, _, _, length, fronted⟩ := interrupted_image_is_front {} sampleLacking Probed.sample
  have placed := fronted.placed
  have ends := fronted.ends
  rw [failed] at placed ends
  cases ends with
  | broken _ told ends => exact ⟨lost, length, _, after, failed, placed, told.positions, ends⟩

end Transfer

end BlockImage
