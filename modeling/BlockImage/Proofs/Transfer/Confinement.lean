import BlockImage.Proofs.Transfer.RoundTrip
import BlockImage.Transfer.Copying

/-!
# Holes are never written

Copies and restores lay bytes over the target only where allocated blocks are. Nothing is asked of the source, of the
faults of the target or of the owner, and it does not matter how the transfer ends.
-/
namespace BlockImage

namespace Bytes

/-- One byte string comes from another by laying bytes over it at allowed offsets only. -/
inductive Overlaid (allowed : Nat → Prop) (before : ByteArray) : ByteArray → Prop
  | none : Overlaid allowed before before
  | more {between : ByteArray} (start : Nat) (patch : ByteArray) (earlier : Overlaid allowed before between)
      (within : ∀ place < patch.size, allowed (start + place)) : Overlaid allowed before (overwrite between start patch)

namespace Overlaid

variable {allowed : Nat → Prop} {before after : ByteArray}

theorem unchanged (overlaid : Overlaid allowed before after) {index : Nat} (outside : ¬ allowed index) :
    byteAt after index = byteAt before index := by
  induction overlaid with
  | none => rfl
  | more start patch earlier within ih =>
    rw [byteAt_overwrite, if_neg, ih]
    -- A patch that reaches the index would make it an allowed one.
    rintro ⟨behind, inside⟩
    apply outside
    have place := within (index - start) (by omega)
    rwa [Nat.add_sub_cancel' behind] at place

theorem size_le (overlaid : Overlaid allowed before after) : before.size ≤ after.size := by
  induction overlaid with
  | none => exact Nat.le_refl _
  | more start patch earlier within ih =>
    rw [size_overwrite]
    split <;> omega

theorem allowed_last (overlaid : Overlaid allowed before after) (grown : before.size < after.size) :
    allowed (after.size - 1) := by
  induction overlaid with
  | none => exact absurd grown (Nat.lt_irrefl _)
  | @more between start patch earlier within ih =>
    rw [size_overwrite] at grown ⊢
    split
    next empty =>
      rw [if_pos empty] at grown
      exact ih grown
    next filled =>
      rw [if_neg filled] at grown
      -- Either this patch or an earlier one put the last byte.
      by_cases longer : between.size < start + patch.size
      · -- The patch itself makes the last byte.
        have last : max between.size (start + patch.size) - 1 = start + (patch.size - 1) := by omega
        rw [last]
        exact within _ (by omega)
      · have same : max between.size (start + patch.size) = between.size := by omega
        rw [same] at grown ⊢
        exact ih grown

theorem mono {others : Nat → Prop} (overlaid : Overlaid allowed before after)
    (weaker : ∀ index, allowed index → others index) : Overlaid others before after := by
  induction overlaid with
  | none => exact .none
  | more start patch earlier within ih => exact .more start patch ih fun place inside => weaker _ (within place inside)

end Overlaid

/-- Bytes are only laid over at allowed offsets; so all others stay as they were, and where the byte string grows they
become zero. -/
structure Confined (allowed : Nat → Prop) (before after : ByteArray) : Prop where
  overlaid : Overlaid allowed before after
  unchanged : ∀ index, ¬ allowed index → index < before.size → byteAt after index = byteAt before index
  zero : ∀ index, ¬ allowed index → before.size ≤ index → byteAt after index = 0
  kept : before.size ≤ after.size
  grown : before.size < after.size → allowed (after.size - 1)

theorem Overlaid.confined {allowed : Nat → Prop} {before after : ByteArray} (overlaid : Overlaid allowed before after) :
    Confined allowed before after where
  overlaid := overlaid
  unchanged _ outside _ := overlaid.unchanged outside
  zero _ outside beyond := (overlaid.unchanged outside).trans (byteAt_of_size_le beyond)
  kept := overlaid.size_le
  grown := overlaid.allowed_last

end Bytes

namespace Transfer

variable {ω : Type} {kept : ω → Prop} {view : ω → View} {owner : Owner} {bitmap : Bitmap} {bytes : ByteArray}

/-- So far bytes are only laid over the target where the bitmap marks blocks. -/
def Spared (kept : ω → Prop) (view : ω → View) (bitmap : Bitmap) (width : Nat) (bytes : ByteArray) (world : ω) : Prop :=
  kept world ∧ Bytes.Overlaid (bitmap.Covers width) bytes (view world).bytes

section

variable {β : Type} {rest : ω → β} {fails : IoError → Prop} {target : Target ω} {width : Nat}

/-! ### Steps that do not write -/

theorem readRange_spares {source : Source ω} (apart : source.Apart kept view) (offset wanted : Nat) {run : Run ω}
    (spared : Spared kept view bitmap width bytes run.world) :
    Leads (readRange source offset wanted run)
      (fun data after => Spared kept view bitmap width bytes after.world ∧ data.size = wanted)
      fun _ after => Spared kept view bitmap width bytes after.world := by
  obtain ⟨held, overlaid⟩ := spared
  refine (readRange_leads apart offset wanted held).mono ?_ ?_
  · rintro data after ⟨⟨_, world, rfl, frame⟩, size⟩
    exact ⟨⟨frame.kept, frame.rest ▸ overlaid⟩, size⟩
  · rintro failure after ⟨⟨_, world, rfl, frame⟩, _⟩
    exact ⟨frame.kept, frame.rest ▸ overlaid⟩

/-- A look at the running flag and a report spare everything, whatever the owner does. -/
theorem checkRunning_spares {run : Run ω} (spared : Spared kept view bitmap width bytes run.world) :
    Leads (checkRunning owner run) (fun _ after => Spared kept view bitmap width bytes after.world)
      fun _ after => Spared kept view bitmap width bytes after.world := by
  have spares : owner.Spares (fun _ => True) run.running := .inl trivial
  exact leads_checkRunning spares (fun _ _ => spared) fun _ _ => spared

theorem checkTag_keeps (register : Checksum.Register) (stored : ByteArray) (block : Nat) (run : Run ω) :
    Leads (checkTag register stored block run) (fun _ after => after = run) fun _ after => after = run := by
  rw [checkTag, leads_bind, leads_get]
  cases run.session.config.ignoreChecksum with
  | true => rfl
  | false =>
    cases Checksum.Register.readTag? register.algorithm stored with
    | none => rfl
    | some tag =>
      change Leads ((if tag ≠ register.value then throw _ else pure () : Transfer ω Unit) run) _ _
      split
      · rfl
      · rfl

theorem takeBlock_keeps_world (head : Head) (data : ByteArray) (unpacking : Unpacking) (number : Nat) (run : Run ω) :
    Leads (takeBlock head data unpacking number run)
      (fun _ after => after.world = run.world) fun _ after => after.world = run.world := by
  rw [takeBlock]
  dsimp only
  split
  · split
    · rw [leads_bind]
      refine (checkTag_keeps _ _ _ run).mono ?_ ?_
      · rintro _ after rfl
        rw [leads_bind, leads_tally]
        rfl
      · rintro failure after rfl
        rfl
    · rfl
  · rfl

/-- Blocks that come off an image stay in the session until they are written. -/
theorem unpack_keeps_world (head : Head) (group : Group) (data : ByteArray) (number count : Nat) (run : Run ω) :
    Leads (unpack head group data number count run)
      (fun _ after => after.world = run.world) fun _ after => after.world = run.world := by
  rw [unpack]
  refine leads_foldlM_range (fun _ _ (after : Run ω) => after.world = run.world) ?_ rfl
  rintro index unpacking after - same
  refine (takeBlock_keeps_world head data unpacking (number + index) after).mono ?_ ?_
  · exact fun _ _ still => still.trans same
  · exact fun _ _ still => still.trans same

/-! ### Steps that write -/

variable (writes : target.Writes kept view rest fails)

include writes

/-- A write of no more than the blocks of a marked chunk spares the holes, also where it fails halfway. -/
theorem writeAt_spares {chunk : Chunk}
    (all : ∀ block ∈ chunk.blocks, bitmap.get block = true) {data : ByteArray} (size : data.size ≤ chunk.count * width)
    {world : ω} (spared : Spared kept view bitmap width bytes world) :
    Leads (target.writeAt (chunk.first * width) data world)
      (fun _ after => Spared kept view bitmap width bytes after)
      fun _ after => Spared kept view bitmap width bytes after := by
  obtain ⟨held, overlaid⟩ := spared
  refine (writes.writeAt _ data world held).mono ?_ ?_
  · rintro _ after ⟨frame, placed⟩
    refine ⟨frame.kept, ?_⟩
    rw [placed]
    exact .more _ data overlaid fun place inside => Bitmap.covers_of_chunk all (by omega)
  · rintro cause after ⟨frame, _, same | ⟨done, within, placed⟩⟩
    · exact ⟨frame.kept, same ▸ overlaid⟩
    · -- A write that fails halfway has put a prefix, which reaches no further.
      refine ⟨frame.kept, ?_⟩
      rw [placed]
      refine .more _ (data.extract 0 done) overlaid fun place inside => Bitmap.covers_of_chunk all ?_
      rw [ByteArray.size_extract] at inside
      omega

theorem scatter_spares (cursor count : Nat) (blocks : ByteArray)
    {run : Run ω} (spared : Spared kept view bitmap width bytes run.world) :
    Leads (scatter target bitmap width cursor count blocks run)
      (fun _ after => Spared kept view bitmap width bytes after.world)
      fun _ after => Spared kept view bitmap width bytes after.world := by
  rw [scatter, leads_bind, leads_discard]
  refine (leads_foldlM (fun _ _ after => Spared kept view bitmap width bytes after.world) ?_ spared).weaken ?_
  · -- Whatever the bytes are, they are no more than the blocks of the run.
    intro chunk left position after member spared
    have all (block : Nat) (inside : block ∈ chunk.blocks) : bitmap.get block = true :=
      Bitmap.get_of_mem_runs member inside
    have size : (blocks.extract position (position + chunk.count * width)).size ≤ chunk.count * width := by
      rw [ByteArray.size_extract]
      omega
    rw [placeRun, leads_bind, leads_call]
    exact (writeAt_spares writes all size spared).weaken fun _ _ spared => spared
  · intro position after spared
    split
    · exact spared
    · exact spared

/-- A transfer that spares the holes still does when it ends with a request to sync, which may fail. -/
theorem conclude_spares {body : Transfer ω Unit} {run : Run ω}
    (spares : Leads (body run) (fun _ after => Spared kept view bitmap width bytes after.world)
      fun _ after => Spared kept view bitmap width bytes after.world) :
    Leads (conclude target.toSink body run)
      (fun _ after => Spared kept view bitmap width bytes after.world)
      fun _ after => Spared kept view bitmap width bytes after.world := by
  -- What holds of the view alone outlives the request to sync, which does not change the view.
  refine (leads_conclude writes.toWrites (fun _ _ seen _ => Bytes.Overlaid (bitmap.Covers width) bytes seen.bytes)
    (fun _ _ seen _ => Bytes.Overlaid (bitmap.Covers width) bytes seen.bytes) spares
    fun _ _ _ _ _ _ stands => stands).mono ?_ ?_
  · rintro summary after ⟨held, _, stands⟩
    exact ⟨held, stands⟩
  · exact fun _ _ spared => spared

/-! ### Copies and restores -/

theorem copyChunk_spares {source : Source ω} (apart : source.Apart kept view) {descriptor : Descriptor} {chunk : Chunk}
    (all : ∀ block ∈ chunk.blocks, bitmap.get block = true) {run : Run ω}
    (spared : Spared kept view bitmap descriptor.blockSize.toNat bytes run.world) :
    Leads (copyChunk owner source target descriptor chunk run)
      (fun _ after => Spared kept view bitmap descriptor.blockSize.toNat bytes after.world)
      fun _ after => Spared kept view bitmap descriptor.blockSize.toNat bytes after.world := by
  rw [copyChunk, leads_bind]
  refine (checkRunning_spares spared).weaken fun _ looked spared => ?_
  rw [leads_bind]
  refine (readRange_spares apart _ _ spared).weaken ?_
  rintro data read ⟨spared, size⟩
  rw [leads_bind, leads_attempt, leads_inWorld]
  have counts (after : Run ω) (spared : Spared kept view bitmap descriptor.blockSize.toNat bytes after.world) :
      Leads ((countBlocks chunk.count descriptor.blockSize.toNat >>= fun _ =>
          report owner descriptor.verifiedBlocks.toNat chunk.stop : Transfer ω Unit) after)
        (fun _ after => Spared kept view bitmap descriptor.blockSize.toNat bytes after.world)
        fun _ after => Spared kept view bitmap descriptor.blockSize.toNat bytes after.world := by
    have spares : owner.Spares (fun _ => True) after.running := .inl trivial
    rw [leads_bind, countBlocks, leads_tally]
    exact leads_report spares fun _ _ => spared
  -- A failed write ends the copy or is passed over; neither writes any more here.
  refine (writeAt_spares writes all (Nat.le_of_eq size) spared).mono ?_ ?_
  · rintro _ world spared
    exact counts { read with world } spared
  · rintro cause world spared
    rw [leads_bind, leads_get]
    split
    · exact counts _ spared
    · exact spared

theorem copyPartition_spares {source : Source ω} (apart : source.Apart kept view) (descriptor : Descriptor)
    (run : Run ω) (held : kept run.world) :
    Leads (copyPartition owner source target descriptor bitmap run)
      (fun _ after => Spared kept view bitmap descriptor.blockSize.toNat (view run.world).bytes after.world)
      fun _ after => Spared kept view bitmap descriptor.blockSize.toNat (view run.world).bytes after.world := by
  have start : Spared kept view bitmap descriptor.blockSize.toNat (view run.world).bytes run.world := ⟨held, .none⟩
  refine conclude_spares writes ?_
  rw [leads_bind, leads_get, leads_bind]
  refine leads_allocate (fun _ => ?_) fun _ _ _ => start
  rw [leads_bind, leads_enter]
  refine leads_forM (fun _ (after : Run ω) =>
    Spared kept view bitmap descriptor.blockSize.toNat (view run.world).bytes after.world) ?_ start
  intro chunk left after member spared
  exact copyChunk_spares writes apart (fun block inside => Bitmap.get_of_mem_chunks member inside) spared

theorem restoreChunk_spares {image : Stream ω} (apart : image.Apart kept view) (head : Head) (restored : Restored)
    (count : Nat) {run : Run ω} (spared : Spared kept view bitmap head.width bytes run.world) :
    Leads (restoreChunk owner image target head bitmap restored count run)
      (fun _ after => Spared kept view bitmap head.width bytes after.world)
      fun _ after => Spared kept view bitmap head.width bytes after.world := by
  rw [restoreChunk, leads_bind]
  refine (checkRunning_spares spared).weaken fun _ looked spared => ?_
  -- Up to the scattering nothing is written: the bytes are read and taken apart.
  obtain ⟨held, overlaid⟩ := spared
  rw [leads_bind, leads_call]
  refine (apart.readExactly _ looked.world held).mono ?_ fun _ _ frame => ⟨frame.kept, frame.rest ▸ overlaid⟩
  rintro data world ⟨frame, _⟩
  have spared : Spared kept view bitmap head.width bytes world := ⟨frame.kept, frame.rest ▸ overlaid⟩
  rw [leads_bind]
  refine (unpack_keeps_world ..).mono ?_ fun _ _ same => same ▸ spared
  intro unpacking unpacked same
  rw [leads_bind]
  refine (scatter_spares writes _ _ _ (same ▸ spared)).weaken fun cursor placed spared => ?_
  have spares : owner.Spares (fun _ => True) placed.running := .inl trivial
  rw [leads_bind, countBlocks, leads_tally, leads_bind]
  exact leads_report spares fun _ _ => spared

theorem restoreFrom_spares {image : Stream ω} (apart : image.Apart kept view) (head : Head) (capacity left : Nat)
    (restored : Restored) {run : Run ω} (spared : Spared kept view bitmap head.width bytes run.world) :
    Leads (restoreFrom owner image target head bitmap capacity left restored run)
      (fun _ after => Spared kept view bitmap head.width bytes after.world)
      fun _ after => Spared kept view bitmap head.width bytes after.world := by
  -- Each chunk takes at least one of the blocks that are left.
  induction left using Nat.strongRecOn generalizing restored run with
  | ind left ih =>
    rw [restoreFrom]
    split
    next none => exact spared
    next some =>
      rw [leads_bind]
      refine (restoreChunk_spares writes apart head restored _ spared).weaken fun restored after spared => ?_
      exact ih _ (by omega) restored spared

theorem restoreBlocks_spares {image : Stream ω} (apart : image.Apart kept view) (head : Head) (run : Run ω)
    (held : kept run.world) :
    Leads (restoreBlocks owner image target head bitmap run)
      (fun _ after => Spared kept view bitmap head.width (view run.world).bytes after.world)
      fun _ after => Spared kept view bitmap head.width (view run.world).bytes after.world := by
  have start : Spared kept view bitmap head.width (view run.world).bytes run.world := ⟨held, .none⟩
  refine conclude_spares writes ?_
  rw [leads_bind, leads_get, leads_bind]
  refine leads_allocate (fun _ => ?_) fun _ _ _ => start
  rw [leads_bind, leads_enter]
  exact restoreFrom_spares writes apart head _ _ _ start

end

/-- However a copy or a restore ends, bytes are laid over the target only where the bitmap marks blocks, and with a
bitmap that was taken from an image, only within the device that was imaged. -/
theorem transfers_spare_holes {σ : Type} (owner : Owner) (bitmap : Bitmap) (run : Run (σ × Device)) :
    (∀ (source : Source σ) (descriptor : Descriptor),
      Bytes.Confined (bitmap.Covers descriptor.blockSize.toNat) run.world.2.bytes
        (stateAfter
          (copyPartition owner source.ofFirst Device.target.ofSecond descriptor bitmap run)).world.2.bytes) ∧
    ∀ (image : Stream σ) (head : Head),
      Bytes.Confined (bitmap.Covers head.width) run.world.2.bytes
        (stateAfter (restoreBlocks owner image.ofFirst Device.target.ofSecond head bitmap run)).world.2.bytes ∧
      ∀ {τ : Type} (front : Stream τ) (opening opened : Run τ), readImage front opening = .ok (head, bitmap) opened →
        Bytes.Confined (· < head.descriptor.deviceSize.toNat) run.world.2.bytes
          (stateAfter (restoreBlocks owner image.ofFirst Device.target.ofSecond head bitmap run)).world.2.bytes := by
  constructor
  · intro source descriptor
    have apart : (source.ofFirst : Source (σ × Device)).Apart (fun _ => True) fun world => world.2.view :=
      source.ofFirst_apart fun _ _ held => held
    exact (copyPartition_spares Device.target_ofSecond_writes_all apart descriptor run trivial).stateAfter.2.confined
  · intro image head
    have apart : (image.ofFirst : Stream (σ × Device)).Apart (fun _ => True) fun world => world.2.view :=
      image.ofFirst_apart fun _ _ held => held
    have spared := @restoreBlocks_spares _ _ _ owner bitmap _ _ _ _ Device.target_ofSecond_writes_all _ apart head run
      trivial
    have overlaid := spared.stateAfter.2
    refine ⟨overlaid.confined, fun front opening opened answered => (overlaid.mono fun index covers => ?_).confined⟩
    -- The bitmap has as many blocks as the device, since it was read with the descriptor.
    rw [← (probed_of_readImage answered).deviceSize]
    exact covers.lt

theorem transfers_spare_sample : ∃ opened,
    readImage Device.source.ofFirst.toStream (sampleRestoring (Layout.image (imageOptions sampleImaging.session.config)
        .sample .sample [⟨#[7]⟩, ⟨#[9]⟩])) = .ok (.written sampleImaging.session.config .sample, .sample) opened ∧
      Bytes.Confined (· < 3) opened.world.2.bytes
        (stateAfter (restoreBlocks {} Device.source.toStream.ofFirst Device.target.ofSecond
          (.written sampleImaging.session.config .sample) .sample opened)).world.2.bytes := by
  obtain ⟨opened, answered, _⟩ := readImage_of_restorable Probed.sample (sampleRestoring_restorable _)
    (Bytes.extract_eq_self (Nat.le_refl _))
  refine ⟨opened, answered, ?_⟩
  exact ((transfers_spare_holes {} .sample opened).2 Device.source.toStream _).2 Device.source.ofFirst.toStream _ opened
    answered

end Transfer

end BlockImage
