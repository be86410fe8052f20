import BlockImage.Proofs.Transfer.BadSectors
import BlockImage.Proofs.Transfer.InTurn
import Mathlib.Data.List.Find

/-!
# Comparisons are exact

Two partitions are compared chunk by chunk, and of each chunk the digests of what both sides hold. As long as no two
different ones of them have the same digest, the outcome is that of comparing all allocated blocks: it does not depend on
how the blocks are cut, nor on what is in the other blocks.
-/
namespace BlockImage

variable {σ τ ω δ : Type}

namespace Transfer

/-- The failure of a comparison that names the first chunk in which two sides differ. -/
def mismatch (differ : Chunk → Bool) (chunks : List Chunk) : Option Error :=
  (chunks.find? differ).map fun chunk => .verifyMismatch chunk.first

section

variable {differ differ' : Chunk → Bool} {chunk : Chunk} {chunks : List Chunk}

theorem mismatch_cons_of_differ (found : differ chunk = true) :
    mismatch differ (chunk :: chunks) = some (.verifyMismatch chunk.first) := by
  rw [mismatch, List.find?_cons_of_pos found]
  rfl

theorem mismatch_cons_of_same (same : differ chunk = false) :
    mismatch differ (chunk :: chunks) = mismatch differ chunks := by
  rw [mismatch, List.find?_cons_of_neg (Bool.eq_false_iff.mp same), mismatch]

theorem mismatch_eq_none_iff : mismatch differ chunks = none ↔ ∀ chunk ∈ chunks, differ chunk = false := by
  simp [mismatch]

theorem mismatch_congr (same : ∀ chunk ∈ chunks, differ chunk = differ' chunk) :
    mismatch differ chunks = mismatch differ' chunks := by
  rw [mismatch, mismatch, List.find?_congr same]

end

/-! ### Comparing digests -/

section

variable [DecidableEq δ] (digest : ByteArray → δ)

/-- Compares the digests of what both sides hold of a chunk. -/
def verifyChunkBy (owner : Owner) (source copy : Source ω) (blockSize : Nat) (chunk : Chunk) : Transfer ω Unit := do
  let offset := chunk.first * blockSize
  let size := chunk.count * blockSize
  checkRunning owner
  let expected ← readRange source offset size
  let found ← call (copy.readAt offset size) (.read offset)
  if digest expected ≠ digest found then throw (.verifyMismatch chunk.first)

/-- Compares the digests of all chunks of both sides. -/
def verifyPartitionBy (owner : Owner) (source copy : Source ω) (descriptor : Descriptor) (bitmap : Bitmap) :
    Transfer ω Unit :=
  settling do
    enter .finalizing
    let config := (← get).session.config
    let blockSize := descriptor.blockSize.toNat
    allocate (verifyingBuffers config blockSize)
    (bitmap.chunks (config.chunkCapacity blockSize)).forM (verifyChunkBy digest owner source copy blockSize)
    enter .done

/-- Bytes that are compared themselves are their own digests. -/
theorem verifyPartitionBy_id : @verifyPartitionBy ω ByteArray _ id = verifyPartition := rfl

variable {source : Source σ} {copy : Source τ} {owner : Owner} {width : Nat} {chunks : List Chunk}
  {expected found : Chunk → ByteArray} {second last : τ} {run : Run (σ × τ)} {alone done : Run σ}

/-- The first chunk with different digests ends the comparison. -/
theorem verifyChunks_leads (quiet : owner.Quiet) (like : ReadsLike second run alone)
    (given : readChunks source width chunks alone = .ok (chunks.map expected) done)
    (came : copy.readChunks width chunks second = .ok (chunks.map found) last) :
    Leads (chunks.forM (verifyChunkBy digest owner source.ofFirst copy.ofSecond width) run)
      (fun _ _ => mismatch (fun chunk => digest (expected chunk) ≠ digest (found chunk)) chunks = none)
      fun failure _ =>
        mismatch (fun chunk => digest (expected chunk) ≠ digest (found chunk)) chunks = some failure := by
  -- The two passes that are given and the comparison go through the chunks together.
  induction chunks generalizing run alone second with
  | nil => rfl
  | cons chunk chunks ih =>
    obtain ⟨between, data, given⟩ := mapM_cons_eq_ok.mp given
    obtain ⟨second', copied, came⟩ := mapM_cons_eq_ok.mp came
    have steps : (chunk :: chunks).forM (verifyChunkBy digest owner source.ofFirst copy.ofSecond width) =
      verifyChunkBy digest owner source.ofFirst copy.ofSecond width chunk >>= fun _ =>
        chunks.forM (verifyChunkBy digest owner source.ofFirst copy.ofSecond width) := rfl
    rw [steps, leads_bind, verifyChunkBy, leads_bind]
    have spares : owner.Spares (fun _ => False) run.running := .inr ⟨quiet, like.running⟩
    refine leads_checkRunning spares (fun running spares => ?_) fun _ none => none.elim
    obtain ⟨_, rfl⟩ := spares.resolve_left id
    have looked : ReadsLike second { run with running := true, looks := run.looks + 1 } alone :=
      { like with running := rfl }
    -- Both sides are read as if each of them were alone.
    obtain ⟨there, read, like⟩ := (readRange_ofFirst_agrees source second _ _ looked).exists_ok data
    obtain ⟨world, read', same⟩ := ((ofSecond_agree copy between.world).readAt _ _ like.world).exists_ok copied
    rw [leads_bind, read, leads_ok, leads_bind, leads_call, read', leads_ok]
    split
    next differ => exact mismatch_cons_of_differ (decide_eq_true differ)
    next equal =>
      rw [mismatch_cons_of_same (decide_eq_false equal)]
      exact ih { like with world := same } given came

/-- A comparison that only its sides can disturb ends with the first chunk with different digests. -/
theorem failureOf_verifyPartitionBy {descriptor : Descriptor} {bitmap : Bitmap}
    (left : LeftAlone owner run (verifyingBuffers run.session.config descriptor.blockSize.toNat))
    (cut : chunks = bitmap.chunks (run.session.config.chunkCapacity descriptor.blockSize.toNat))
    (given : readChunks source descriptor.blockSize.toNat chunks
      { session := run.session, world := run.world.1, grants := run.grants } = .ok (chunks.map expected) done)
    (came : copy.readChunks descriptor.blockSize.toNat chunks run.world.2 = .ok (chunks.map found) last) :
    failureOf (verifyPartitionBy digest owner source.ofFirst copy.ofSecond descriptor bitmap run) =
      mismatch (fun chunk => digest (expected chunk) ≠ digest (found chunk)) chunks := by
  subst cut
  refine Leads.failureOf ?_
  rw [verifyPartitionBy, leads_settling, leads_bind, leads_enter, leads_bind, leads_get, leads_bind]
  refine leads_allocate (fun _ => ?_) fun size member refused => absurd (left.granted size member) refused
  rw [leads_bind]
  refine Leads.weaken (verifyChunks_leads digest left.quiet ⟨rfl, rfl, left.running, rfl⟩ given came) ?_
  intro _ after same
  rw [leads_enter]
  exact same

end

/-! ### Comparing blocks -/

/-- What two sides hold of the chunks that are compared does not have the same digest unless it is the same. -/
def NoCollision (digest : ByteArray → δ) (width : Nat) (chunks : List Chunk) (content copy : ByteArray) : Prop :=
  ∀ chunk ∈ chunks, digest (Bytes.chunkAt width content chunk) = digest (Bytes.chunkAt width copy chunk) →
    Bytes.chunkAt width content chunk = Bytes.chunkAt width copy chunk

instance [DecidableEq δ] (digest : ByteArray → δ) (width : Nat) (chunks : List Chunk) (content copy : ByteArray) :
    Decidable (NoCollision digest width chunks content copy) :=
  inferInstanceAs (Decidable (∀ chunk ∈ chunks, _ → _))

/-- The failure that names the first chunk with a block that differs. -/
def firstMismatch (bitmap : Bitmap) (capacity : Nat) (expected found : Nat → ByteArray) : Option Error :=
  mismatch (fun chunk => chunk.blocks.any fun block => expected block ≠ found block) (bitmap.chunks capacity)

/-- Whether a comparison fails, and how, is told by the allocated blocks alone. -/
structure ToldByBlocks (bitmap : Bitmap) (capacity : Nat) (expected found : Nat → ByteArray) (outcome : Option Error) :
    Prop where
  /-- It does not fail if and only if all allocated blocks are the same. -/
  passes : outcome = none ↔ ∀ block, bitmap.get block = true → found block = expected block
  /-- And else it names the first chunk that differs, whatever is in blocks that are not allocated. -/
  names : ∀ expected' found', (∀ block, bitmap.get block = true →
    expected' block = expected block ∧ found' block = found block) →
      outcome = firstMismatch bitmap capacity expected' found'

section

variable {bitmap : Bitmap} {capacity width : Nat} {expected found expected' found' : Nat → ByteArray}
  {content copy : ByteArray}

theorem firstMismatch_congr (same : ∀ block, bitmap.get block = true →
    expected' block = expected block ∧ found' block = found block) :
    firstMismatch bitmap capacity expected found = firstMismatch bitmap capacity expected' found' := by
  refine mismatch_congr fun chunk member => ?_
  rw [Bool.eq_iff_iff, List.any_eq_true, List.any_eq_true]
  refine exists_congr fun block => and_congr_right fun inside => ?_
  obtain ⟨first, second⟩ := same block (Bitmap.get_of_mem_chunks member inside)
  rw [first, second]

theorem firstMismatch_eq_none_iff : firstMismatch bitmap capacity expected found = none ↔
    ∀ block, bitmap.get block = true → found block = expected block := by
  rw [firstMismatch, mismatch_eq_none_iff]
  simp only [List.any_eq_false, decide_eq_true_eq, not_not]
  constructor
  · intro same block allocated
    rw [← Bitmap.mem_marked, ← bitmap.flatMap_chunks capacity, List.mem_flatMap] at allocated
    obtain ⟨chunk, member, inside⟩ := allocated
    exact (same chunk member block inside).symm
  · intro same chunk member block inside
    exact (same block (Bitmap.get_of_mem_chunks member inside)).symm

theorem toldByBlocks_firstMismatch :
    ToldByBlocks bitmap capacity expected found (firstMismatch bitmap capacity expected found) where
  passes := firstMismatch_eq_none_iff
  names _ _ same := firstMismatch_congr same

/-- Digests that do not collide differ where blocks do. -/
theorem mismatch_eq_firstMismatch [DecidableEq δ] {digest : ByteArray → δ} (wide : 0 < width)
    (inside : ∀ chunk ∈ bitmap.chunks capacity, chunk.stop * width ≤ content.size)
    (inside' : ∀ chunk ∈ bitmap.chunks capacity, chunk.stop * width ≤ copy.size)
    (resists : NoCollision digest width (bitmap.chunks capacity) content copy) :
    mismatch (fun chunk => digest (Bytes.chunkAt width content chunk) ≠ digest (Bytes.chunkAt width copy chunk))
        (bitmap.chunks capacity) =
      firstMismatch bitmap capacity (Bytes.blockAt width content) (Bytes.blockAt width copy) := by
  refine mismatch_congr fun chunk member => ?_
  have same : digest (Bytes.chunkAt width content chunk) = digest (Bytes.chunkAt width copy chunk) ↔
      ∀ block ∈ chunk.blocks, Bytes.blockAt width content block = Bytes.blockAt width copy block :=
    ⟨fun same => (Bytes.chunkAt_eq_iff wide (inside chunk member) (inside' chunk member)).mp
        (resists chunk member same),
      fun same => congrArg digest
        ((Bytes.chunkAt_eq_iff wide (inside chunk member) (inside' chunk member)).mpr same)⟩
  rw [Bool.eq_iff_iff, decide_eq_true_iff, List.any_eq_true, Ne, same, not_forall₂]
  simp

/-- Behind the end of a source zeros are read, so that all its chunks are there. -/
theorem stop_le_size_padded (bytes : ByteArray) (width : Nat) {chunk : Chunk}
    (member : chunk ∈ bitmap.chunks capacity) : chunk.stop * width ≤ (Bytes.padded bytes (bitmap.total * width)).size := by
  rw [Bytes.size_padded]
  exact Nat.le_trans (Nat.mul_le_mul_right _ (Bitmap.stop_le_total member)) (Nat.le_max_right _ _)

theorem stop_le_size_blank (bytes : ByteArray) (width : Nat) (lost : List (Nat × Nat)) {chunk : Chunk}
    (member : chunk ∈ bitmap.chunks capacity) :
    chunk.stop * width ≤ (Bytes.blank (Bytes.padded bytes (bitmap.total * width)) lost).size :=
  Nat.le_trans (stop_le_size_padded bytes width member) (Bytes.size_le_size_blank _ _)

end

/-! ### Comparing what was copied -/

/-- A session has gone on from where it started with the same settings and memory, and its target with the same
faults. -/
structure GoesOn (kept : σ → Prop) (start run : Run (σ × Device)) : Prop where
  kept : kept run.world.1
  config : run.session.config = start.session.config
  grants : run.grants = start.grants
  faults : run.world.2.faults = start.world.2.faults

section

variable {source : Source σ} {kept : σ → Prop} {bytes : ByteArray} {bad : Nat → Bool} {owner : Owner}
  {descriptor : Descriptor} {bitmap : Bitmap} {start : Run (σ × Device)} (outside : source.ReadsOutside kept bytes bad)

include outside

/-- A range that has come in can be read or was rescued. -/
theorem readRange_comes {offset wanted : Nat} (run : Run (σ × τ)) (held : kept run.world.1) :
    Leads (readRange source.ofFirst offset wanted run)
      (fun _ after => (kept after.world.1 ∧ after.session.config = run.session.config ∧ after.grants = run.grants ∧
          after.world.2 = run.world.2) ∧
        (readable bytes.size bad offset wanted = true ∨ run.session.config.rescue = true))
      fun _ _ => True := by
  by_cases comes : readable bytes.size bad offset wanted = true ∨ run.session.config.rescue = true
  · -- The laws of rescue ask for a content that reaches over the range.
    have inside : offset + wanted ≤ (Bytes.padded bytes (offset + wanted)).size := by
      rw [Bytes.size_padded]
      exact Nat.le_max_right _ _
    refine (readRange_leads_of_readsOutside outside inside held comes).mono ?_ fun _ _ _ => trivial
    rintro _ _ ⟨_, world, rfl, frame⟩
    exact ⟨⟨frame.kept, rfl, rfl, frame.rest⟩, comes⟩
  · -- Neither of the two: the first attempt fails, and there is no other one.
    rw [readRange, leads_bind, leads_attempt, leads_inWorld]
    refine (leads_readAt_ofFirst outside held).mono ?_ ?_
    · exact fun _ _ given => absurd (.inl given.2.1) comes
    · intro cause after _
      rw [leads_bind, leads_get, if_neg fun rescues => comes (.inr rescues)]
      trivial

theorem copyChunk_comes {chunk : Chunk} {run : Run (σ × Device)} (goes : GoesOn kept start run) :
    Leads (copyChunk owner source.ofFirst Device.target.ofSecond descriptor chunk run)
      (fun _ after => GoesOn kept start after ∧
        (readable bytes.size bad (chunk.first * descriptor.blockSize.toNat)
          (chunk.count * descriptor.blockSize.toNat) = true ∨ start.session.config.rescue = true))
      fun _ _ => True := by
  rw [copyChunk, leads_bind]
  have spares (running : Bool) : owner.Spares (fun _ => True) running := .inl trivial
  refine leads_checkRunning (spares _) (fun running _ => ?_) fun _ _ => trivial
  rw [leads_bind]
  refine (readRange_comes outside { run with running, looks := run.looks + 1 } goes.kept).weaken ?_
  rintro data read ⟨⟨held, settings, granted, second⟩, comes⟩
  have settings : read.session.config = start.session.config := settings.trans goes.config
  have granted : read.grants = start.grants := granted.trans goes.grants
  have faults : read.world.2.faults = start.world.2.faults := second ▸ goes.faults
  let came : Prop := readable bytes.size bad (chunk.first * descriptor.blockSize.toNat)
    (chunk.count * descriptor.blockSize.toNat) = true ∨ start.session.config.rescue = true
  have comes : came := comes.imp_right fun rescues => goes.config ▸ rescues
  -- Counting and telling change neither side.
  have counted {run' : Run (σ × Device)} (goes : GoesOn kept start run') :
      Leads ((countBlocks chunk.count descriptor.blockSize.toNat >>= fun _ =>
          report owner descriptor.verifiedBlocks.toNat chunk.stop : Transfer (σ × Device) Unit) run')
        (fun _ after => GoesOn kept start after ∧ came) fun _ _ => True := by
    rw [leads_bind, countBlocks, leads_tally]
    exact leads_report (spares _) fun _ _ => ⟨{ goes with }, comes⟩
  rw [leads_bind, leads_attempt, leads_inWorld, Target.writeAt_ofSecond, leads_onSecond]
  refine ((Device.target_writes start.world.2.faults).writeAt _ data read.world.2 faults).mono ?_ ?_
  · exact fun _ second wrote => counted ⟨held, settings, granted, wrote.1.kept⟩
  · intro cause second failed
    rw [leads_bind, leads_get]
    split
    next skips =>
      rw [leads_bind, leads_tally]
      exact counted ⟨held, settings, granted, failed.1.kept⟩
    next => trivial

/-- What a copy is through with has come in, and the source is as it was. -/
theorem comes_of_copied {after : Run (σ × Device)} {summary : Summary} (held : kept start.world.1)
    (copied : copyPartition owner source.ofFirst Device.target.ofSecond descriptor bitmap start = .ok summary after) :
    GoesOn kept start after ∧
      ∀ chunk ∈ bitmap.chunks (start.session.config.chunkCapacity descriptor.blockSize.toNat),
        readable bytes.size bad (chunk.first * descriptor.blockSize.toNat)
          (chunk.count * descriptor.blockSize.toNat) = true ∨ start.session.config.rescue = true := by
  let chunks := bitmap.chunks (start.session.config.chunkCapacity descriptor.blockSize.toNat)
  let comes (chunk : Chunk) : Prop := readable bytes.size bad (chunk.first * descriptor.blockSize.toNat)
    (chunk.count * descriptor.blockSize.toNat) = true ∨ start.session.config.rescue = true
  obtain ⟨through, world, came, synced, _, rfl⟩ := exists_of_conclude copied
  have leads : Leads ((do
      let config := (← get).session.config
      let blockSize := descriptor.blockSize.toNat
      allocate (copyingBuffers config blockSize)
      enter .transferring
      (bitmap.chunks (config.chunkCapacity blockSize)).forM
        (copyChunk owner source.ofFirst Device.target.ofSecond descriptor) : Transfer (σ × Device) Unit) start)
      (fun _ run => GoesOn kept start run ∧ ∀ chunk ∈ chunks, comes chunk) fun _ _ => True := by
    rw [leads_bind, leads_get, leads_bind]
    refine leads_allocate (fun _ => ?_) fun _ _ _ => trivial
    rw [leads_bind, leads_enter]
    -- Of the chunks some are passed, and the others are left.
    let holds (left : List Chunk) (run : Run (σ × Device)) : Prop :=
      GoesOn kept start run ∧ ∃ passed, chunks = passed ++ left ∧ ∀ chunk ∈ passed, comes chunk
    refine Leads.weaken (leads_forM holds ?_ ⟨⟨held, rfl, rfl, rfl⟩, [], rfl, nofun⟩) ?_
    · rintro chunk left run _ ⟨goes, passed, next, fine⟩
      refine (copyChunk_comes outside goes).weaken ?_
      rintro _ after ⟨goes, came⟩
      refine ⟨goes, passed ++ [chunk], by rw [next, List.append_assoc]; rfl, fun other member => ?_⟩
      rcases List.mem_append.mp member with earlier | new
      · exact fine other earlier
      · exact List.mem_singleton.mp new ▸ came
    · rintro _ run ⟨goes, passed, all, fine⟩
      rw [List.append_nil] at all
      exact ⟨goes, all ▸ fine⟩
  obtain ⟨goes, came⟩ := leads.of_ok came
  have stands := (Device.target_ofSecond_syncs kept start.world.2.faults through.world ⟨goes.kept, goes.faults⟩).of_ok
    synced
  exact ⟨⟨stands.1.kept.1, goes.config, goes.grants, stands.1.kept.2⟩, came⟩

/-- What a copy without failed writes leaves of the allocated blocks is what has come in of them. -/
theorem blockAt_of_copied {after : Run (σ × Device)} {summary : Summary} (held : kept start.world.1)
    (copied : copyPartition owner source.ofFirst Device.target.ofSecond descriptor bitmap start = .ok summary after)
    (none : summary.skippedBlocks = 0) {block : Nat} (allocated : bitmap.get block = true) :
    Bytes.blockAt descriptor.blockSize.toNat after.world.2.bytes block = Bytes.blockAt descriptor.blockSize.toNat
      (rescuedContent start.session.config descriptor bitmap bytes bad) block := by
  let width := descriptor.blockSize.toNat
  let chunks := bitmap.chunks (start.session.config.chunkCapacity width)
  let content := rescuedContent start.session.config descriptor bitmap bytes bad
  have ascending := bitmap.chunks_ascending (start.session.config.chunkCapacity width)
  have gives := @givesContent_rescued (bitmap.total * width) width bad chunks σ Device source kept bytes outside
    start.session.config ascending (fun _ => stop_le_size_padded bytes width) (comes_of_copied outside held copied).2
  have through := @copyPartition_leads σ kept owner (fun _ => True) descriptor content _ start source chunks bitmap
    gives rfl held (.inl trivial) (fun _ _ _ => trivial) fun _ _ _ => trivial
  obtain ⟨_, skipped, _, left, _⟩ := through.of_ok copied
  rw [none] at skipped
  have inside : ∀ chunk ∈ chunks, chunk.stop * width ≤ content.size := fun _ => stop_le_size_blank bytes width _
  have laid := laid_attempts ascending inside start.world.2
  rw [← left] at laid
  -- The block is in a chunk, whose write came to something.
  rw [← Bitmap.mem_marked, ← bitmap.flatMap_chunks (start.session.config.chunkCapacity width),
    List.mem_flatMap] at allocated
  obtain ⟨chunk, member, among⟩ := allocated
  have tried : chunk ∈ (attempts width content chunks start.world.2).map Attempt.chunk :=
    (map_chunk_attempts chunks start.world.2).symm ▸ member
  obtain ⟨attempt, listed, rfl⟩ := List.mem_map.mp tried
  refine (laid.copied attempt listed ?_ block among).2
  by_contra failed
  -- A failed write would have its blocks counted.
  have counted : attempt.chunk ∈ failedChunks (attempts width content chunks start.world.2) :=
    List.mem_map_of_mem (List.mem_filter.mpr ⟨listed, Option.isSome_iff_ne_none.mpr failed⟩)
  have blocks : block ∈ (failedChunks (attempts width content chunks start.world.2)).flatMap Chunk.blocks :=
    List.mem_flatMap.mpr ⟨_, counted, among⟩
  have some := List.length_pos_of_mem blocks
  rw [← Chunk.total_eq] at some
  change 0 = _ + Chunk.total (failedChunks (attempts width content chunks start.world.2)) at skipped
  omega

end

/-- Where the digests of the chunks that are compared do not collide, a comparison tells whether all allocated blocks are
the same, and else names the first chunk in which they are not. On the side of the source, zeros stand for the sectors that
cannot be read even when their chunk is rescued; where its bad places stay, these are its unreadable sectors. What was
just copied with the same settings and without failed writes is always found to be the same. -/
theorem verification_is_exact [DecidableEq δ] (digest : ByteArray → δ) {source : Source σ} {kept : σ → Prop}
    {view : σ → View} {fails : IoError → Prop} {bytes : ByteArray} (reads : source.Reads kept view (fun _ => ()) fails)
    (holds : ∀ world, kept world → (view world).bytes = bytes) (owner : Owner) {descriptor : Descriptor}
    (wide : 0 < descriptor.blockSize.toNat) (bitmap : Bitmap) {start : Run (σ × Device)} (held : kept start.world.1)
    (left : LeftAlone owner start (verifyingBuffers start.session.config descriptor.blockSize.toNat))
    {copies : List ByteArray} {device : Device} (found : Device.source.readChunks descriptor.blockSize.toNat
      (bitmap.chunks (start.session.config.chunkCapacity descriptor.blockSize.toNat)) start.world.2 = .ok copies device) :
    let width := descriptor.blockSize.toNat
    let capacity := start.session.config.chunkCapacity width
    let chunks := bitmap.chunks capacity
    let copy := start.world.2.bytes
    let outcome := failureOf
      (verifyPartitionBy digest owner source.ofFirst Device.source.ofSecond descriptor bitmap start)
    (∀ given last, readChunks source width chunks
        { session := start.session, world := start.world.1, grants := start.grants } = .ok given last →
      ∃ lost, (∀ piece ∈ lost, start.session.config.rescue = true ∧ ∃ chunk ∈ chunks,
          source.Lacks kept (chunk.first * width) (chunk.count * width) piece) ∧
        let content := Bytes.blank (Bytes.padded bytes (bitmap.total * width)) lost
        given = chunks.map (Bytes.chunkAt width content) ∧
        (NoCollision digest width chunks content copy →
          ToldByBlocks bitmap capacity (Bytes.blockAt width content) (Bytes.blockAt width copy) outcome)) ∧
    (∀ bad, source.ReadsOutside kept bytes bad →
      (∀ chunk ∈ chunks, readable bytes.size bad (chunk.first * width) (chunk.count * width) = true ∨
        start.session.config.rescue = true) →
      let content := rescuedContent start.session.config descriptor bitmap bytes bad
      NoCollision digest width chunks content copy →
        ToldByBlocks bitmap capacity (Bytes.blockAt width content) (Bytes.blockAt width copy) outcome) ∧
    ∀ bad copier copying summary after, source.ReadsOutside kept bytes bad → kept copying.world.1 →
      copying.session.config = start.session.config →
      copyPartition copier source.ofFirst Device.target.ofSecond descriptor bitmap copying = .ok summary after →
      summary.skippedBlocks = 0 → start.world = after.world → outcome = none := by
  intro width capacity chunks copy outcome
  obtain ⟨rfl, inside⟩ := ((Device.source_reads copy).readChunks (fun _ held => held) wide
    (fun _ => Bitmap.count_pos_of_mem_chunks) rfl).of_ok found
  have ascending := bitmap.chunks_ascending capacity
  -- Once it is known what comes of the source, the digests tell how the comparison ends, and for them the blocks.
  let alone : Run σ := { session := start.session, world := start.world.1, grants := start.grants }
  have compared {content : ByteArray} {last : Run σ}
      (given : readChunks source width chunks alone = .ok (chunks.map (Bytes.chunkAt width content)) last) :
      outcome = mismatch
        (fun chunk => digest (Bytes.chunkAt width content chunk) ≠ digest (Bytes.chunkAt width copy chunk)) chunks :=
    failureOf_verifyPartitionBy digest left rfl given found
  have told {content : ByteArray} {last : Run σ} (whole : ∀ chunk ∈ chunks, chunk.stop * width ≤ content.size)
      (given : readChunks source width chunks alone = .ok (chunks.map (Bytes.chunkAt width content)) last)
      (resists : NoCollision digest width chunks content copy) :
      ToldByBlocks bitmap capacity (Bytes.blockAt width content) (Bytes.blockAt width copy) outcome := by
    rw [compared given, mismatch_eq_firstMismatch wide whole inside resists]
    exact toldByBlocks_firstMismatch
  refine ⟨?_, ?_, ?_⟩
  · -- Whatever the faults of the source are, what came of it is salvaged from its bytes.
    intro given last came
    have salvaged := (readChunks_salvages reads holds (fun _ => stop_le_size_padded bytes width) held).of_ok came
    obtain ⟨lost, lacked, rfl⟩ := exists_salvaged ascending (fun _ => stop_le_size_padded bytes width) salvaged
    exact ⟨lost, lacked, rfl, told (fun _ => stop_le_size_blank bytes width lost) came⟩
  · -- If its bad places stay, what came is what a rescue leaves of its bytes.
    intro bad outside comes content resists
    obtain ⟨last, came⟩ := readChunks_rescued outside ascending (fun _ => stop_le_size_padded bytes width)
      alone held comes
    exact told (fun _ => stop_le_size_blank bytes width _) came resists
  · -- That is what was copied as well, so that both sides have the same digests, whether or not these collide.
    intro bad copier copying summary after outside before settings copied none stands
    have came := (comes_of_copied outside before copied).2
    rw [settings] at came
    obtain ⟨last, came⟩ := readChunks_rescued outside ascending (fun _ => stop_le_size_padded bytes width)
      alone held came
    rw [compared came, mismatch_eq_none_iff]
    intro chunk member
    refine decide_eq_false (not_not.mpr (congrArg digest ?_))
    refine (Bytes.chunkAt_eq_iff wide (stop_le_size_blank bytes width _ member) (inside chunk member)).mpr ?_
    intro block among
    have same := blockAt_of_copied outside before copied none (Bitmap.get_of_mem_chunks member among)
    rw [settings, ← stands] at same
    exact same.symm

/-- SHA-256 of the bytes 5, 7 and 9. -/
def sampleDigest (bytes : ByteArray) : ByteArray :=
  if bytes = ⟨#[5]⟩ then
    ⟨#[0xe7, 0x7b, 0x9a, 0x9a, 0xe9, 0xe3, 0x0b, 0x0d, 0xbd, 0xb6, 0xf5, 0x10, 0xa2, 0x64, 0xef, 0x9d,
      0xe7, 0x81, 0x50, 0x1d, 0x7b, 0x6b, 0x92, 0xae, 0x89, 0xeb, 0x05, 0x9c, 0x5a, 0xb7, 0x43, 0xdb]⟩
  else if bytes = ⟨#[7]⟩ then
    ⟨#[0xca, 0x35, 0x87, 0x58, 0xf6, 0xd2, 0x7e, 0x6c, 0xf4, 0x52, 0x72, 0x93, 0x79, 0x77, 0xa7, 0x48,
      0xfd, 0x88, 0x39, 0x1d, 0xb6, 0x79, 0xce, 0xda, 0x7d, 0xc7, 0xbf, 0x1f, 0x00, 0x5e, 0xe8, 0x79]⟩
  else if bytes = ⟨#[9]⟩ then
    ⟨#[0x2b, 0x4c, 0x34, 0x2f, 0x54, 0x33, 0xeb, 0xe5, 0x91, 0xa1, 0xda, 0x77, 0xe0, 0x13, 0xd1, 0xb7,
      0x24, 0x75, 0x56, 0x2d, 0x48, 0x57, 0x8d, 0xca, 0x8b, 0x84, 0xba, 0xc6, 0x65, 0x1c, 0x3c, 0xb9]⟩
  else ByteArray.empty

/-- A partition of three bytes, of which the middle one is not allocated, beside another one. -/
def sampleComparing (copy : ByteArray) : Run (Device × Device) where
  session := { direction := .toPartition, config := { bufferSize := 1 } }
  world := ({ bytes := ⟨#[7, 8, 9]⟩ }, { bytes := copy })

/-- Of three bytes all chunks of the sample can be read. -/
theorem readable_sample {size capacity : Nat} (long : 3 ≤ size) : ∀ chunk ∈ Bitmap.sample.chunks capacity,
    readable size (fun _ => false) (chunk.first * Descriptor.sample.blockSize.toNat)
      (chunk.count * Descriptor.sample.blockSize.toNat) = true := by
  intro chunk member
  refine readable_of_le ?_
  have within : chunk.stop ≤ 3 := Bitmap.stop_le_total member
  rw [← Nat.add_mul]
  exact Nat.le_trans (Nat.mul_le_mul_right _ within) long

theorem sampleComparing_found (device : Device) (faults : device.faults = .none) (long : 3 ≤ device.bytes.size) :
    ∃ copies last, Device.source.readChunks Descriptor.sample.blockSize.toNat
      (Bitmap.sample.chunks ((sampleComparing ByteArray.empty).session.config.chunkCapacity
        Descriptor.sample.blockSize.toNat)) device = .ok copies last :=
  (Device.readsOutside Faults.none_spoiltAt device.bytes).readChunks (readable_sample long) ⟨rfl, faults⟩

/-- The middle byte does not matter, the last one does, and what was copied is the same. -/
theorem verification_is_exact_sample :
    failureOf (verifyPartitionBy sampleDigest {} Device.source.ofFirst Device.source.ofSecond .sample .sample
      (sampleComparing ⟨#[7, 1, 9]⟩)) = none ∧
    failureOf (verifyPartitionBy sampleDigest {} Device.source.ofFirst Device.source.ofSecond .sample .sample
      (sampleComparing ⟨#[7, 8, 5]⟩)) = some (.verifyMismatch 2) ∧
    ∃ summary after, copyPartition {} Device.source.ofFirst Device.target.ofSecond .sample .sample
        (sampleComparing ByteArray.empty) = .ok summary after ∧
      failureOf (verifyPartitionBy sampleDigest {} Device.source.ofFirst Device.source.ofSecond .sample .sample
        { after with running := true }) = none := by
  have reads := Device.source_reads_same ⟨#[7, 8, 9]⟩ .none
  have outside := Device.readsOutside Faults.none_spoiltAt ⟨#[7, 8, 9]⟩
  have left (start : Run (Device × Device)) (settings : start.session.config = { bufferSize := 1 })
      (grants : start.grants = addressable) (running : start.running = true) :
      LeftAlone {} start (verifyingBuffers start.session.config Descriptor.sample.blockSize.toNat) := by
    rw [settings]
    exact ⟨Owner.quiet_default, running, grants ▸ by decide⟩
  let width := Descriptor.sample.blockSize.toNat
  let capacity := Config.chunkCapacity { bufferSize := 1 } width
  let content := rescuedContent { bufferSize := 1 } .sample .sample ⟨#[7, 8, 9]⟩ fun _ => false
  -- Whether a copy is found to be the same is told by its blocks.
  have compared (copy : ByteArray) (long : 3 ≤ copy.size)
      (resists : NoCollision sampleDigest width (Bitmap.sample.chunks capacity) content copy) :
      failureOf (verifyPartitionBy sampleDigest {} Device.source.ofFirst Device.source.ofSecond .sample .sample
        (sampleComparing copy)) =
      firstMismatch .sample capacity (Bytes.blockAt width content) (Bytes.blockAt width copy) := by
    obtain ⟨_, _, found⟩ := sampleComparing_found (sampleComparing copy).world.2 rfl long
    obtain ⟨_, exact, _⟩ := verification_is_exact sampleDigest reads (fun _ held => held.1) {} (by decide) .sample
      ⟨rfl, rfl⟩ (left (sampleComparing copy) rfl rfl rfl) found
    have told := exact _ outside (fun chunk member => .inl (readable_sample (Nat.le_refl 3) chunk member)) resists
    exact told.names _ _ fun _ _ => ⟨rfl, rfl⟩
  refine ⟨?_, ?_, ?_⟩
  · exact (compared ⟨#[7, 1, 9]⟩ (by decide) (by decide +kernel)).trans (by decide +kernel)
  · exact (compared ⟨#[7, 8, 5]⟩ (by decide) (by decide +kernel)).trans (by decide +kernel)
  · let start := sampleComparing ByteArray.empty
    let width := Descriptor.sample.blockSize.toNat
    let chunks := Bitmap.sample.chunks (start.session.config.chunkCapacity width)
    have gives := @givesContent_rescued (Bitmap.sample.total * width) width (fun _ => false) chunks Device Device
      Device.source _ _ outside start.session.config (Bitmap.chunks_ascending _ _) (by decide +kernel) (by decide +kernel)
    have copying : LeftAlone {} start (copyingBuffers start.session.config Descriptor.sample.blockSize.toNat) :=
      ⟨Owner.quiet_default, rfl, by decide⟩
    have exact := @exact_of_givesContent Device Device.source
      (fun device => device.bytes = ⟨#[7, 8, 9]⟩ ∧ device.faults = .none) _ {} .sample .sample start _ gives ⟨rfl, rfl⟩
      (by decide +kernel) copying fun _ => rfl
    obtain ⟨summary, after, copied⟩ := exact.succeeds.mpr (.inr (by decide +kernel))
    have through := exact.through summary after copied
    have none : summary.skippedBlocks = 0 := through.skipped.trans (by decide +kernel)
    have long := (through.laid.copied ⟨⟨2, 1⟩, Option.none⟩ (by decide +kernel) rfl 2 (by decide)).1
    have goes := (comes_of_copied outside ⟨rfl, rfl⟩ copied).1
    obtain ⟨_, _, found⟩ := sampleComparing_found after.world.2 goes.faults long
    rw [← goes.config] at found
    let again : Run (Device × Device) := { after with running := true }
    have held : again.world.1.bytes = ⟨#[7, 8, 9]⟩ ∧ again.world.1.faults = .none := goes.kept
    obtain ⟨_, _, passes⟩ := verification_is_exact sampleDigest reads (fun _ held => held.1) {} (by decide) .sample
      held (left again goes.config goes.grants rfl) found
    exact ⟨summary, after, copied, passes _ _ _ _ _ outside ⟨rfl, rfl⟩ goes.config.symm copied none rfl⟩

end Transfer

end BlockImage
