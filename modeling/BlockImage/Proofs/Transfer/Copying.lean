import BlockImage.Proofs.Transfer.Attempts
import BlockImage.Proofs.Transfer.Rescue

/-!
# What a copy leaves on its target

The outcomes of the writes of its chunks tell how a copy ends, what it counts and which bytes it leaves. With the setting
that passes over failed writes it goes on behind them, and without it the first one ends it.
-/
namespace BlockImage.Transfer

/-! ### How a copy goes on -/

section

variable {σ : Type}

/-- Some chunks are through: the target is as their writes left it, and all of them are counted. -/
structure Copied (kept : σ → Prop) (owner : Owner) (excused : Error → Prop) (width : Nat) (content : ByteArray)
    (lost : Chunk → List (Nat × Nat)) (start : Run (σ × Device)) (passed : List Chunk) (run : Run (σ × Device)) : Prop where
  kept : kept run.world.1
  spares : owner.Spares excused run.running
  settings : run.session.config = start.session.config
  target : run.world.2 = attempted width content passed start.world.2
  blocks : run.session.summary.blocks = start.session.summary.blocks + Chunk.total passed
  skipped : run.session.summary.skippedBlocks = start.session.summary.skippedBlocks +
    Chunk.total (failedChunks (attempts width content passed start.world.2))
  badSectors : run.session.summary.badSectors = start.session.summary.badSectors + (passed.flatMap lost).length
  fatal : start.session.config.skipWriteErrors = true ∨
    ∀ attempt ∈ attempts width content passed start.world.2, attempt.fault = none

/-- A copy that passes over no failed writes ended with the first one of them, and left these bytes. -/
structure GaveUp (width : Nat) (content : ByteArray) (chunks : List Chunk) (start : Run (σ × Device)) (failure : Error)
    (bytes : ByteArray) : Prop where
  strict : start.session.config.skipWriteErrors = false
  first : ∃ passed chunk cause left, chunks = passed ++ chunk :: left ∧
    (∀ attempt ∈ attempts width content passed start.world.2, attempt.fault = none) ∧
    failureOf (writeChunk width content chunk (attempted width content passed start.world.2)) = some cause ∧
    failure = .write (chunk.first * width) cause ∧
    bytes = (attempted width content (passed ++ [chunk]) start.world.2).bytes

/-- The writes of the first ones of some chunks have left these bytes. -/
def LeftByFirst (width : Nat) (content : ByteArray) (chunks : List Chunk) (start : Run (σ × Device)) (bytes : ByteArray) :
    Prop :=
  ∃ passed left, chunks = passed ++ left ∧ bytes = (attempted width content passed start.world.2).bytes

variable {kept : σ → Prop} {owner : Owner} {excused : Error → Prop} {descriptor : Descriptor} {content : ByteArray}
  {lost : Chunk → List (Nat × Nat)} {start : Run (σ × Device)} {source : Source σ} {chunks passed left : List Chunk} {chunk : Chunk}
  {bitmap : Bitmap} {run : Run (σ × Device)}

/-- A chunk that was written, or passed over, is counted and told of. -/
private theorem count_leads (copied : Copied kept owner excused descriptor.blockSize.toNat content lost start passed run)
    {running : Bool} (spares : owner.Spares excused running) {looks skippedBlocks : Nat} {world : σ}
    (held : kept world) {fault : Option IoError}
    (came : failureOf (writeChunk descriptor.blockSize.toNat content chunk
      (attempted descriptor.blockSize.toNat content passed start.world.2)) = fault)
    (skips : fault = none ∨ start.session.config.skipWriteErrors = true)
    (counted : skippedBlocks = run.session.summary.skippedBlocks + if fault = none then 0 else chunk.count)
    {failed : Error → Run (σ × Device) → Prop} :
    Leads ((countBlocks chunk.count descriptor.blockSize.toNat >>= fun _ =>
        report owner descriptor.verifiedBlocks.toNat chunk.stop : Transfer (σ × Device) Unit) {
          run with
          session := { run.session with
            summary := { run.session.summary with
              badSectors := run.session.summary.badSectors + (lost chunk).length
              skippedBlocks } }
          running
          looks
          world := (world, stateAfter (writeChunk descriptor.blockSize.toNat content chunk
            (attempted descriptor.blockSize.toNat content passed start.world.2))) })
      (fun _ after => Copied kept owner excused descriptor.blockSize.toNat content lost start (passed ++ [chunk]) after)
      failed := by
  rw [leads_bind, countBlocks, leads_tally]
  refine leads_report spares fun running spares => ?_
  constructor
  · exact held
  · exact spares
  · exact copied.settings
  · exact (attempted_concat passed chunk start.world.2).symm
  · change run.session.summary.blocks + chunk.count = _
    rw [copied.blocks, Chunk.total_append, Nat.add_assoc]
    rfl
  · change skippedBlocks = _
    rw [counted, copied.skipped, attempts_concat, total_failedChunks_concat, came, Nat.add_assoc]
  · change run.session.summary.badSectors + (lost chunk).length = _
    rw [copied.badSectors, List.flatMap_append, List.length_append, List.flatMap_singleton, Nat.add_assoc]
  · rcases copied.fatal with skips | none
    · exact .inl skips
    · rcases skips with fine | skips
      · refine .inr fun attempt member => ?_
        rw [attempts_concat, came, fine] at member
        rcases List.mem_append.mp member with earlier | new
        · exact none attempt earlier
        · rw [List.mem_singleton.mp new]
      · exact .inl skips

variable (gives : (source.ofFirst : Source (σ × Device)).GivesContent (fun world => kept world.1) Prod.snd
  start.session.config descriptor.blockSize.toNat (· ∈ chunks) content lost)

include gives

/-- One chunk more, or the copy ends with it. -/
theorem copyChunk_leads
    (copied : Copied kept owner excused descriptor.blockSize.toNat content lost start passed run)
    (next : chunks = passed ++ chunk :: left) :
    Leads (copyChunk owner source.ofFirst Device.target.ofSecond descriptor chunk run)
      (fun _ after => Copied kept owner excused descriptor.blockSize.toNat content lost start (passed ++ [chunk]) after)
      fun failure after => (kept after.world.1 ∧ after.world.2.faults = start.world.2.faults) ∧
        LeftByFirst descriptor.blockSize.toNat content chunks start after.world.2.bytes ∧ (excused failure ∨
          GaveUp descriptor.blockSize.toNat content chunks start failure after.world.2.bytes) := by
  have faults := faults_attempted descriptor.blockSize.toNat content passed start.world.2
  have member : chunk ∈ chunks := by
    rw [next]
    exact List.mem_append_right _ List.mem_cons_self
  rw [copyChunk, leads_bind]
  refine leads_checkRunning copied.spares (fun running spares => ?_) fun running allowed => ?_
  · rw [leads_bind]
    refine (gives chunk { run with running, looks := run.looks + 1 } member copied.kept copied.settings).mono ?_ ?_
    · rintro data _ ⟨rfl, ⟨world, device⟩, rfl, frame⟩
      have held : kept world := frame.kept
      obtain rfl : device = attempted descriptor.blockSize.toNat content passed start.world.2 :=
        frame.rest.trans copied.target
      rw [leads_bind, leads_attempt, leads_inWorld, Target.writeAt_ofSecond, leads_onSecond]
      refine (Leads.of_outcome (writeChunk descriptor.blockSize.toNat content chunk _)).mono ?_ ?_
      · rintro _ _ ⟨came, rfl⟩
        exact count_leads copied spares held came (.inl rfl) rfl
      · rintro cause _ ⟨came, rfl⟩
        rw [leads_bind, leads_get]
        split
        next skips =>
          rw [leads_bind, leads_tally]
          exact count_leads copied spares held came (.inr (copied.settings ▸ skips)) rfl
        next strict =>
          have strict : start.session.config.skipWriteErrors = false :=
            copied.settings ▸ Bool.eq_false_iff.mpr strict
          have after := faults_attempted descriptor.blockSize.toNat content (passed ++ [chunk]) start.world.2
          rw [attempted_concat] at after
          have bytes : (stateAfter (writeChunk descriptor.blockSize.toNat content chunk
              (attempted descriptor.blockSize.toNat content passed start.world.2))).bytes =
              (attempted descriptor.blockSize.toNat content (passed ++ [chunk]) start.world.2).bytes := by
            rw [attempted_concat]
          refine ⟨⟨held, after⟩, ⟨passed ++ [chunk], left, ?_, bytes⟩,
            .inr ⟨strict, passed, chunk, cause, left, next, ?_, came, rfl, bytes⟩⟩
          · rw [next, List.append_assoc]
            rfl
          · rcases copied.fatal with skips | none
            · rw [strict] at skips
              cases skips
            · exact none
    · exact fun _ _ none => none.elim
  · have target := copied.target
    refine ⟨⟨copied.kept, target ▸ faults⟩, ⟨passed, chunk :: left, next, ?_⟩, .inl allowed⟩
    exact congrArg Device.bytes target

/-- A copy is through with all chunks or gives up, and before that it asks the target to sync. -/
theorem copyPartition_leads (cut : chunks = bitmap.chunks (start.session.config.chunkCapacity descriptor.blockSize.toNat))
    (held : kept start.world.1) (spares : owner.Spares excused start.running)
    (granted : ∀ size ∈ copyingBuffers start.session.config descriptor.blockSize.toNat,
      ¬ start.grants size → excused (.insufficientMemory size 0))
    (unsynced : ∀ call cause, start.world.2.faults.onSync call = some cause → excused (.write 0 cause)) :
    Leads (copyPartition owner source.ofFirst Device.target.ofSecond descriptor bitmap start)
      (fun summary after =>
        summary.blocks = start.session.summary.blocks + Chunk.total chunks ∧
        summary.skippedBlocks = start.session.summary.skippedBlocks +
          Chunk.total (failedChunks (attempts descriptor.blockSize.toNat content chunks start.world.2)) ∧
        summary.badSectors = start.session.summary.badSectors + (chunks.flatMap lost).length ∧
        after.world.2.bytes = (attempted descriptor.blockSize.toNat content chunks start.world.2).bytes ∧
        (start.session.config.skipWriteErrors = true ∨
          ∀ attempt ∈ attempts descriptor.blockSize.toNat content chunks start.world.2, attempt.fault = none))
      fun failure after => LeftByFirst descriptor.blockSize.toNat content chunks start after.world.2.bytes ∧
        (excused failure ∨ GaveUp descriptor.blockSize.toNat content chunks start failure after.world.2.bytes) := by
  subst cut
  let width := descriptor.blockSize.toNat
  let chunks := bitmap.chunks (start.session.config.chunkCapacity width)
  refine Leads.mono (leads_conclude_of_sync (Device.target_ofSecond_syncs kept start.world.2.faults)
    (fun summary _ seen _ =>
      summary.blocks = start.session.summary.blocks + Chunk.total chunks ∧
      summary.skippedBlocks = start.session.summary.skippedBlocks +
        Chunk.total (failedChunks (attempts width content chunks start.world.2)) ∧
      summary.badSectors = start.session.summary.badSectors + (chunks.flatMap lost).length ∧
      seen.bytes = (attempted width content chunks start.world.2).bytes ∧
      (start.session.config.skipWriteErrors = true ∨
        ∀ attempt ∈ attempts width content chunks start.world.2, attempt.fault = none))
    (fun failure _ seen _ => LeftByFirst width content chunks start seen.bytes ∧
      (excused failure ∨ GaveUp width content chunks start failure seen.bytes)) ?_ ?_) ?_ ?_
  · rw [leads_bind, leads_get, leads_bind]
    refine leads_allocate (fun _ => ?_) fun size member refused =>
      ⟨⟨held, rfl⟩, ⟨[], chunks, rfl, rfl⟩, .inl (granted size member refused)⟩
    rw [leads_bind, leads_enter]
    -- Of the chunks some are passed, and the others are left.
    let holds : List Chunk → Run (σ × Device) → Prop := fun left after => ∃ passed, chunks = passed ++ left ∧
      Copied kept owner excused width content lost start passed after
    refine Leads.weaken (leads_forM holds ?_ ⟨[], rfl, ?_⟩) ?_
    · rintro chunk left after _ ⟨passed, next, copied⟩
      refine (copyChunk_leads gives copied next).weaken fun _ after copied => ?_
      exact ⟨passed ++ [chunk], by rw [next, List.append_assoc]; rfl, copied⟩
    · exact ⟨held, spares, rfl, rfl, rfl, rfl, rfl, .inr nofun⟩
    · rintro _ after ⟨passed, next, copied⟩
      rw [List.append_nil] at next
      subst next
      have target := copied.target
      refine ⟨⟨copied.kept, ?_⟩, copied.blocks, copied.skipped, copied.badSectors, ?_, copied.fatal⟩
      · rw [target, faults_attempted]
      · exact congrArg Device.bytes target
  · rintro cause summary events seen other ⟨call, fault⟩ ⟨_, _, _, bytes, _⟩
    exact ⟨⟨chunks, [], (List.append_nil _).symm, bytes⟩, .inl (unsynced call cause fault)⟩
  · rintro summary after ⟨_, _, through⟩
    exact through
  · exact fun failure after gaveUp => gaveUp.2

end

/-! ### Copies of sources that can be read -/

section

variable {σ : Type} {source : Source σ} {kept : σ → Prop} {content : ByteArray} {owner : Owner} {descriptor : Descriptor}
  {bitmap : Bitmap} {start : Run (σ × Device)}

/-- What becomes of the writes of a copy, one for each chunk, if none of them ends it. -/
def copyAttempts (descriptor : Descriptor) (bitmap : Bitmap) (content : ByteArray) (start : Run (σ × Device)) :
    List Attempt :=
  attempts descriptor.blockSize.toNat content
    (bitmap.chunks (start.session.config.chunkCapacity descriptor.blockSize.toNat)) start.world.2

/-- A copy that is through has counted all blocks, and apart those of chunks whose writes failed. -/
structure Through (descriptor : Descriptor) (bitmap : Bitmap) (content : ByteArray) (start : Run (σ × Device))
    (summary : Summary) (after : Run (σ × Device)) : Prop where
  blocks : summary.blocks = start.session.summary.blocks + bitmap.count
  skipped : summary.skippedBlocks = start.session.summary.skippedBlocks +
    Chunk.total (failedChunks (copyAttempts descriptor bitmap content start))
  laid : Laid descriptor.blockSize.toNat content start.world.2.bytes (copyAttempts descriptor bitmap content start)
    after.world.2.bytes

/-- A copy has ended with a write that failed, after `passed`, and did not come to `left`. -/
structure EndedWith (descriptor : Descriptor) (content : ByteArray) (start : Run (σ × Device)) (failure : Error)
    (after : Run (σ × Device)) (passed : List Attempt) (chunk : Chunk) (cause : IoError) (left : List Attempt) :
    Prop where
  told : failure = .write (chunk.first * descriptor.blockSize.toNat) cause
  first : ∀ attempt ∈ passed, attempt.fault = none
  laid : Laid descriptor.blockSize.toNat content start.world.2.bytes (passed ++ [⟨chunk, some cause⟩])
    after.world.2.bytes
  untouched : ∀ attempt ∈ left, ∀ index, attempt.Covers descriptor.blockSize.toNat index →
    Bytes.byteAt after.world.2.bytes index = Bytes.byteAt start.world.2.bytes index

/-- Where chunks were passed, the bytes of later ones are as they were. -/
private theorem untouched_of_laid {width : Nat} {before after : ByteArray} {chunks left : List Chunk}
    (ascending : (chunks ++ left).Pairwise fun chunk later => chunk.stop ≤ later.first) {device : Device}
    (laid : Laid width content before (attempts width content chunks device) after) {attempt : Attempt}
    (member : attempt.chunk ∈ left) {index : Nat} (covers : attempt.Covers width index) :
    Bytes.byteAt after index = Bytes.byteAt before index := by
  apply laid.elsewhere.overlaid.unchanged
  rintro ⟨earlier, among, covers'⟩
  have listed := List.mem_map_of_mem (f := Attempt.chunk) among
  rw [map_chunk_attempts] at listed
  have apart := (List.pairwise_append.mp ascending).2.2 _ listed _ member
  have follows : earlier.chunk.stop * width ≤ attempt.chunk.first * width := Nat.mul_le_mul_right _ apart
  have begins := covers.1
  have ends := covers'.2
  omega

private theorem endedWith_of_gaveUp {failure : Error} {after : Run (σ × Device)}
    (inside : ∀ chunk ∈ bitmap.chunks (start.session.config.chunkCapacity descriptor.blockSize.toNat),
      chunk.stop * descriptor.blockSize.toNat ≤ content.size)
    (gaveUp : GaveUp descriptor.blockSize.toNat content
      (bitmap.chunks (start.session.config.chunkCapacity descriptor.blockSize.toNat)) start failure
      after.world.2.bytes) :
    ∃ passed chunk cause left, copyAttempts descriptor bitmap content start = passed ++ ⟨chunk, some cause⟩ :: left ∧
      EndedWith descriptor content start failure after passed chunk cause left := by
  have ascending := bitmap.chunks_ascending (start.session.config.chunkCapacity descriptor.blockSize.toNat)
  obtain ⟨passed, chunk, cause, left, next, fine, came, rfl, bytes⟩ := gaveUp.first
  have split : bitmap.chunks (start.session.config.chunkCapacity descriptor.blockSize.toNat) =
      passed ++ [chunk] ++ left := by rw [next, List.append_assoc]; rfl
  rw [split] at ascending inside
  have laid := laid_attempts (List.pairwise_append.mp ascending).1
    (fun other member => inside other (List.mem_append_left _ member)) start.world.2
  rw [← bytes] at laid
  refine ⟨_, chunk, cause, attempts descriptor.blockSize.toNat content left
    (attempted descriptor.blockSize.toNat content (passed ++ [chunk]) start.world.2), ?_, rfl, fine, ?_, ?_⟩
  · rw [copyAttempts, split, attempts_append, attempts_concat, came, List.append_assoc]
    rfl
  · rw [attempts_concat, came] at laid
    exact laid
  · intro attempt member index covers
    have listed := List.mem_map_of_mem (f := Attempt.chunk) member
    rw [map_chunk_attempts] at listed
    exact untouched_of_laid ascending laid listed covers

/-- Only the ends of its transfer can disturb a session: it is not cancelled, and its working areas are granted. -/
structure LeftAlone {ω : Type} (owner : Owner) (start : Run ω) (areas : List Nat) : Prop where
  quiet : owner.Quiet
  running : start.running = true
  granted : ∀ size ∈ areas, start.grants size

/-- How a copy can end, and what it leaves then. -/
structure Exact (owner : Owner) (source : Source σ) (descriptor : Descriptor) (bitmap : Bitmap) (content : ByteArray)
    (start : Run (σ × Device)) : Prop where
  /-- It succeeds if and only if failed writes are passed over or there are none. -/
  succeeds : (∃ summary after, copyPartition owner source.ofFirst Device.target.ofSecond descriptor bitmap start =
    .ok summary after) ↔ start.session.config.skipWriteErrors = true ∨
      ∀ attempt ∈ copyAttempts descriptor bitmap content start, attempt.fault = none
  through : ∀ summary after, copyPartition owner source.ofFirst Device.target.ofSecond descriptor bitmap start =
    .ok summary after → Through descriptor bitmap content start summary after
  /-- And else it ends with the first write that fails. -/
  ended : ∀ failure after, copyPartition owner source.ofFirst Device.target.ofSecond descriptor bitmap start =
    .error failure after → start.session.config.skipWriteErrors = false ∧ ∃ passed chunk cause left,
      copyAttempts descriptor bitmap content start = passed ++ ⟨chunk, some cause⟩ :: left ∧
      EndedWith descriptor content start failure after passed chunk cause left

/-- A copy of chunks that come in is exact if only writes of chunks can fail. -/
theorem exact_of_givesContent {lost : Chunk → List (Nat × Nat)}
    (gives : (source.ofFirst : Source (σ × Device)).GivesContent (fun world => kept world.1) Prod.snd
      start.session.config descriptor.blockSize.toNat
      (· ∈ bitmap.chunks (start.session.config.chunkCapacity descriptor.blockSize.toNat)) content lost)
    (held : kept start.world.1)
    (inside : ∀ chunk ∈ bitmap.chunks (start.session.config.chunkCapacity descriptor.blockSize.toNat),
      chunk.stop * descriptor.blockSize.toNat ≤ content.size)
    (alone : LeftAlone owner start (copyingBuffers start.session.config descriptor.blockSize.toNat))
    (syncs : ∀ call, start.world.2.faults.onSync call = none) :
    Exact owner source descriptor bitmap content start := by
  have ascending := bitmap.chunks_ascending (start.session.config.chunkCapacity descriptor.blockSize.toNat)
  have leads := @copyPartition_leads σ kept owner (fun _ => False) descriptor content _ start source _ bitmap gives
    rfl held (.inr ⟨alone.quiet, alone.running⟩)
    (fun size member refused => absurd (alone.granted size member) refused)
    fun call cause fault => by rw [syncs] at fault; cases fault
  have ended {failure : Error} {after : Run (σ × Device)} (is : copyPartition owner source.ofFirst
      Device.target.ofSecond descriptor bitmap start = .error failure after) := (leads.of_error is).2.resolve_left id
  constructor
  · constructor
    · rintro ⟨summary, after, is⟩
      exact (leads.of_ok is).2.2.2.2
    · intro fine
      cases is : copyPartition owner source.ofFirst Device.target.ofSecond descriptor bitmap start with
      | ok summary after => exact ⟨summary, after, rfl⟩
      | error failure after =>
        obtain ⟨passed, chunk, cause, left, tried, _⟩ := endedWith_of_gaveUp inside (ended is)
        rcases fine with skips | none
        · rw [(ended is).strict] at skips
          cases skips
        · have failed := none ⟨chunk, some cause⟩ (tried ▸ List.mem_append_right _ List.mem_cons_self)
          cases failed
  · intro summary after is
    obtain ⟨blocks, skipped, _, bytes, _⟩ := leads.of_ok is
    refine ⟨?_, skipped, ?_⟩
    · rw [blocks, Chunk.total_eq, bitmap.flatMap_chunks, bitmap.count_eq_length_marked]
    · rw [bytes]
      exact laid_attempts ascending inside start.world.2
  · intro failure after is
    exact ⟨(ended is).strict, endedWith_of_gaveUp inside (ended is)⟩

/-- A copy of a source whose allocated blocks can be read is exact but for the chunks whose writes fail. -/
theorem copy_is_exact_but_for_failed_writes (outside : source.ReadsOutside kept content fun _ => false)
    (held : kept start.world.1)
    (inside : ∀ block, bitmap.get block = true → (block + 1) * descriptor.blockSize.toNat ≤ content.size)
    (alone : LeftAlone owner start (copyingBuffers start.session.config descriptor.blockSize.toNat))
    (syncs : ∀ call, start.world.2.faults.onSync call = none) :
    Exact owner source descriptor bitmap content start := by
  let width := descriptor.blockSize.toNat
  let chunks := bitmap.chunks (start.session.config.chunkCapacity width)
  have within : ∀ chunk ∈ chunks, chunk.stop * width ≤ content.size := by
    intro chunk member
    obtain ⟨block, marks, last⟩ := Bitmap.exists_last_of_mem_chunks member
    rw [← last]
    exact inside block marks
  have whole : ∀ chunk ∈ chunks,
      readable content.size (fun _ => false) (chunk.first * width) (chunk.count * width) = true := by
    intro chunk member
    apply readable_of_le
    rw [← Nat.add_mul]
    exact within chunk member
  -- All chunks can be read, so that nothing is lost of them.
  have same : Bytes.padded content 0 = content := Bytes.padded_eq_self (Nat.zero_le _)
  have gives := @givesContent_rescued 0 width (fun _ => false) chunks σ Device source kept content outside
    start.session.config (bitmap.chunks_ascending _) (same.symm ▸ within) fun chunk member => .inl (whole chunk member)
  rw [rescued_of_readable whole, same] at gives
  exact exact_of_givesContent gives held within alone syncs

end

/-- A copy of three bytes, of which the middle one is not allocated, to a device whose first byte cannot be written. -/
def sampleCopying (skipWriteErrors : Bool) : Run (Device × Device) where
  session := { direction := .toPartition, config := { bufferSize := 1, skipWriteErrors } }
  world := ({ bytes := ⟨#[7, 8, 9]⟩ },
    { bytes := ByteArray.empty, faults := ({ unwritable := [⟨0, 1⟩] } : BadMedium).faults })

theorem copy_is_exact_sample :
    (∃ summary after, copyPartition {} Device.source.ofFirst Device.target.ofSecond .sample .sample
        (sampleCopying true) = .ok summary after ∧
      summary.blocks = 2 ∧ summary.skippedBlocks = 1 ∧ Bytes.blockAt 1 after.world.2.bytes 2 = ⟨#[9]⟩) ∧
    ∃ cause after, copyPartition {} Device.source.ofFirst Device.target.ofSecond .sample .sample (sampleCopying false) =
      .error (.write 0 cause) after := by
  have outside := Device.readsOutside Faults.none_spoiltAt ⟨#[7, 8, 9]⟩
  have inside (block : Nat) (marks : Bitmap.sample.get block = true) : (block + 1) * 1 ≤ 3 := by
    have below : block < 3 := Bitmap.lt_total_of_get marks
    omega
  have tried (skips : Bool) : copyAttempts .sample .sample ⟨#[7, 8, 9]⟩ (sampleCopying skips) =
      [⟨⟨0, 1⟩, some (.other "EIO")⟩, ⟨⟨2, 1⟩, none⟩] := by
    cases skips <;> decide +kernel
  have alone (skips : Bool) : LeftAlone {} (sampleCopying skips)
      (copyingBuffers (sampleCopying skips).session.config Descriptor.sample.blockSize.toNat) := by
    refine ⟨Owner.quiet_default, rfl, ?_⟩
    cases skips <;> decide
  have exact (skips : Bool) : Exact {} Device.source .sample .sample ⟨#[7, 8, 9]⟩ (sampleCopying skips) :=
    copy_is_exact_but_for_failed_writes outside ⟨rfl, rfl⟩ inside (alone skips) fun _ => rfl
  constructor
  · obtain ⟨summary, after, is⟩ := (exact true).succeeds.mpr (.inl rfl)
    have came := (exact true).through summary after is
    refine ⟨summary, after, is, came.blocks, ?_, ?_⟩
    · have skipped := came.skipped
      rw [tried] at skipped
      exact skipped
    · have copied := came.laid.copied ⟨⟨2, 1⟩, none⟩
      rw [tried] at copied
      exact (copied (by decide) rfl 2 (by decide)).2
  · have ends := (exact false).succeeds
    have broken := (exact false).ended
    rw [tried] at ends broken
    cases is : copyPartition {} Device.source.ofFirst Device.target.ofSecond .sample .sample (sampleCopying false) with
    | ok summary after =>
      rcases ends.mp ⟨summary, after, is⟩ with skips | fine
      · cases skips
      · cases fine _ List.mem_cons_self
    | error failure after =>
      obtain ⟨_, passed, chunk, cause, left, split, ended⟩ := broken failure after is
      cases passed with
      | nil =>
        obtain ⟨⟨rfl, _⟩, _⟩ := List.cons.inj split
        exact ⟨_, after, congrArg (fun failure => EStateM.Result.error failure after) ended.told⟩
      | cons attempt passed =>
        obtain ⟨rfl, _⟩ := List.cons.inj split
        cases ended.first _ List.mem_cons_self

end BlockImage.Transfer
