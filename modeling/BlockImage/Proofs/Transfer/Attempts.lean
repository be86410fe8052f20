import BlockImage.Proofs.Transfer.Confinement
import Mathlib.Data.List.Induction

/-!
# Writes of chunks, some of which may fail

Chunks are written in turn, and what each write comes to is told by the target alone. Its outcomes tell which bytes are then
on the target: all of a chunk that was written, and some of the first bytes of one that was not.
-/
namespace BlockImage.Transfer

/-- A chunk that was to be written, and what made the write fail if it did. -/
structure Attempt where
  chunk : Chunk
  fault : Option IoError
  deriving DecidableEq, Repr

/-- An offset lies in the chunk that was to be written. -/
def Attempt.Covers (attempt : Attempt) (width index : Nat) : Prop :=
  attempt.chunk.first * width ≤ index ∧ index < attempt.chunk.stop * width

/-- Writes what `content` holds of a chunk. -/
def writeChunk (width : Nat) (content : ByteArray) (chunk : Chunk) : Call Device Unit :=
  Device.target.writeAt (chunk.first * width)
    (content.extract (chunk.first * width) (chunk.first * width + chunk.count * width))

/-- The device once some chunks were written in turn, whether or not these writes failed. -/
def attempted (width : Nat) (content : ByteArray) (chunks : List Chunk) (device : Device) : Device :=
  chunks.foldl (fun device chunk => stateAfter (writeChunk width content chunk device)) device

/-- What becomes of the writes of some chunks in turn. -/
def attempts (width : Nat) (content : ByteArray) : List Chunk → Device → List Attempt
  | [], _ => []
  | chunk :: chunks, device =>
    { chunk, fault := failureOf (writeChunk width content chunk device) } ::
      attempts width content chunks (stateAfter (writeChunk width content chunk device))

/-- The chunks whose writes failed. -/
def failedChunks (attempts : List Attempt) : List Chunk :=
  (attempts.filter (·.fault.isSome)).map Attempt.chunk

section

variable {width : Nat} {content before between : ByteArray} {tried : List Attempt} {chunk : Chunk} {device : Device}

theorem attempted_concat (chunks : List Chunk) (chunk : Chunk) (device : Device) :
    attempted width content (chunks ++ [chunk]) device =
      stateAfter (writeChunk width content chunk (attempted width content chunks device)) := by
  rw [attempted, List.foldl_append]
  rfl

theorem attempts_append (chunks others : List Chunk) (device : Device) :
    attempts width content (chunks ++ others) device =
      attempts width content chunks device ++ attempts width content others (attempted width content chunks device) := by
  induction chunks generalizing device with
  | nil => rfl
  | cons chunk chunks ih => exact congrArg _ (ih _)

theorem attempts_concat (chunks : List Chunk) (chunk : Chunk) (device : Device) :
    attempts width content (chunks ++ [chunk]) device = attempts width content chunks device ++
      [{ chunk, fault := failureOf (writeChunk width content chunk (attempted width content chunks device)) }] :=
  attempts_append chunks [chunk] device

theorem map_chunk_attempts (chunks : List Chunk) (device : Device) :
    (attempts width content chunks device).map Attempt.chunk = chunks := by
  induction chunks generalizing device with
  | nil => rfl
  | cons chunk chunks ih => exact congrArg _ (ih _)

theorem total_failedChunks_concat (tried : List Attempt) (attempt : Attempt) :
    Chunk.total (failedChunks (tried ++ [attempt])) =
      Chunk.total (failedChunks tried) + if attempt.fault = none then 0 else attempt.chunk.count := by
  rw [failedChunks, List.filter_append, List.map_append, Chunk.total_append]
  congr 1
  cases fault : attempt.fault with
  | none => simp [fault, Chunk.total]
  | some cause => simp [fault, Chunk.total]

/-! ### Bytes on the target -/

/-- What `after` has become of `before` by writes of some chunks of `content`. -/
structure Laid (width : Nat) (content before : ByteArray) (tried : List Attempt) (after : ByteArray) : Prop where
  /-- Blocks of chunks that were written are those of the content. -/
  copied : ∀ attempt ∈ tried, attempt.fault = none → ∀ block ∈ attempt.chunk.blocks,
    (block + 1) * width ≤ after.size ∧ Bytes.blockAt width after block = Bytes.blockAt width content block
  /-- Of a chunk whose write failed, some first bytes are those of the content and the others as they were. -/
  mixed : ∀ attempt ∈ tried, attempt.fault ≠ none → ∃ done ≤ attempt.chunk.count * width,
    ∀ place < attempt.chunk.count * width, Bytes.byteAt after (attempt.chunk.first * width + place) =
      Bytes.byteAt (if place < done then content else before) (attempt.chunk.first * width + place)
  /-- All else stays as it was, and zeros fill gaps where the target grows. -/
  elsewhere : Bytes.Confined (fun index => ∃ attempt ∈ tried, attempt.Covers width index) before after

theorem Laid.nothing : Laid width content before [] before where
  copied := nofun
  mixed := nofun
  elsewhere := Bytes.Overlaid.none.confined

section

variable (laid : Laid width content before tried between)
  (behind : ∀ attempt ∈ tried, attempt.chunk.stop ≤ chunk.first) {done : Nat}
  (inside : chunk.first * width + done ≤ content.size)

include behind in
private theorem stop_le_first {attempt : Attempt} (member : attempt ∈ tried) :
    attempt.chunk.first * width + attempt.chunk.count * width ≤ chunk.first * width := by
  have follows : attempt.chunk.stop * width ≤ chunk.first * width := Nat.mul_le_mul_right _ (behind attempt member)
  rwa [Chunk.stop, Nat.add_mul] at follows

include laid behind in
/-- Blocks that were written before stay as they are. -/
private theorem Laid.copied_before {attempt : Attempt} (member : attempt ∈ tried) (written : attempt.fault = none)
    {block : Nat} (among : block ∈ attempt.chunk.blocks) (patch : ByteArray) :
    (block + 1) * width ≤ (Bytes.overwrite between (chunk.first * width) patch).size ∧
      Bytes.blockAt width (Bytes.overwrite between (chunk.first * width) patch) block =
        Bytes.blockAt width content block := by
  obtain ⟨within, same⟩ := laid.copied attempt member written block among
  have stop : (block + 1) * width ≤ chunk.first * width :=
    Nat.mul_le_mul_right _ (Nat.le_trans (Chunk.mem_blocks.mp among).2 (behind attempt member))
  refine ⟨Nat.le_trans within (Bytes.size_le_size_overwrite _ _ _), ?_⟩
  rw [← same]
  exact Bytes.extract_overwrite_of_le within stop _ _

/-- The blocks of a chunk that was laid as a whole are those of the content. -/
private theorem copied_laid (whole : chunk.first * width + chunk.count * width ≤ content.size) {block : Nat}
    (among : block ∈ chunk.blocks) :
    (block + 1) * width ≤ (Bytes.overwrite between (chunk.first * width)
        (content.extract (chunk.first * width) (chunk.first * width + chunk.count * width))).size ∧
      Bytes.blockAt width (Bytes.overwrite between (chunk.first * width)
        (content.extract (chunk.first * width) (chunk.first * width + chunk.count * width))) block =
        Bytes.blockAt width content block := by
  obtain ⟨behind, before⟩ := Chunk.mem_blocks.mp among
  have start : chunk.first * width ≤ block * width := Nat.mul_le_mul_right _ behind
  have stop : (block + 1) * width ≤ chunk.stop * width := Nat.mul_le_mul_right _ before
  rw [Chunk.stop, Nat.add_mul chunk.first] at stop
  constructor
  · rcases Nat.eq_zero_or_pos width with rfl | wide
    · exact Nat.zero_le _
    · have filled : 0 < chunk.count * width := by
        rw [Nat.add_mul] at stop
        omega
      exact Nat.le_trans stop (Bytes.le_size_overwrite_extract between whole filled)
  · exact Bytes.extract_overwrite_extract between whole start stop

include behind inside in
/-- The bytes of chunks that were tried before stay as they are. -/
private theorem mixed_before {attempt : Attempt} (member : attempt ∈ tried) {place : Nat}
    (under : place < attempt.chunk.count * width) :
    Bytes.byteAt (Bytes.overwrite between (chunk.first * width)
        (content.extract (chunk.first * width) (chunk.first * width + done))) (attempt.chunk.first * width + place) =
      Bytes.byteAt between (attempt.chunk.first * width + place) := by
  have follows := @stop_le_first width tried chunk behind attempt member
  rw [Bytes.byteAt_overwrite_extract between inside, if_neg (by omega)]

include laid behind inside in
/-- The bytes of the new chunk are those of the content as far as it was laid, and else as they were at first. -/
private theorem Laid.mixed_laid (place : Nat) :
    Bytes.byteAt (Bytes.overwrite between (chunk.first * width)
        (content.extract (chunk.first * width) (chunk.first * width + done))) (chunk.first * width + place) =
      Bytes.byteAt (if place < done then content else before) (chunk.first * width + place) := by
  rw [Bytes.byteAt_overwrite_extract between inside]
  split
  next within => rw [if_pos (by omega)]
  next outside =>
    rw [if_neg (by omega)]
    -- No chunk that was tried before reaches here.
    apply laid.elsewhere.overlaid.unchanged
    rintro ⟨earlier, among, covers⟩
    have follows := @stop_le_first width tried chunk behind earlier among
    have stops := covers.2
    rw [Chunk.stop, Nat.add_mul] at stops
    omega

include laid behind in
/-- The first `done` bytes of a chunk are laid behind all chunks that were tried before. -/
theorem Laid.attempt (whole : chunk.first * width + chunk.count * width ≤ content.size) {fault : Option IoError}
    (most : done ≤ chunk.count * width) (all : fault = none → done = chunk.count * width) :
    Laid width content before (tried ++ [⟨chunk, fault⟩]) (Bytes.overwrite between (chunk.first * width)
      (content.extract (chunk.first * width) (chunk.first * width + done))) := by
  have inside : chunk.first * width + done ≤ content.size := by omega
  constructor
  · intro attempt member written block among
    rcases List.mem_append.mp member with earlier | new
    · exact laid.copied_before behind earlier written among _
    · obtain rfl := List.mem_singleton.mp new
      rw [all written]
      exact copied_laid whole among
  · intro attempt member failed
    rcases List.mem_append.mp member with earlier | new
    · obtain ⟨amount, bound, mixed⟩ := laid.mixed attempt earlier failed
      refine ⟨amount, bound, fun place under => ?_⟩
      rw [mixed_before behind inside earlier under, mixed place under]
    · obtain rfl := List.mem_singleton.mp new
      exact ⟨done, most, fun place _ => laid.mixed_laid behind inside place⟩
  · have weaker (index : Nat) (among : ∃ attempt ∈ tried, attempt.Covers width index) :
        ∃ attempt ∈ tried ++ [⟨chunk, fault⟩], attempt.Covers width index := by
      obtain ⟨attempt, member, covers⟩ := among
      exact ⟨attempt, List.mem_append_left _ member, covers⟩
    refine (Bytes.Overlaid.more _ _ (laid.elsewhere.overlaid.mono weaker) ?_).confined
    intro place under
    rw [ByteArray.size_extract] at under
    refine ⟨⟨chunk, fault⟩, List.mem_append_right _ (List.mem_singleton_self _), Nat.le_add_right _ _, ?_⟩
    rw [Chunk.stop, Nat.add_mul]
    dsimp only
    omega

end

/-- A write of a chunk puts all of it, or some of its first bytes if it fails. -/
theorem writeChunk_puts (inside : chunk.stop * width ≤ content.size) (device : Device) :
    ∃ done ≤ chunk.count * width,
      (failureOf (writeChunk width content chunk device) = none → done = chunk.count * width) ∧
      (stateAfter (writeChunk width content chunk device)).bytes = Bytes.overwrite device.bytes (chunk.first * width)
        (content.extract (chunk.first * width) (chunk.first * width + done)) := by
  have size : (content.extract (chunk.first * width) (chunk.first * width + chunk.count * width)).size =
      chunk.count * width := by
    rw [Chunk.stop, Nat.add_mul] at inside
    rw [ByteArray.size_extract]
    omega
  have wrote := (Device.target_writes device.faults).writeAt (chunk.first * width)
    (content.extract (chunk.first * width) (chunk.first * width + chunk.count * width)) device rfl
  change Leads (writeChunk width content chunk device) _ _ at wrote
  cases result : writeChunk width content chunk device with
  | ok _ after =>
    obtain ⟨_, placed⟩ := wrote.of_ok result
    exact ⟨_, Nat.le_refl _, fun _ => rfl, (congrArg View.bytes placed).trans (View.bytes_put _ _)⟩
  | error cause after =>
    obtain ⟨_, _, stood | ⟨done, most, placed⟩⟩ := wrote.of_error result
    · refine ⟨0, Nat.zero_le _, (fun kept => by cases kept), ?_⟩
      have nothing : content.extract (chunk.first * width) (chunk.first * width + 0) = ByteArray.empty :=
        ByteArray.extract_eq_empty_iff.mpr (Nat.min_le_left _ _)
      rw [nothing, Bytes.overwrite_empty]
      exact congrArg View.bytes stood
    · rw [size] at most
      refine ⟨done, most, (fun kept => by cases kept), ?_⟩
      have front : (content.extract (chunk.first * width) (chunk.first * width + chunk.count * width)).extract 0 done =
          content.extract (chunk.first * width) (chunk.first * width + done) := by
        rw [ByteArray.extract_extract, Nat.add_zero, Nat.min_eq_left (by omega)]
      rw [← front]
      exact (congrArg View.bytes placed).trans (View.bytes_put _ _)

theorem faults_attempted (width : Nat) (content : ByteArray) (chunks : List Chunk) (device : Device) :
    (attempted width content chunks device).faults = device.faults := by
  induction chunks generalizing device with
  | nil => rfl
  | cons chunk chunks ih =>
    have wrote := (Device.target_writes device.faults).writeAt (chunk.first * width)
      (content.extract (chunk.first * width) (chunk.first * width + chunk.count * width)) device rfl
    refine (ih _).trans ?_
    exact (wrote.mono (fun _ _ wrote => wrote.1.kept) fun _ _ failed => failed.1.kept).stateAfter

/-- Writes of chunks that follow each other lay the content over the target. -/
theorem laid_attempts {chunks : List Chunk} (ascending : chunks.Pairwise fun chunk later => chunk.stop ≤ later.first)
    (inside : ∀ chunk ∈ chunks, chunk.stop * width ≤ content.size) (device : Device) :
    Laid width content device.bytes (attempts width content chunks device)
      (attempted width content chunks device).bytes := by
  induction chunks using List.reverseRecOn with
  | nil => exact .nothing
  | append_singleton chunks chunk ih =>
    obtain ⟨ascending, _, apart⟩ := List.pairwise_append.mp ascending
    have laid := ih ascending fun other member => inside other (List.mem_append_left _ member)
    have behind (attempt : Attempt) (member : attempt ∈ attempts width content chunks device) :
        attempt.chunk.stop ≤ chunk.first := by
      have among := List.mem_map_of_mem (f := Attempt.chunk) member
      rw [map_chunk_attempts] at among
      exact apart _ among chunk (List.mem_singleton_self _)
    have within := inside chunk (List.mem_append_right _ (List.mem_singleton_self _))
    obtain ⟨done, most, all, placed⟩ := writeChunk_puts within (attempted width content chunks device)
    rw [Chunk.stop, Nat.add_mul] at within
    rw [attempts_concat, attempted_concat, placed]
    exact laid.attempt behind within most all

end

end BlockImage.Transfer
