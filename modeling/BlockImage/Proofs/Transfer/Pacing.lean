import BlockImage.Proofs.Bitmap.Marked
import BlockImage.Proofs.Session
import BlockImage.Proofs.Transfer.Movement
import Mathlib.Algebra.GroupWithZero.Nat

/-!
# How far the chunks of a transfer get

A transfer that has moved some blocks stands right behind the last of them: all marked blocks before its position have
been moved. Chunks of the bitmap tell their position themselves; a restore finds it by placing blocks.
-/
namespace BlockImage

variable {ω σ ι : Type}

/-- The first `done` marked blocks are passed, and the position is the one right behind them. -/
structure Bitmap.Passed (bitmap : Bitmap) (done position : Nat) : Prop where
  within : done ≤ bitmap.marked.length
  rest : bitmap.markedFrom position = bitmap.marked.drop done
  last : ∃ block, bitmap.get block = true ∧ block + 1 = position

/-- As many marked blocks lie before the position as are passed. -/
theorem Bitmap.Passed.countP_eq {bitmap : Bitmap} {done position : Nat} (passed : bitmap.Passed done position) :
    (List.range position).countP bitmap.get = done := by
  have all := bitmap.countP_range_get position
  rw [passed.rest, List.length_drop] at all
  have within := passed.within
  omega

/-- What a plan says of its pace. `holds` tells how it stands when chunks are left and some blocks are done. -/
structure Plan.Paces (plan : Plan ω σ ι) (bitmap : Bitmap) (capacity : Nat) (holds : List ι → Nat → σ → Prop) :
    Prop where
  size : ∀ chunk ∈ plan.chunks, 0 < plan.size chunk ∧ plan.size chunk ≤ capacity
  begins : ∀ run, Leads (plan.prepare run) (fun state _ => holds plan.chunks 0 state) fun _ _ => True
  moves : ∀ {chunk rest done state}, chunk ∈ plan.chunks → holds (chunk :: rest) done state → ∀ run,
    Leads (plan.move state chunk run)
      (fun reached _ => holds rest (done + plan.size chunk) reached.1 ∧
        bitmap.Passed (done + plan.size chunk) reached.2) fun _ _ => True

/-- Where nothing is marked no chunk can be moved, so only a plan without chunks can be carried out. -/
theorem Plan.Paces.carryOut_leads_nil {plan : Plan ω σ ι} {bitmap : Bitmap} {capacity : Nat}
    {holds : List ι → Nat → σ → Prop} (paces : plan.Paces bitmap capacity holds) (blank : bitmap.count = 0)
    (owner : Owner) (run : Run ω) : Leads (plan.carryOut owner run) (fun _ _ => plan.chunks = []) fun _ _ => True := by
  rw [bitmap.count_eq_length_marked] at blank
  rw [carryOut, leads_bind]
  refine (paces.begins run).weaken fun state there stands => ?_
  cases chunks : plan.chunks with
  | nil => exact .of_all (fun _ _ => rfl) fun _ _ => trivial
  | cons chunk rest =>
    have member : chunk ∈ plan.chunks := chunks ▸ List.mem_cons_self
    rw [chunks] at stands
    rw [leads_bind, List.foldlM_cons, leads_bind, step]
    refine leads_bind_of_next fun _ looked => ?_
    rw [leads_bind]
    refine (paces.moves member stands looked).weaken fun reached _ moved => ?_
    -- The chunk would have to pass a block.
    have some := (paces.size chunk member).1
    have within := moved.2.within
    omega

/-! ### Chunks of the bitmap -/

theorem Bitmap.passed_of_chunks {bitmap : Bitmap} {capacity : Nat} {front rest : List Chunk} {chunk : Chunk}
    (cut : bitmap.chunks capacity = front ++ chunk :: rest) :
    bitmap.Passed (Chunk.total front + chunk.count) chunk.stop where
  within := by
    rw [← bitmap.flatMap_chunks capacity, ← Chunk.total_eq, cut, Chunk.total_append, Chunk.total]
    omega
  rest := markedFrom_stop cut
  last := exists_last_of_mem_chunks (cut ▸ List.mem_append_right _ List.mem_cons_self)

theorem chunkCapacity_pos (config : Config) (blockSize : Nat) : 0 < config.chunkCapacity blockSize :=
  Nat.lt_of_lt_of_le Nat.one_pos (Nat.le_max_right _ _)

/-- A plan whose chunks are those of the bitmap, and each of which ends where its chunk does. -/
theorem Plan.paces_of_chunks {plan : Plan ω σ Chunk} {bitmap : Bitmap} {capacity : Nat} (room : 0 < capacity)
    (chunks : plan.chunks = bitmap.chunks capacity) (size : plan.size = Chunk.count)
    (moves : ∀ state chunk run, Leads (plan.move state chunk run) (fun reached _ => reached.2 = chunk.stop)
      fun _ _ => True) :
    plan.Paces bitmap capacity fun rest done _ =>
      ∃ front, bitmap.chunks capacity = front ++ rest ∧ Chunk.total front = done where
  size chunk member := by
    rw [chunks] at member
    have room' : max capacity 1 = capacity := Nat.max_eq_left room
    rw [size]
    exact ⟨Bitmap.count_pos_of_mem_chunks member, room' ▸ Bitmap.count_le_of_mem_chunks member⟩
  begins run := .of_all (fun _ _ => ⟨[], chunks.symm, rfl⟩) fun _ _ => trivial
  moves := by
    rintro chunk rest _ state - ⟨front, cut, rfl⟩ run
    refine (moves state chunk run).weaken fun reached _ stop => ?_
    rw [size, stop]
    refine ⟨⟨front ++ [chunk], ?_, ?_⟩, Bitmap.passed_of_chunks cut⟩
    · rw [cut, List.append_assoc, List.singleton_append]
    · rw [Chunk.total_append]
      rfl

/-! ### Blocks of an image -/

theorem of_mem_chunkSizes {capacity left size : Nat} (member : size ∈ chunkSizes capacity left) :
    0 < size ∧ size ≤ max capacity 1 := by
  induction left using Nat.strongRecOn with
  | ind left ih =>
    rw [chunkSizes] at member
    split at member
    next none => cases member
    next some =>
      rcases List.mem_cons.mp member with rfl | later
      · omega
      · exact ih _ (by omega) later

theorem sum_chunkSizes (capacity left : Nat) : (chunkSizes capacity left).sum = left := by
  induction left using Nat.strongRecOn with
  | ind left ih =>
    rw [chunkSizes]
    split
    next none => exact none.symm
    next some =>
      rw [List.sum_cons, ih _ (by omega)]
      omega

namespace Transfer

/-- Blocks that have all found their places end where the last of them is. -/
theorem scatter_leads_passed {bitmap : Bitmap} {done cursor count : Nat} (some : 0 < count)
    (stands : bitmap.markedFrom cursor = bitmap.marked.drop done) (target : Target ω) (blockSize : Nat)
    (blocks : ByteArray) (run : Run ω) :
    Leads (scatter target bitmap blockSize cursor count blocks run)
      (fun position _ => bitmap.Passed (done + count) position) fun _ _ => True := by
  refine leads_bind_of_next fun _ after => ?_
  split
  next short => trivial
  next all =>
    rw [bitmap.total_runs, stands, List.length_drop] at all
    refine ⟨by omega, ?_, ?_⟩
    · rw [bitmap.markedFrom_runs, stands, List.drop_drop]
    · -- There is a last run, since there are blocks to be placed.
      cases last : (bitmap.runs cursor count).getLast? with
      | none =>
        rw [List.getLast?_eq_none_iff] at last
        have none := bitmap.total_runs cursor count
        rw [last, stands, List.length_drop, Chunk.total] at none
        omega
      | some chunk => exact Bitmap.exists_last_of_mem_runs (List.mem_of_getLast? last)

/-! ### The three transfers -/

theorem imagePlan_paces (source : Source ω) (target : Sink ω) (descriptor : Descriptor) (bitmap : Bitmap)
    (config : Config) : ∃ holds, (imagePlan source target descriptor bitmap config).Paces bitmap
      (config.chunkCapacity descriptor.blockSize.toNat) holds := by
  refine ⟨_, Plan.paces_of_chunks (chunkCapacity_pos _ _) rfl rfl fun written chunk run => ?_⟩
  exact leads_bind_of_next fun data _ => leads_bind_of_next fun _ _ => leads_bind_of_next fun _ _ => rfl

theorem copyPlan_paces (source : Source ω) (target : Target ω) (descriptor : Descriptor) (bitmap : Bitmap)
    (config : Config) : ∃ holds, (copyPlan source target descriptor bitmap config).Paces bitmap
      (config.chunkCapacity descriptor.blockSize.toNat) holds := by
  refine ⟨_, Plan.paces_of_chunks (chunkCapacity_pos _ _) rfl rfl fun _ chunk run => ?_⟩
  refine leads_bind_of_next fun data _ => leads_bind_of_next fun outcome _ => ?_
  cases outcome with
  | ok _ => rfl
  | error cause =>
    refine leads_bind_of_next fun there _ => ?_
    split
    · exact leads_bind_of_next fun _ _ => rfl
    · exact leads_bind_of_next fun _ _ => rfl

theorem restorePlan_paces (stream : Stream ω) (target : Target ω) (head : Head) (bitmap : Bitmap) (config : Config) :
    (restorePlan stream target head bitmap config).Paces bitmap
      (config.chunkCapacity head.descriptor.blockSize.toNat)
      fun _ done restored => bitmap.markedFrom restored.cursor = bitmap.marked.drop done where
  size count member := by
    have bounds := of_mem_chunkSizes member
    rwa [Nat.max_eq_left (chunkCapacity_pos _ _)] at bounds
  begins run := leads_bind_of_next fun _ _ => leads_bind_of_next fun _ _ => rfl
  moves {count _ done restored} member stands run := by
    refine leads_bind_of_next fun data _ => leads_bind_of_next fun unpacking unpacked => ?_
    rw [leads_bind]
    have some : 0 < count := (of_mem_chunkSizes member).1
    exact (scatter_leads_passed some stands target _ unpacking.blocks unpacked).weaken fun cursor _ passed =>
      ⟨passed.rest, passed⟩

end Transfer

/-- Every transfer keeps pace with its bitmap. -/
theorem Movement.exists_paces (movement : Movement ω) (config : Config) : ∃ holds,
    (movement.plan config).Paces movement.bitmap (config.chunkCapacity movement.descriptor.blockSize.toNat) holds := by
  cases movement with
  | image source target descriptor bitmap => exact Transfer.imagePlan_paces source target descriptor bitmap config
  | copy source target descriptor bitmap => exact Transfer.copyPlan_paces source target descriptor bitmap config
  | restore stream target head bitmap => exact ⟨_, Transfer.restorePlan_paces stream target head bitmap config⟩

end BlockImage
