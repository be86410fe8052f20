import BlockImage.Proofs.Bitmap.Marked
import BlockImage.Proofs.Trapping

/-!
# Scans stay within their bitmap

Each scan looks at bytes of the bitmap that hold the bit of one of its blocks, and at no others. So the scans that would
be caught beside the bitmap find what the scans without traps find.
-/
namespace BlockImage.Trapping

/-- The mark of a block, in the byte that holds it. -/
def mark (bitmap : Bitmap) (index : Nat) : Except Trap Bool := do
  let held ← byte bitmap.bytes (index / 8)
  return held.toNat.testBit (index % 8)

def nextSet (bitmap : Bitmap) (start : Nat) : Except Trap (Option Nat) := do
  if start < bitmap.total then
    let held ← byte bitmap.bytes (start / 8)
    if start % 8 = 0 ∧ held = 0 then nextSet bitmap (start + 8)
    else if ← mark bitmap start then return some start
    else nextSet bitmap (start + 1)
  else return none
termination_by bitmap.total - start

/-- Looks no further than the last block of the bitmap. -/
def runFrom (bitmap : Bitmap) (start limit counted : Nat) : Except Trap Nat := do
  if counted < limit ∧ start + counted < bitmap.total then
    if ← mark bitmap (start + counted) then runFrom bitmap start limit (counted + 1) else return counted
  else return counted
termination_by limit - counted

section

variable {bitmap : Bitmap}

theorem mark_eq {index : Nat} (inside : index < bitmap.total) : mark bitmap index = .ok (bitmap.get index) := by
  rw [mark, byte_of_lt (Bitmap.byte_inside inside)]
  rfl

theorem nextSet_eq (start : Nat) : nextSet bitmap start = .ok (bitmap.nextSet start) := by
  fun_induction Bitmap.nextSet bitmap start with
  | case1 start inside skipped ih =>
    rw [nextSet, if_pos inside, byte_of_lt (Bitmap.byte_inside inside)]
    exact (if_pos skipped).trans ih
  | case2 start inside kept marked =>
    rw [nextSet, if_pos inside, byte_of_lt (Bitmap.byte_inside inside), mark_eq inside, marked]
    exact if_neg kept
  | case3 start inside kept unmarked ih =>
    rw [nextSet, if_pos inside, byte_of_lt (Bitmap.byte_inside inside), mark_eq inside, Bool.eq_false_iff.mpr unmarked]
    exact (if_neg kept).trans ih
  | case4 start outside => rw [nextSet, if_neg outside]; rfl

theorem runFrom_eq (start limit counted : Nat) :
    runFrom bitmap start limit counted = .ok (bitmap.runFrom start limit counted) := by
  fun_induction Bitmap.runFrom bitmap start limit counted with
  | case1 counted below marked ih =>
    -- Only blocks of the bitmap are marked, so the bound on them changes nothing.
    have inside := Bitmap.lt_total_of_get marked
    rw [runFrom, if_pos ⟨below, inside⟩, mark_eq inside, marked]
    exact ih
  | case2 counted below unmarked =>
    -- The scan ends at a block that is not marked, or behind the last one.
    rw [runFrom]
    split
    next further =>
      rw [mark_eq further.2, Bool.eq_false_iff.mpr unmarked]
      rfl
    next => rfl
  | case3 counted full => rw [runFrom, if_neg fun further => full further.1]; rfl

/-- The next run of marked blocks, cut at a limit. -/
def nextRun (bitmap : Bitmap) (cursor limit : Nat) : Except Trap (Option Chunk) := do
  match ← nextSet bitmap cursor with
  | none => return none
  | some first =>
    let count ← runFrom bitmap first limit 0
    return some ⟨first, count⟩

theorem nextRun_of_none {cursor : Nat} (limit : Nat) (found : bitmap.nextSet cursor = none) :
    nextRun bitmap cursor limit = .ok none := by
  rw [nextRun, nextSet_eq, found]
  rfl

theorem nextRun_of_some {cursor first : Nat} (limit : Nat) (found : bitmap.nextSet cursor = some first) :
    nextRun bitmap cursor limit = .ok (some ⟨first, bitmap.runLength first limit⟩) := by
  rw [nextRun, nextSet_eq, found]
  change (runFrom bitmap first limit 0 >>= _) = _
  rw [runFrom_eq]
  rfl

theorem nextRun_ahead {cursor limit : Nat} {run : Chunk} (room : 0 < limit)
    (found : nextRun bitmap cursor limit = .ok (some run)) :
    cursor ≤ run.first ∧ run.first < bitmap.total ∧ 0 < run.count := by
  cases scanned : bitmap.nextSet cursor with
  | none => cases (nextRun_of_none limit scanned).symm.trans found
  | some first =>
    cases (nextRun_of_some limit scanned).symm.trans found
    have spec := Bitmap.nextSet_spec scanned
    exact ⟨spec.1, spec.2.1, Bitmap.runLength_pos room spec.2.2⟩

end

def chunksFrom (bitmap : Bitmap) (capacity : Nat) (room : 0 < capacity) (cut : Array Chunk) (cursor : Nat) :
    Except Trap (Array Chunk) :=
  match found : nextRun bitmap cursor capacity with
  | .error trap => .error trap
  | .ok none => .ok cut
  | .ok (some run) =>
    have := nextRun_ahead room found
    chunksFrom bitmap capacity room (cut.push run) (run.first + run.count)
termination_by bitmap.total - cursor

theorem max_one_pos (capacity : Nat) : 0 < max capacity 1 := Nat.lt_of_lt_of_le Nat.one_pos (Nat.le_max_right _ _)

def chunks (bitmap : Bitmap) (capacity : Nat) : Except Trap (List Chunk) := do
  let cut ← chunksFrom bitmap (max capacity 1) (max_one_pos capacity) #[] 0
  return cut.toList

def runsFrom (bitmap : Bitmap) (amount : Nat) (cut : Array Chunk) (cursor : Nat) : Except Trap (Array Chunk) :=
  if room : 0 < amount then
    match found : nextRun bitmap cursor amount with
    | .error trap => .error trap
    | .ok none => .ok cut
    | .ok (some run) =>
      have := nextRun_ahead room found
      runsFrom bitmap (amount - run.count) (cut.push run) (run.first + run.count)
  else .ok cut
termination_by amount

def runs (bitmap : Bitmap) (cursor amount : Nat) : Except Trap (List Chunk) := do
  let cut ← runsFrom bitmap amount #[] cursor
  return cut.toList

variable (bitmap : Bitmap)

theorem chunksFrom_eq (capacity : Nat) (room : 0 < capacity) (cut : Array Chunk) (cursor : Nat) :
    chunksFrom bitmap capacity room cut cursor = .ok (bitmap.chunksFrom capacity room cut cursor) := by
  fun_induction Bitmap.chunksFrom bitmap capacity room cut cursor with
  | case1 cut cursor found =>
    have none := nextRun_of_none capacity found
    unfold chunksFrom
    split
    next caught => cases none.symm.trans caught
    next => rfl
    next some => cases none.symm.trans some
  | case2 cut cursor first found within positive count ih =>
    have some := nextRun_of_some capacity found
    unfold chunksFrom
    split
    next caught => cases some.symm.trans caught
    next none => cases some.symm.trans none
    next run same =>
      cases some.symm.trans same
      exact ih

theorem chunks_eq (capacity : Nat) : chunks bitmap capacity = .ok (bitmap.chunks capacity) := by
  rw [chunks, chunksFrom_eq]
  rfl

theorem runsFrom_eq (amount : Nat) (cut : Array Chunk) (cursor : Nat) :
    runsFrom bitmap amount cut cursor = .ok (bitmap.runsFrom amount cut cursor) := by
  fun_induction Bitmap.runsFrom bitmap amount cut cursor with
  | case1 amount cut cursor room found =>
    have none := nextRun_of_none amount found
    rw [runsFrom, dif_pos room]
    split
    next caught => cases none.symm.trans caught
    next => rfl
    next some => cases none.symm.trans some
  | case2 amount cut cursor room first found positive count ih =>
    have some := nextRun_of_some amount found
    rw [runsFrom, dif_pos room]
    split
    next caught => cases some.symm.trans caught
    next none => cases some.symm.trans none
    next run same =>
      cases some.symm.trans same
      exact ih
  | case3 amount cut cursor none => rw [runsFrom, dif_neg none]

theorem runs_eq (cursor amount : Nat) : runs bitmap cursor amount = .ok (bitmap.runs cursor amount) := by
  rw [runs, runsFrom_eq]
  rfl

end BlockImage.Trapping
