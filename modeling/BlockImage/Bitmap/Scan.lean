import BlockImage.Bitmap

/-!
# Scanning a bitmap

Transfers move chunks: runs of marked blocks that follow each other, cut at a capacity. The scans skip a byte
without set bits in one step.
-/
namespace BlockImage

/-- Consecutive marked blocks. -/
structure Chunk where
  first : Nat
  count : Nat
  deriving DecidableEq, Repr

/-- The block after the last one. -/
def Chunk.stop (chunk : Chunk) : Nat := chunk.first + chunk.count

def Chunk.total : List Chunk → Nat
  | [] => 0
  | chunk :: rest => chunk.count + total rest

namespace Bitmap

/-- The first marked block at or after `start`. -/
def nextSet (bitmap : Bitmap) (start : Nat) : Option Nat :=
  if start < bitmap.total then
    -- The skip may lead past the last block, since padding bits are clear; the scan then ends.
    if start % 8 = 0 ∧ Bytes.byteAt bitmap.bytes (start / 8) = 0 then bitmap.nextSet (start + 8)
    else if bitmap.get start then some start
    else bitmap.nextSet (start + 1)
  else none
termination_by bitmap.total - start

/-- How many of the blocks from `start` on are marked without a gap, once `counted` of them are. -/
def runFrom (bitmap : Bitmap) (start limit counted : Nat) : Nat :=
  if counted < limit then
    if bitmap.get (start + counted) then bitmap.runFrom start limit (counted + 1) else counted
  else counted
termination_by limit - counted

/-- The length of the run of marked blocks that begins at `start`, at most `limit`. -/
def runLength (bitmap : Bitmap) (start limit : Nat) : Nat := bitmap.runFrom start limit 0

theorem nextSet_spec {bitmap : Bitmap} {start index : Nat} (found : bitmap.nextSet start = some index) :
    start ≤ index ∧ index < bitmap.total ∧ bitmap.get index = true := by
  fun_induction nextSet bitmap start with
  | case1 start inside skipped ih =>
    have := ih found
    exact ⟨by omega, this.2⟩
  | case2 start inside kept marked =>
    cases found
    exact ⟨Nat.le_refl _, inside, marked⟩
  | case3 start inside kept unmarked ih =>
    have := ih found
    exact ⟨by omega, this.2⟩
  | case4 start outside => cases found

theorem counted_le_runFrom (bitmap : Bitmap) (start limit counted : Nat) :
    counted ≤ bitmap.runFrom start limit counted := by
  fun_induction runFrom bitmap start limit counted with
  | case1 counted below marked ih => omega
  | case2 => exact Nat.le_refl _
  | case3 => exact Nat.le_refl _

theorem runLength_pos {bitmap : Bitmap} {start limit : Nat} (room : 0 < limit)
    (marked : bitmap.get start = true) : 0 < bitmap.runLength start limit := by
  unfold runLength runFrom
  rw [if_pos room, Nat.add_zero, if_pos marked]
  exact bitmap.counted_le_runFrom start limit 1

/-- The chunks from `cursor` on, behind those already cut. -/
def chunksFrom (bitmap : Bitmap) (capacity : Nat) (room : 0 < capacity) (cut : Array Chunk) (cursor : Nat) :
    Array Chunk :=
  match found : bitmap.nextSet cursor with
  | none => cut
  | some first =>
    have within := nextSet_spec found
    have := runLength_pos room within.2.2
    let count := bitmap.runLength first capacity
    bitmap.chunksFrom capacity room (cut.push ⟨first, count⟩) (first + count)
termination_by bitmap.total - cursor

/-- The marked blocks in order, in chunks of at most `capacity` blocks; no capacity counts as one block. -/
def chunks (bitmap : Bitmap) (capacity : Nat) : List Chunk :=
  (bitmap.chunksFrom (max capacity 1) (by omega) #[] 0).toList

/-- The runs that the next `amount` marked blocks from `cursor` on lie in, behind those already cut. -/
def runsFrom (bitmap : Bitmap) (amount : Nat) (cut : Array Chunk) (cursor : Nat) : Array Chunk :=
  if room : 0 < amount then
    match found : bitmap.nextSet cursor with
    | none => cut
    | some first =>
      have := runLength_pos room (nextSet_spec found).2.2
      let count := bitmap.runLength first amount
      bitmap.runsFrom (amount - count) (cut.push ⟨first, count⟩) (first + count)
  else cut
termination_by amount

/-- Where the next `amount` marked blocks from `cursor` on lie, as runs; fewer if there are not as many. -/
def runs (bitmap : Bitmap) (cursor amount : Nat) : List Chunk := (bitmap.runsFrom amount #[] cursor).toList

end Bitmap

end BlockImage
