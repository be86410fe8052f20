import BlockImage.Proofs.Bitmap.Marked
import BlockImage.Proofs.Trapping
import Mathlib.Data.Nat.Bitwise

/-!
# Scans in words

A scan numbers blocks by words of 64 bits and cuts marks out of bytes with masks. It is a loop whose turns are caught
where a byte lies beside the bitmap or a sum does not fit in a word. If there are words left for a skip behind the last
block then no turn is caught, and each loop ends with what its scan finds when numbers have no bound.
-/
namespace BlockImage

/-- What one turn of a loop comes to. -/
inductive Turn (σ α : Type)
  | further (state : σ)
  | answer (value : α)

namespace Turn

variable {σ α : Type} {turn : σ → Except Trap (Turn σ α)}

/-- From a state on the loop takes so many turns before the one that answers, and none of them is caught. -/
inductive Ends (turn : σ → Except Trap (Turn σ α)) : σ → Nat → α → Prop
  | answer {state : σ} {value : α} (last : turn state = .ok (.answer value)) : Ends turn state 0 value
  | further {state next : σ} {turns : Nat} {value : α} (more : turn state = .ok (.further next))
      (rest : Ends turn next turns value) : Ends turn state (turns + 1) value

/-- The turn is not caught: its answer is as it should be, or the state that it leaves is. -/
def Goes (came : Except Trap (Turn σ α)) (answers : α → Prop) (goesOn : σ → Prop) : Prop :=
  match came with
  | .ok (.answer value) => answers value
  | .ok (.further next) => goesOn next
  | .error _ => False

theorem Goes.mono {came : Except Trap (Turn σ α)} {answers : α → Prop} {goesOn goesOn' : σ → Prop}
    (goes : Goes came answers goesOn) (further : ∀ next, goesOn next → goesOn' next) : Goes came answers goesOn' := by
  cases came with
  | error trap => exact goes
  | ok comes =>
    cases comes with
    | answer value => exact goes
    | further next => exact further next goes

/-- A loop comes to its end if each turn answers as it should, or keeps the invariant and lowers a measure. -/
theorem ends_of_descending (left : σ → Nat) (holds : σ → Prop) {answers : α → Prop}
    (steps : ∀ state, holds state → Goes (turn state) answers fun next => holds next ∧ left next < left state)
    (state : σ) (start : holds state) :
    ∃ answer, ∃ turns ≤ left state, Ends turn state turns answer ∧ answers answer := by
  -- The induction is on what is left at the state, for a turn that goes on leaves less.
  induction measured : left state using Nat.strong_induction_on generalizing state with
  | _ count ih =>
    have goes := steps state start
    cases came : turn state with
    | error trap =>
      rw [came] at goes
      exact goes.elim
    | ok comes =>
      rw [came] at goes
      cases comes with
      | answer value => exact ⟨value, 0, Nat.zero_le _, .answer came, goes⟩
      | further next =>
        obtain ⟨holds, nearer⟩ := goes
        obtain ⟨answer, turns, within, ends, right⟩ := ih _ (measured ▸ nearer) _ holds rfl
        exact ⟨answer, turns + 1, by omega, .further came ends, right⟩

end Turn

namespace Trapping

/-! ### Single operations -/

/-- A sum that has to fit in a word. -/
def plus (left right : UInt64) : Except Trap UInt64 :=
  if left.toNat + right.toNat < 2 ^ 64 then return left + right else throw .farPlace

theorem exists_plus (left : UInt64) {right : UInt64} {amount : Nat} (value : right.toNat = amount)
    (fits : left.toNat + amount < 2 ^ 64) : ∃ sum, plus left right = .ok sum ∧ sum.toNat = left.toNat + amount := by
  subst value
  refine ⟨left + right, if_pos fits, ?_⟩
  rw [UInt64.toNat_add]
  exact Nat.mod_eq_of_lt fits

theorem bit_eq_masked (held place : UInt8) (low : place.toNat < 8) :
    (held &&& 1 <<< place != 0) = held.toNat.testBit place.toNat := by
  have mask : (1 <<< place : UInt8).toNat = 2 ^ place.toNat := by
    rw [UInt8.toNat_shiftLeft, Nat.mod_eq_of_lt low, UInt8.toNat_one, Nat.one_shiftLeft]
    exact Nat.mod_eq_of_lt (Nat.pow_lt_pow_right (by decide) low)
  have cut : (held &&& 1 <<< place).toNat = (held.toNat.testBit place.toNat).toNat * 2 ^ place.toNat := by
    rw [UInt8.toNat_and, mask, Nat.and_two_pow]
  have zero : held &&& 1 <<< place = 0 ↔ held.toNat.testBit place.toNat = false := by
    rw [← UInt8.toNat_inj, cut]
    cases held.toNat.testBit place.toNat <;> simp
  cases bit : held.toNat.testBit place.toNat with
  | false => simp [zero.mpr bit]
  | true => simpa [bit] using zero

/-- The mark of a block, cut out of its byte by a mask. -/
def maskedMark (bitmap : Bitmap) (index : UInt64) : Except Trap Bool := do
  let held ← byte bitmap.bytes (index / 8).toNat
  return held &&& 1 <<< (index % 8).toUInt8 != 0

variable {bitmap : Bitmap} {index : UInt64}

theorem byte_of_inside (inside : index.toNat < bitmap.total) :
    byte bitmap.bytes (index / 8).toNat = .ok (Bytes.byteAt bitmap.bytes (index.toNat / 8)) := by
  have quotient : (index / 8).toNat = index.toNat / 8 := UInt64.toNat_div index 8
  rw [quotient]
  exact byte_of_lt (Bitmap.byte_inside inside)

theorem maskedMark_eq (inside : index.toNat < bitmap.total) :
    maskedMark bitmap index = .ok (bitmap.get index.toNat) := by
  have place : (index % 8).toUInt8.toNat = index.toNat % 8 := by
    rw [UInt64.toNat_toUInt8, UInt64.toNat_mod]
    exact Nat.mod_eq_of_lt (Nat.lt_of_lt_of_le (Nat.mod_lt _ (by decide)) (by decide))
  have cut := bit_eq_masked (Bytes.byteAt bitmap.bytes (index.toNat / 8)) (index % 8).toUInt8
    (place ▸ Nat.mod_lt _ (by decide))
  rw [maskedMark, byte_of_inside inside, Bitmap.get, bitAt, ← place, ← cut]
  rfl

/-! ### The next marked block -/

def nextSetTurn (bitmap : Bitmap) (index : UInt64) : Except Trap (Turn UInt64 (Option UInt64)) := do
  if index.toNat < bitmap.total then
    let held ← byte bitmap.bytes (index / 8).toNat
    if index % 8 = 0 ∧ held = 0 then
      let next ← plus index 8
      return .further next
    else if ← maskedMark bitmap index then return .answer (some index)
    else
      let next ← plus index 1
      return .further next
  else return .answer none

/-- A turn finds what is to be found from its block on, or leaves it to a later block. -/
theorem nextSetTurn_goes (room : bitmap.total + 8 ≤ 2 ^ 64) (index : UInt64) :
    Turn.Goes (nextSetTurn bitmap index) (fun found => found.map UInt64.toNat = bitmap.nextSet index.toNat)
      fun next => bitmap.nextSet next.toNat = bitmap.nextSet index.toNat ∧
        bitmap.total - next.toNat < bitmap.total - index.toNat := by
  have aligned : index % 8 = 0 ↔ index.toNat % 8 = 0 := by
    rw [← UInt64.toNat_inj, UInt64.toNat_mod]
    rfl
  fun_cases Bitmap.nextSet bitmap index.toNat with
  | case1 inside skipped =>
    -- Nothing is marked in the byte that begins here.
    obtain ⟨next, sum, value⟩ := exists_plus index (show (8 : UInt64).toNat = 8 from rfl) (by omega)
    have turned : nextSetTurn bitmap index = .ok (.further next) := by
      rw [nextSetTurn, if_pos inside, byte_of_inside inside]
      exact (if_pos ⟨aligned.mpr skipped.1, skipped.2⟩).trans (by rw [sum]; rfl)
    rw [turned]
    constructor
    · rw [value]
    · omega
  | case2 inside kept marks =>
    have turned : nextSetTurn bitmap index = .ok (.answer (some index)) := by
      rw [nextSetTurn, if_pos inside, byte_of_inside inside, maskedMark_eq inside, marks]
      exact if_neg (by rwa [aligned])
    rw [turned]
    rfl
  | case3 inside kept unmarked =>
    obtain ⟨next, sum, value⟩ := exists_plus index (show (1 : UInt64).toNat = 1 from rfl) (by omega)
    have turned : nextSetTurn bitmap index = .ok (.further next) := by
      rw [nextSetTurn, if_pos inside, byte_of_inside inside, maskedMark_eq inside, Bool.eq_false_iff.mpr unmarked]
      exact (if_neg (by rwa [aligned])).trans (by rw [sum]; rfl)
    rw [turned]
    constructor
    · rw [value]
    · omega
  | case4 outside =>
    rw [nextSetTurn, if_neg outside]
    rfl

theorem nextSet_ends (room : bitmap.total + 8 ≤ 2 ^ 64) (start : UInt64) :
    ∃ found, ∃ turns ≤ bitmap.total - start.toNat, Turn.Ends (nextSetTurn bitmap) start turns found ∧
      found.map UInt64.toNat = bitmap.nextSet start.toNat := by
  refine Turn.ends_of_descending (fun index : UInt64 => bitmap.total - index.toNat)
    (fun index => bitmap.nextSet index.toNat = bitmap.nextSet start.toNat) (fun index same => ?_) start rfl
  have goes := nextSetTurn_goes room index
  rwa [same] at goes

/-- Without that room no word is left for the place behind the last byte, and a skip over that byte is caught. -/
theorem nextSetTurn_caught (fits : bitmap.total < 2 ^ 64) (full : 2 ^ 64 < bitmap.total + 8)
    (none : bitmap.nextSet (2 ^ 64 - 8) = none) : nextSetTurn bitmap 0xFFFFFFFFFFFFFFF8 = .error .farPlace := by
  have last : (0xFFFFFFFFFFFFFFF8 : UInt64).toNat = 2 ^ 64 - 8 := rfl
  have inside : (0xFFFFFFFFFFFFFFF8 : UInt64).toNat < bitmap.total := by omega
  have clear (block : Nat) (behind : 2 ^ 64 - 8 ≤ block) : bitmap.get block = false := by
    rw [Bitmap.nextSet_eq_head?, List.head?_eq_none_iff] at none
    refine Bool.eq_false_iff.mpr fun marks => ?_
    have listed := Bitmap.mem_markedFrom.mpr ⟨behind, marks⟩
    rw [none] at listed
    cases listed
  have empty : Bytes.byteAt bitmap.bytes ((0xFFFFFFFFFFFFFFF8 : UInt64).toNat / 8) = 0 := by
    refine UInt8.toNat_inj.mp (Nat.eq_of_testBit_eq fun place => ?_)
    rw [UInt8.toNat_zero, Nat.zero_testBit]
    by_cases low : place < 8
    · have bit := clear (2 ^ 64 - 8 + place) (Nat.le_add_right _ _)
      have quotient : (2 ^ 64 - 8 + place) / 8 = (2 ^ 64 - 8) / 8 := by omega
      have remainder : (2 ^ 64 - 8 + place) % 8 = place := by omega
      rwa [Bitmap.get, bitAt, quotient, remainder] at bit
    · exact Bytes.testBit_of_le _ (by omega)
  rw [nextSetTurn, if_pos inside, byte_of_inside inside, empty]
  rfl

/-! ### The length of a run -/

def runTurn (bitmap : Bitmap) (start limit counted : UInt64) : Except Trap (Turn UInt64 UInt64) := do
  if counted < limit then
    let index ← plus start counted
    if index.toNat < bitmap.total then
      if ← maskedMark bitmap index then
        let next ← plus counted 1
        return .further next
      else return .answer counted
    else return .answer counted
  else return .answer counted

/-- A turn counts the next block of the run, or ends with the blocks that are counted. -/
theorem runTurn_goes (fits : bitmap.total < 2 ^ 64) (start limit counted : UInt64)
    (within : counted.toNat = 0 ∨ start.toNat + counted.toNat ≤ bitmap.total) :
    Turn.Goes (runTurn bitmap start limit counted)
      (fun length => length.toNat = bitmap.runFrom start.toNat limit.toNat counted.toNat)
      fun next => start.toNat + next.toNat ≤ bitmap.total ∧
        bitmap.runFrom start.toNat limit.toNat next.toNat = bitmap.runFrom start.toNat limit.toNat counted.toNat ∧
        bitmap.total - (start.toNat + next.toNat) < bitmap.total - (start.toNat + counted.toNat) := by
  have ordered : counted < limit ↔ counted.toNat < limit.toNat := UInt64.lt_iff_toNat_lt
  have low := start.toNat_lt
  -- What is counted lies in the bitmap, so the next block has a number, even behind the last one.
  obtain ⟨index, sum, value⟩ := exists_plus start (@rfl _ counted.toNat) (by omega)
  fun_cases Bitmap.runFrom bitmap start.toNat limit.toNat counted.toNat with
  | case1 below marked =>
    have inside := Bitmap.lt_total_of_get marked
    obtain ⟨next, more, one⟩ := exists_plus counted (show (1 : UInt64).toNat = 1 from rfl) (by omega)
    have turned : runTurn bitmap start limit counted = .ok (.further next) := by
      rw [runTurn, if_pos (ordered.mpr below), sum]
      refine (if_pos (value ▸ inside)).trans ?_
      rw [maskedMark_eq (value ▸ inside), value, marked]
      change (plus counted 1 >>= _) = _
      rw [more]
      rfl
    rw [turned]
    refine ⟨by omega, ?_, by omega⟩
    rw [one]
  | case2 below unmarked =>
    -- The run ends in front of the block, which may be the one behind the last one.
    have turned : runTurn bitmap start limit counted = .ok (.answer counted) := by
      rw [runTurn, if_pos (ordered.mpr below), sum]
      by_cases inside : index.toNat < bitmap.total
      · refine (if_pos inside).trans ?_
        rw [maskedMark_eq inside, value, Bool.eq_false_iff.mpr unmarked]
        rfl
      · exact if_neg inside
    rw [turned]
    rfl
  | case3 full =>
    rw [runTurn, if_neg (by rwa [ordered])]
    rfl

theorem run_ends (fits : bitmap.total < 2 ^ 64) (start limit : UInt64) :
    ∃ length, ∃ turns ≤ bitmap.total - start.toNat, Turn.Ends (runTurn bitmap start limit) 0 turns length ∧
      length.toNat = bitmap.runLength start.toNat limit.toNat := by
  refine Turn.ends_of_descending (fun counted : UInt64 => bitmap.total - (start.toNat + counted.toNat))
    (fun counted => (counted.toNat = 0 ∨ start.toNat + counted.toNat ≤ bitmap.total) ∧
      bitmap.runFrom start.toNat limit.toNat counted.toNat = bitmap.runLength start.toNat limit.toNat)
    (fun counted ⟨within, same⟩ => ?_) 0 ⟨.inl rfl, rfl⟩
  have goes := runTurn_goes fits start limit counted within
  rw [same] at goes
  refine goes.mono fun next ⟨inside, same, nearer⟩ => ⟨⟨.inr inside, same⟩, nearer⟩

/-! ### The number of marked blocks -/

/-- The marks of the bytes of which all bits stand for blocks. -/
def countWhole (bitmap : Bitmap) : Except Trap UInt64 := do
  let whole ← slice bitmap.bytes 0 (bitmap.total / 8)
  whole.data.foldlM (fun sum byte => plus sum (.ofNat (Bitmap.ones byte))) 0

def addMark (sum : UInt64) (mark : Bool) : Except Trap UInt64 := if mark then plus sum 1 else return sum

/-- One turn for each block behind those bytes. -/
def countTurn (bitmap : Bitmap) : UInt64 × UInt64 → Except Trap (Turn (UInt64 × UInt64) UInt64)
  | (index, sum) => do
    if index.toNat < bitmap.total then
      let mark ← maskedMark bitmap index
      let counted ← addMark sum mark
      let next ← plus index 1
      return .further (next, counted)
    else return .answer sum

theorem exists_addMark (sum : UInt64) (mark : Bool) (fits : sum.toNat + 1 < 2 ^ 64) :
    ∃ counted, addMark sum mark = .ok counted ∧ counted.toNat = sum.toNat + mark.toNat := by
  cases mark with
  | false => exact ⟨sum, rfl, rfl⟩
  | true => exact exists_plus sum rfl fits

theorem ones_le (byte : UInt8) : Bitmap.ones byte ≤ 8 := by
  simpa [Bitmap.ones] using List.countP_le_length (p := byte.toNat.testBit) (l := List.range 8)

theorem le_foldl_ones (bytes : List UInt8) (sum : Nat) :
    sum ≤ bytes.foldl (fun sum byte => sum + Bitmap.ones byte) sum := by
  induction bytes generalizing sum with
  | nil => exact Nat.le_refl _
  | cons byte bytes ih => exact Nat.le_trans (Nat.le_add_right ..) (ih _)

theorem exists_foldlM_plus (bytes : List UInt8) (sum : UInt64)
    (fits : bytes.foldl (fun sum byte => sum + Bitmap.ones byte) sum.toNat < 2 ^ 64) :
    ∃ whole, bytes.foldlM (fun sum byte => plus sum (.ofNat (Bitmap.ones byte))) sum = .ok whole ∧
      whole.toNat = bytes.foldl (fun sum byte => sum + Bitmap.ones byte) sum.toNat := by
  induction bytes generalizing sum with
  | nil => exact ⟨sum, rfl, rfl⟩
  | cons byte bytes ih =>
    have few : (UInt64.ofNat (Bitmap.ones byte)).toNat = Bitmap.ones byte := by
      rw [UInt64.toNat_ofNat']
      exact Nat.mod_eq_of_lt (Nat.lt_of_le_of_lt (ones_le byte) (by decide))
    rw [List.foldl_cons] at fits ⊢
    -- A sum on the way is no more than the last one.
    have within := le_foldl_ones bytes (sum.toNat + Bitmap.ones byte)
    obtain ⟨next, added, value⟩ := exists_plus sum few (by omega)
    obtain ⟨whole, folded, total⟩ := ih next (value ▸ fits)
    refine ⟨whole, ?_, value ▸ total⟩
    rw [List.foldlM_cons, added]
    exact folded

theorem exists_countWhole (fits : bitmap.total < 2 ^ 64) : ∃ whole, countWhole bitmap = .ok whole ∧
    whole.toNat = (List.range (8 * (bitmap.total / 8))).countP bitmap.get := by
  have size := bitmap.size_bytes
  rw [bitmapSize] at size
  have within : bitmap.total / 8 ≤ bitmap.bytes.size := by omega
  have taken : (bitmap.bytes.extract 0 (bitmap.total / 8)).data.toList =
      bitmap.bytes.data.toList.take (bitmap.total / 8) := by simp
  -- As many blocks are marked as the bytes have ones, and no more blocks are there than a word can count.
  have counted := Bitmap.countP_bits bitmap.bytes (bitmap.total / 8) within
  have few := List.countP_le_length (p := bitAt bitmap.bytes) (l := List.range (8 * (bitmap.total / 8)))
  rw [List.length_range, counted, ← taken] at few
  obtain ⟨whole, folded, value⟩ := exists_foldlM_plus _ 0 (Nat.lt_of_le_of_lt few (by omega))
  refine ⟨whole, ?_, value.trans ?_⟩
  · rw [countWhole, slice_of_le (Nat.zero_le _) within, ← folded, Array.foldlM_toList]
    rfl
  · rw [taken]
    exact counted.symm

/-- A turn adds the mark of its block to those that are counted. -/
theorem countTurn_goes (fits : bitmap.total < 2 ^ 64) {index sum : UInt64} (within : index.toNat ≤ bitmap.total)
    (counts : sum.toNat = (List.range index.toNat).countP bitmap.get) :
    Turn.Goes (countTurn bitmap (index, sum))
      (fun count => count.toNat = (List.range bitmap.total).countP bitmap.get)
      fun next => next.1.toNat ≤ bitmap.total ∧ next.2.toNat = (List.range next.1.toNat).countP bitmap.get ∧
        bitmap.total - next.1.toNat < bitmap.total - index.toNat := by
  by_cases inside : index.toNat < bitmap.total
  · obtain ⟨next, more, one⟩ := exists_plus index (show (1 : UInt64).toNat = 1 from rfl) (by omega)
    have few := List.countP_le_length (p := bitmap.get) (l := List.range index.toNat)
    rw [List.length_range] at few
    obtain ⟨counted, added, value⟩ := exists_addMark sum (bitmap.get index.toNat) (by omega)
    have turned : countTurn bitmap (index, sum) = .ok (.further (next, counted)) := by
      rw [countTurn, if_pos inside, maskedMark_eq inside]
      change (addMark sum (bitmap.get index.toNat) >>= _) = _
      rw [added]
      change (plus index 1 >>= _) = _
      rw [more]
      rfl
    have counts : counted.toNat = (List.range next.toNat).countP bitmap.get := by
      rw [one, List.range_succ, List.countP_append, List.countP_singleton, ← counts, value]
      cases bitmap.get index.toNat <;> rfl
    rw [turned]
    refine ⟨?_, counts, ?_⟩
    · change next.toNat ≤ bitmap.total
      omega
    · change bitmap.total - next.toNat < bitmap.total - index.toNat
      omega
  · have all : index.toNat = bitmap.total := by omega
    rw [countTurn, if_neg inside]
    exact all ▸ counts

theorem count_ends (fits : bitmap.total < 2 ^ 64) : ∃ whole, countWhole bitmap = .ok whole ∧
    ∃ count, ∃ turns ≤ 7, Turn.Ends (countTurn bitmap) (.ofNat (8 * (bitmap.total / 8)), whole) turns count ∧
      count.toNat = bitmap.count := by
  obtain ⟨whole, folded, value⟩ := exists_countWhole fits
  have front : (UInt64.ofNat (8 * (bitmap.total / 8))).toNat = 8 * (bitmap.total / 8) := by
    rw [UInt64.toNat_ofNat']
    exact Nat.mod_eq_of_lt (by omega)
  rw [← front] at value
  obtain ⟨count, turns, within, ends, right⟩ := Turn.ends_of_descending
    (fun state : UInt64 × UInt64 => bitmap.total - state.1.toNat)
    (fun state => state.1.toNat ≤ bitmap.total ∧ state.2.toNat = (List.range state.1.toNat).countP bitmap.get)
    (fun (index, sum) ⟨within, counts⟩ => (countTurn_goes fits within counts).mono
      fun next ⟨within, counts, nearer⟩ => ⟨⟨within, counts⟩, nearer⟩)
    (.ofNat (8 * (bitmap.total / 8)), whole) ⟨by rw [front]; omega, value⟩
  refine ⟨whole, folded, count, turns, ?_, ends, ?_⟩
  · refine Nat.le_trans within ?_
    change bitmap.total - (UInt64.ofNat (8 * (bitmap.total / 8))).toNat ≤ 7
    omega
  · rw [right, bitmap.count_eq_countP]

/-- No turn of the loops is caught, and each loop ends with what its scan finds. -/
structure ScannedInWords (bitmap : Bitmap) : Prop where
  next : ∀ start : UInt64, ∃ found, ∃ turns ≤ bitmap.total - start.toNat,
    Turn.Ends (nextSetTurn bitmap) start turns found ∧ found.map UInt64.toNat = bitmap.nextSet start.toNat
  run : ∀ start limit : UInt64, ∃ length, ∃ turns ≤ bitmap.total - start.toNat,
    Turn.Ends (runTurn bitmap start limit) 0 turns length ∧ length.toNat = bitmap.runLength start.toNat limit.toNat
  count : ∃ whole, countWhole bitmap = .ok whole ∧ ∃ count, ∃ turns ≤ 7,
    Turn.Ends (countTurn bitmap) (.ofNat (8 * (bitmap.total / 8)), whole) turns count ∧ count.toNat = bitmap.count

theorem scannedInWords (room : bitmap.total + 8 ≤ 2 ^ 64) : ScannedInWords bitmap where
  next := nextSet_ends room
  run := run_ends (by omega)
  count := count_ends (by omega)

end Trapping

end BlockImage
