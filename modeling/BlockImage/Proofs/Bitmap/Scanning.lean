import BlockImage.Proofs.Trapping.Words
import Mathlib.Data.Nat.Count
import Mathlib.Order.Bounds.Basic

/-!
# Scans and single blocks

What a scan comes to is what looking at one block after the other would come to: the first block that holds data, the
longest run of such blocks, and their number. The loops over words that carry the scans out end with these answers, as
long as the bitmap is one that can be stored.
-/
namespace BlockImage.Bitmap

variable {bitmap : Bitmap} {start limit : Nat}

/-- The block exists and holds data. -/
def Holds (bitmap : Bitmap) (block : Nat) : Prop := bitmap.read block = .ok true

theorem holds_iff {block : Nat} : bitmap.Holds block ↔ bitmap.get block = true := by
  by_cases inside : block < bitmap.total
  · rw [Holds, read, if_pos inside]
    exact ⟨Except.ok.inj, congrArg Except.ok⟩
  · rw [Holds, read, if_neg inside, get_of_total_le (Nat.not_lt.mp inside)]
    exact ⟨nofun, nofun⟩

instance : DecidablePred bitmap.Holds := fun _ => decidable_of_iff _ holds_iff.symm

/-- What there is to find from a block on: the first block that holds data, or nothing if none does. -/
def FirstFrom (bitmap : Bitmap) (start : Nat) : Option Nat → Prop
  | some first => IsLeast {block | start ≤ block ∧ bitmap.Holds block} first
  | none => ∀ block, start ≤ block → ¬ bitmap.Holds block

/-- How many blocks may be taken from a block on, up to a limit, if all of them are to hold data. -/
def RunOf (bitmap : Bitmap) (start limit : Nat) : Set Nat :=
  {count | count ≤ limit ∧ ∀ place < count, bitmap.Holds (start + place)}

theorem nextSet_firstFrom (bitmap : Bitmap) (start : Nat) : bitmap.FirstFrom start (bitmap.nextSet start) := by
  have member (block : Nat) : block ∈ bitmap.markedFrom start ↔ start ≤ block ∧ bitmap.Holds block := by
    rw [mem_markedFrom, holds_iff]
  have ascending := bitmap.markedFrom_ascending start
  rw [nextSet_eq_head?]
  -- The list of what is left begins with its least block.
  cases listed : bitmap.markedFrom start with
  | nil =>
    intro block behind holds
    have := (member block).mpr ⟨behind, holds⟩
    rw [listed] at this
    cases this
  | cons first rest =>
    rw [listed] at ascending member
    constructor
    · exact (member first).mp List.mem_cons_self
    · intro block found
      rcases List.mem_cons.mp ((member block).mpr found) with rfl | later
      · exact Nat.le_refl _
      · exact Nat.le_of_lt (List.rel_of_pairwise_cons ascending later)

/-- The scan finds what there is to find, and nothing else would be right. -/
theorem firstFrom_iff {found : Option Nat} : bitmap.FirstFrom start found ↔ bitmap.nextSet start = found := by
  have right := bitmap.nextSet_firstFrom start
  constructor
  · -- Two answers that are right are the same: least blocks are unique, and one of them refutes that there is none.
    intro firsts
    cases came : bitmap.nextSet start with
    | none =>
      rw [came] at right
      cases found with
      | none => rfl
      | some first => exact absurd firsts.1.2 (right first firsts.1.1)
    | some next =>
      rw [came] at right
      cases found with
      | none => exact absurd right.1.2 (firsts next right.1.1)
      | some first => rw [IsLeast.unique right firsts]
  · rintro rfl
    exact right

theorem runLength_isGreatest (bitmap : Bitmap) (start limit : Nat) :
    IsGreatest (bitmap.RunOf start limit) (bitmap.runLength start limit) := by
  constructor
  · refine ⟨bitmap.runLength_le start limit, fun place inside => ?_⟩
    have listed : start + place ∈ bitmap.markedFrom start := by
      rw [bitmap.markedFrom_runLength start limit, List.mem_append, List.mem_range'_1]
      exact .inl ⟨Nat.le_add_right _ _, Nat.add_lt_add_left inside _⟩
    exact holds_iff.mpr (mem_markedFrom.mp listed).2
  · rintro count ⟨within, all⟩
    -- A longer run would hold the block in front of which the scan ended.
    by_contra longer
    have more : bitmap.runLength start limit < count := Nat.not_le.mp longer
    have clear := get_of_runLength_lt (Nat.lt_of_lt_of_le more within)
    rw [holds_iff.mp (all _ more)] at clear
    cases clear

theorem runLength_of_total_le (outside : bitmap.total ≤ start) : bitmap.runLength start limit = 0 := by
  by_contra some
  have holds := (bitmap.runLength_isGreatest start limit).1.2 0 (Nat.pos_of_ne_zero some)
  have inside := lt_total_of_get (holds_iff.mp holds)
  omega

theorem count_eq_card (bitmap : Bitmap) :
    bitmap.count = ((Finset.range bitmap.total).filter fun block => bitmap.Holds block).card := by
  rw [count_eq_countP, ← Nat.count_eq_card_filter_range, Nat.count]
  refine List.countP_congr fun block _ => ?_
  rw [decide_eq_true_eq, holds_iff]

/-- The scans come to what the single blocks say, and the loops over words to what the scans come to. A bitmap of
`2 ^ 61` bytes, which no memory holds, may number its blocks up to the last word, with none left to skip to. -/
theorem scans_agree_with_blocks (bitmap : Bitmap) (stored : bitmap.bytes.size < 2 ^ 61) :
    (∀ start found, bitmap.FirstFrom start found ↔ bitmap.nextSet start = found) ∧
    (∀ start limit, IsGreatest (bitmap.RunOf start limit) (bitmap.runLength start limit) ∧
      (bitmap.total ≤ start → bitmap.runLength start limit = 0)) ∧
    bitmap.count = ((Finset.range bitmap.total).filter fun block => bitmap.Holds block).card ∧
    Trapping.ScannedInWords bitmap := by
  have room : bitmap.total + 8 ≤ 2 ^ 64 := by
    rw [bitmap.size_bytes, bitmapSize] at stored
    omega
  exact ⟨fun _ _ => firstFrom_iff,
    fun start limit => ⟨bitmap.runLength_isGreatest start limit, runLength_of_total_le⟩,
    bitmap.count_eq_card, Trapping.scannedInWords room⟩

/-- Three bytes, of which the second one marks nothing and the third one is not full. -/
def sparse : Bitmap := .ofPred 20 (· ∈ [3, 18, 19])

/-- From the fourth block on the scan skips the second byte, and the run it comes to goes up to the last block. -/
theorem scans_agree_sample : sparse.bytes.size < 2 ^ 61 ∧
    (sparse.FirstFrom 4 (some 18) ∧ ∃ turns ≤ 16, Turn.Ends (Trapping.nextSetTurn sparse) 4 turns (some 18)) ∧
    (IsGreatest (sparse.RunOf 18 9) 2 ∧ ∃ turns ≤ 2, Turn.Ends (Trapping.runTurn sparse 18 9) 0 turns 2) ∧
    ((Finset.range 20).filter fun block => sparse.Holds block).card = 3 := by
  have stored : sparse.bytes.size < 2 ^ 61 := by decide
  obtain ⟨firsts, runs, card, words⟩ := scans_agree_with_blocks sparse stored
  have first : sparse.nextSet 4 = some 18 := by decide +kernel
  have long : sparse.runLength 18 9 = 2 := by decide +kernel
  have three : sparse.count = 3 := by decide +kernel
  refine ⟨stored, ⟨(firsts 4 _).mpr first, ?_⟩, ⟨long ▸ (runs 18 9).1, ?_⟩, card.symm.trans three⟩
  · obtain ⟨found, turns, within, ends, same⟩ := words.next 4
    obtain ⟨word, rfl, value⟩ := Option.map_eq_some_iff.mp (same.trans first)
    obtain rfl : word = 18 := UInt64.toNat_inj.mp value
    exact ⟨turns, within, ends⟩
  · obtain ⟨length, turns, within, ends, same⟩ := words.run 18 9
    obtain rfl : length = 2 := UInt64.toNat_inj.mp (same.trans long)
    exact ⟨turns, within, ends⟩

end BlockImage.Bitmap
