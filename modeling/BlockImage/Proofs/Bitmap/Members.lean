import BlockImage.Proofs.Bitmap.Marked
import BlockImage.Proofs.Leads
import Mathlib.Data.Finset.Card
import Mathlib.Data.Finset.Range

/-!
# Bitmaps as sets of blocks

A bitmap represents a set of blocks, and each call changes the set as its name says. What is stored depends on the
number of blocks and on the set alone, so that bitmaps that came about in different ways are compared by their sets.
-/
namespace BlockImage.Bitmap

/-- A bitmap over the blocks below `total` in which the members of a set are marked and nothing else is stored. -/
structure Represents (bitmap : Bitmap) (total : Nat) (members : Finset Nat) : Prop where
  blocks : bitmap.total = total
  within : members ⊆ Finset.range total
  reads : ∀ index < total, bitmap.read index = .ok (decide (index ∈ members))
  refuses : ∀ index, total ≤ index → bitmap.read index = .error (.outOfRange index total) ∧
    bitmap.set index = .error (.outOfRange index total) ∧ bitmap.clear index = .error (.outOfRange index total)
  size : bitmap.bytes.size = (total + 7) / 8
  padding : ∀ place, total ≤ place → bitAt bitmap.bytes place = false
  count : bitmap.count = members.card

/-- A call that changes a bitmap. -/
inductive Change
  | set (index : Nat)
  | clear (index : Nat)
  | setAll

namespace Change

def answer (bitmap : Bitmap) : Change → Except Error Bitmap
  | set index => bitmap.set index
  | clear index => bitmap.clear index
  | setAll => .ok bitmap.setAll

/-- What becomes of a bitmap in a call; one that is refused changes nothing. -/
def apply (bitmap : Bitmap) (change : Change) : Bitmap :=
  match change.answer bitmap with
  | .ok after => after
  | .error _ => bitmap

theorem apply_of_ok {bitmap after : Bitmap} (change : Change) (answered : change.answer bitmap = .ok after) :
    change.apply bitmap = after := by
  rw [apply, answered]

theorem apply_of_error {bitmap : Bitmap} {failure : Error} (change : Change)
    (refused : change.answer bitmap = .error failure) : change.apply bitmap = bitmap := by
  rw [apply, refused]

/-- The same change of a set of blocks below `total`. -/
def onMembers (total : Nat) (members : Finset Nat) : Change → Finset Nat
  | set index => if index < total then insert index members else members
  | clear index => if index < total then members.erase index else members
  | setAll => Finset.range total

end Change

/-- Where a bitmap begins: without marks in memory that is granted, or with those of stored bytes. -/
inductive Origin
  | created (grants : Nat → Bool) (total : Nat)
  | taken (total : Nat) (bytes : ByteArray)

namespace Origin

def build : Origin → Except Error Bitmap
  | created grants total => create total grants
  | taken total bytes => ofBytes total bytes

def total : Origin → Nat
  | created _ total => total
  | taken total _ => total

def members : Origin → Finset Nat
  | created _ _ => ∅
  | taken total bytes => (Finset.range total).filter fun index => bitAt bytes index

end Origin

/-- How a bitmap came about. -/
structure History where
  origin : Origin
  changes : List Change

namespace History

def bitmap (history : History) : Except Error Bitmap :=
  history.origin.build.map fun bitmap => history.changes.foldl Change.apply bitmap

def total (history : History) : Nat := history.origin.total

def members (history : History) : Finset Nat :=
  history.changes.foldl (Change.onMembers history.total) history.origin.members

end History

variable {bitmap other : Bitmap} {total : Nat} {members : Finset Nat}

/-! ### What is represented -/

theorem marked_toFinset (same : ∀ index, bitmap.get index = decide (index ∈ members)) :
    bitmap.marked.toFinset = members := by
  ext index
  rw [List.mem_toFinset, mem_marked, same, decide_eq_true_eq]

/-- A set is represented by the marks of its members. -/
theorem represents_iff : bitmap.Represents total members ↔
    bitmap.total = total ∧ ∀ index, bitmap.get index = decide (index ∈ members) := by
  constructor
  · intro represents
    refine ⟨represents.blocks, fun index => ?_⟩
    by_cases inside : index < total
    · have answer := represents.reads index inside
      rw [read, if_pos (represents.blocks ▸ inside)] at answer
      exact Except.ok.inj answer
    · have absent : index ∉ members := fun member => inside (Finset.mem_range.mp (represents.within member))
      rw [get, represents.padding index (Nat.not_lt.mp inside), decide_eq_false absent]
  · rintro ⟨rfl, same⟩
    constructor
    case blocks => rfl
    case within =>
      intro index member
      exact Finset.mem_range.mpr (lt_total_of_get ((same index).trans (decide_eq_true member)))
    case reads =>
      intro index inside
      rw [read, if_pos inside, same]
      rfl
    case refuses =>
      intro index outside
      have beyond := Nat.not_lt.mpr outside
      exact ⟨if_neg beyond, dif_neg beyond, dif_neg beyond⟩
    case size => exact bitmap.size_bytes
    case padding => exact bitmap.padding_clear
    case count =>
      have distinct : bitmap.marked.Nodup := (bitmap.markedFrom_ascending 0).imp Nat.ne_of_lt
      rw [count_eq_length_marked, ← List.toFinset_card_of_nodup distinct, marked_toFinset same]

namespace Represents

theorem get (represents : bitmap.Represents total members) (index : Nat) :
    bitmap.get index = decide (index ∈ members) :=
  (represents_iff.mp represents).2 index

/-- Bitmaps are equal if they represent the same set of the same blocks. -/
theorem eq_iff {total' : Nat} {members' : Finset Nat} (represents : bitmap.Represents total members)
    (represents' : other.Represents total' members') : bitmap = other ↔ total = total' ∧ members = members' := by
  constructor
  · rintro rfl
    refine ⟨represents.blocks.symm.trans represents'.blocks, ?_⟩
    rw [← marked_toFinset represents.get, marked_toFinset represents'.get]
  · rintro ⟨rfl, rfl⟩
    refine ext_get (represents.blocks.trans represents'.blocks.symm) fun index => ?_
    rw [represents.get, represents'.get]

/-- The stored bytes tell of the number of blocks only how many bytes they fill, and of the set everything. -/
theorem bytes_eq_iff {total' : Nat} {members' : Finset Nat} (represents : bitmap.Represents total members)
    (represents' : other.Represents total' members') :
    bitmap.bytes = other.bytes ↔ bitmapSize total = bitmapSize total' ∧ members = members' := by
  constructor
  · intro same
    refine ⟨by rw [bitmapSize, bitmapSize, ← represents.size, ← represents'.size, same], ?_⟩
    -- The marks are read off the bytes.
    have marks (index : Nat) : other.get index = decide (index ∈ members) := by
      rw [Bitmap.get, ← same]
      exact represents.get index
    rw [← marked_toFinset marks, marked_toFinset represents'.get]
  · rintro ⟨size, rfl⟩
    refine bytes_eq_of_get (by rw [represents.blocks, represents'.blocks, size]) fun index => ?_
    rw [represents.get, represents'.get]

/-! ### Calls -/

theorem assign (represents : bitmap.Represents total members) {index : Nat} (value : Bool)
    (below : index < bitmap.total) : (bitmap.assign index value below).Represents total
      (bif value then insert index members else members.erase index) := by
  refine represents_iff.mpr ⟨represents.blocks, fun block => ?_⟩
  rw [get_assign]
  by_cases same : block = index
  · cases value <;> simp [same]
  · cases value <;> simp [same, represents.get]

theorem set (represents : bitmap.Represents total members) {index : Nat} (inside : index < total) :
    ∃ after, bitmap.set index = .ok after ∧ after.Represents total (insert index members) := by
  have below : index < bitmap.total := represents.blocks ▸ inside
  exact ⟨bitmap.assign index true below, dif_pos below, represents.assign true below⟩

theorem clear (represents : bitmap.Represents total members) {index : Nat} (inside : index < total) :
    ∃ after, bitmap.clear index = .ok after ∧ after.Represents total (members.erase index) := by
  have below : index < bitmap.total := represents.blocks ▸ inside
  exact ⟨bitmap.assign index false below, dif_pos below, represents.assign false below⟩

theorem setAll (represents : bitmap.Represents total members) :
    bitmap.setAll.Represents total (Finset.range total) := by
  refine represents_iff.mpr ⟨represents.blocks, fun index => ?_⟩
  simp [represents.blocks]

/-- A call changes the set as it changes the bitmap. -/
theorem apply (represents : bitmap.Represents total members) (change : Change) :
    (change.apply bitmap).Represents total (change.onMembers total members) := by
  cases change with
  | set index =>
    by_cases inside : index < total
    · obtain ⟨after, made, changed⟩ := represents.set inside
      rw [Change.apply_of_ok (.set index) made, Change.onMembers, if_pos inside]
      exact changed
    · have refused := (represents.refuses index (Nat.not_lt.mp inside)).2.1
      rw [Change.apply_of_error (.set index) refused, Change.onMembers, if_neg inside]
      exact represents
  | clear index =>
    by_cases inside : index < total
    · obtain ⟨after, made, changed⟩ := represents.clear inside
      rw [Change.apply_of_ok (.clear index) made, Change.onMembers, if_pos inside]
      exact changed
    · have refused := (represents.refuses index (Nat.not_lt.mp inside)).2.2
      rw [Change.apply_of_error (.clear index) refused, Change.onMembers, if_neg inside]
      exact represents
  | setAll => exact represents.setAll

theorem foldl (represents : bitmap.Represents total members) (changes : List Change) :
    (changes.foldl Change.apply bitmap).Represents total (changes.foldl (Change.onMembers total) members) := by
  induction changes generalizing bitmap members with
  | nil => exact represents
  | cons change rest ih => exact ih (represents.apply change)

end Represents

/-! ### Histories -/

theorem Origin.represents {origin : Origin} (built : origin.build = .ok bitmap) :
    bitmap.Represents origin.total origin.members := by
  cases origin with
  | created grants total =>
    rw [build, create, Except.bind_eq_ok] at built
    obtain ⟨_, _, made⟩ := built
    cases made
    exact represents_iff.mpr ⟨rfl, fun index => by simp [members]⟩
  | taken total bytes =>
    refine represents_iff.mpr ⟨total_of_ofBytes built, fun index => ?_⟩
    rw [get_of_ofBytes built]
    simp [members, Bool.decide_and]

theorem History.represents {history : History} (made : history.bitmap = .ok bitmap) :
    bitmap.Represents history.total history.members := by
  rw [History.bitmap] at made
  cases built : history.origin.build with
  | error failure =>
    rw [built] at made
    cases made
  | ok start =>
    rw [built] at made
    cases made
    exact (Origin.represents built).foldl history.changes

/-- However a bitmap came about, it represents the set that its history leads to, and the next call does to the set what
it says, or is refused and does nothing. Two bitmaps are equal, and stored as the same bytes, just if they represent the
same set of the same number of blocks; where only the bytes are equal, the numbers of blocks fill as many bytes. -/
theorem bitmaps_represent_sets (history : History) (made : history.bitmap = .ok bitmap) :
    bitmap.Represents history.total history.members ∧
    (∀ index < history.total,
      (∃ after, bitmap.set index = .ok after ∧ after.Represents history.total (insert index history.members)) ∧
      ∃ after, bitmap.clear index = .ok after ∧ after.Represents history.total (history.members.erase index)) ∧
    (∀ index, history.total ≤ index →
      (Change.set index).apply bitmap = bitmap ∧ (Change.clear index).apply bitmap = bitmap) ∧
    bitmap.setAll.Represents history.total (Finset.range history.total) ∧
    ∀ (others : History) (other : Bitmap), others.bitmap = .ok other →
      ((bitmap = other ∧ bitmap.bytes = other.bytes) ↔
        history.total = others.total ∧ history.members = others.members) ∧
      (bitmap.bytes = other.bytes ↔
        bitmapSize history.total = bitmapSize others.total ∧ history.members = others.members) := by
  have represents := History.represents made
  refine ⟨represents, fun index inside => ⟨represents.set inside, represents.clear inside⟩, ?_, represents.setAll, ?_⟩
  · intro index outside
    obtain ⟨_, unset, uncleared⟩ := represents.refuses index outside
    exact ⟨Change.apply_of_error (.set index) unset, Change.apply_of_error (.clear index) uncleared⟩
  · intro others other made'
    have represents' := History.represents made'
    have equal := represents.eq_iff represents'
    refine ⟨?_, represents.bytes_eq_iff represents'⟩
    exact ⟨fun ⟨same, _⟩ => equal.mp same, fun same => ⟨equal.mpr same, congrArg _ (equal.mpr same)⟩⟩

/-- Bytes with padding in them, and a call that is refused, lead to the same bitmap as marking all blocks but one. -/
theorem bitmaps_represent_sets_sample : ∃ bitmap : Bitmap,
    History.bitmap ⟨.taken 3 ⟨#[0xFD]⟩, [.set 1, .set 5, .clear 2]⟩ = .ok bitmap ∧
      History.bitmap ⟨.created addressable 3, [.setAll, .clear 2]⟩ = .ok bitmap ∧ bitmap.Represents 3 {0, 1} := by
  let filled : History := ⟨.taken 3 ⟨#[0xFD]⟩, [.set 1, .set 5, .clear 2]⟩
  let emptied : History := ⟨.created addressable 3, [.setAll, .clear 2]⟩
  have start : filled.origin.build = .ok (.ofPred 3 (bitAt ⟨#[0xFD]⟩)) := ofBytes_of_size (by decide)
  have made : filled.bitmap = .ok (filled.changes.foldl Change.apply (.ofPred 3 (bitAt ⟨#[0xFD]⟩))) := by
    rw [History.bitmap, start]
    rfl
  have made' : emptied.bitmap = .ok (emptied.changes.foldl Change.apply (blank 3)) := rfl
  obtain ⟨represents, _, _, _, compares⟩ := bitmaps_represent_sets filled made
  have members : filled.members = {0, 1} := by decide
  obtain ⟨same, _⟩ := (compares emptied _ made').1.mpr ⟨rfl, by decide⟩
  exact ⟨_, made, same ▸ made', members ▸ represents⟩

end BlockImage.Bitmap
