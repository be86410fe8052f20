import BlockImage.Proofs.Bitmap.Marked
import Mathlib.Data.List.Sort

/-!
# The greedy cut

A bitmap is cut into chunks greedily: a chunk begins with the next marked block and goes on until it is full or the run
ends. Chunks cut in this way cover the marked blocks, and there is only one such cut, which is the one that the scan
comes to.
-/
namespace BlockImage

/-- A chunk of marked blocks that could not go on: it is full, or no marked block follows. -/
structure Chunk.Extended (bitmap : Bitmap) (capacity : Nat) (chunk : Chunk) : Prop where
  some : 1 ≤ chunk.count
  within : chunk.count ≤ capacity
  marks : ∀ block ∈ chunk.blocks, bitmap.get block = true
  ends : chunk.count < capacity → bitmap.get chunk.stop = false

namespace Chunk

variable {bitmap : Bitmap} {capacity : Nat} {chunk other : Chunk}

theorem first_mem_blocks (some : 1 ≤ chunk.count) : chunk.first ∈ chunk.blocks := by
  rw [mem_blocks, stop]
  omega

theorem head?_flatMap_blocks (some : 1 ≤ chunk.count) (rest : List Chunk) :
    ((chunk :: rest).flatMap blocks).head? = .some chunk.first := by
  obtain ⟨count, counts⟩ := Nat.exists_eq_add_of_le' some
  rw [List.flatMap_cons, blocks, counts, List.range'_succ, List.cons_append, List.head?_cons]

namespace Extended

private theorem count_le (extended : chunk.Extended bitmap capacity) (longer : other.Extended bitmap capacity)
    (same : chunk.first = other.first) : other.count ≤ chunk.count := by
  by_contra above
  have more := Nat.not_le.mp above
  -- The block behind the shorter chunk is marked, since it lies in the longer one.
  have inside : chunk.stop ∈ other.blocks := by
    rw [mem_blocks, stop, stop, same]
    omega
  have clear := extended.ends (Nat.lt_of_lt_of_le more longer.within)
  rw [longer.marks _ inside] at clear
  cases clear

/-- Where a chunk begins decides how long it is. -/
theorem eq_of_first (extended : chunk.Extended bitmap capacity) (others : other.Extended bitmap capacity)
    (same : chunk.first = other.first) : chunk = other := by
  have counts := Nat.le_antisymm (others.count_le extended same.symm) (extended.count_le others same)
  cases chunk
  cases other
  obtain rfl : _ = _ := same
  obtain rfl : _ = _ := counts
  rfl

end Extended

/-- Chunks that could not go on are known by their blocks. -/
theorem eq_of_flatMap_blocks {cut others : List Chunk} (extended : ∀ chunk ∈ cut, chunk.Extended bitmap capacity)
    (extended' : ∀ chunk ∈ others, chunk.Extended bitmap capacity)
    (same : cut.flatMap blocks = others.flatMap blocks) : cut = others := by
  induction cut generalizing others with
  | nil =>
    cases others with
    | nil => rfl
    | cons other rest =>
      have listed := head?_flatMap_blocks (extended' other List.mem_cons_self).some rest
      rw [← same] at listed
      cases listed
  | cons chunk cut ih =>
    have listed := head?_flatMap_blocks (extended chunk List.mem_cons_self).some cut
    cases others with
    | nil =>
      rw [same] at listed
      cases listed
    | cons other rest =>
      -- Both lists of blocks begin with the same block, so the chunks there are the same.
      rw [same, head?_flatMap_blocks (extended' other List.mem_cons_self).some] at listed
      obtain rfl := (extended chunk List.mem_cons_self).eq_of_first (extended' other List.mem_cons_self)
        (Option.some.inj listed).symm
      rw [List.flatMap_cons, List.flatMap_cons] at same
      rw [ih (fun chunk member => extended chunk (List.mem_cons_of_mem _ member))
        (fun chunk member => extended' chunk (List.mem_cons_of_mem _ member)) (List.append_cancel_left same)]

end Chunk

namespace Bitmap

/-- Chunks that cover the marked blocks one behind the other, each as early and as long as the capacity allows. -/
structure CutGreedily (bitmap : Bitmap) (capacity : Nat) (cut : List Chunk) : Prop where
  counts : ∀ chunk ∈ cut, 1 ≤ chunk.count ∧ chunk.count ≤ capacity
  ascending : cut.Pairwise fun chunk later => chunk.first < later.first
  disjoint : cut.Pairwise fun chunk later => List.Disjoint chunk.blocks later.blocks
  covers : ∀ block, (∃ chunk ∈ cut, block ∈ chunk.blocks) ↔ bitmap.get block = true
  ends : ∀ chunk ∈ cut, chunk.count < capacity → bitmap.get chunk.stop = false
  begins : ∀ front chunk rest, cut = front ++ chunk :: rest →
    chunk.first = 0 ∨ bitmap.get (chunk.first - 1) = false ∨
      ∃ before, front.getLast? = some before ∧ before.stop = chunk.first ∧ before.count = capacity

variable {bitmap : Bitmap} {capacity : Nat} {cut : List Chunk}

namespace CutGreedily

theorem extended (greedy : bitmap.CutGreedily capacity cut) {chunk : Chunk} (member : chunk ∈ cut) :
    chunk.Extended bitmap capacity where
  some := (greedy.counts chunk member).1
  within := (greedy.counts chunk member).2
  marks block inside := (greedy.covers block).mp ⟨chunk, member, inside⟩
  ends := greedy.ends chunk member

/-- Taken together, the blocks of the chunks are the list of the marked blocks. -/
theorem flatMap_blocks (greedy : bitmap.CutGreedily capacity cut) : cut.flatMap Chunk.blocks = bitmap.marked := by
  have ascending : (cut.flatMap Chunk.blocks).Pairwise (· < ·) := by
    rw [List.pairwise_flatMap]
    refine ⟨fun chunk _ => List.pairwise_lt_range', ?_⟩
    refine (greedy.ascending.and greedy.disjoint).imp_of_mem fun {chunk later} _ member ⟨earlier, apart⟩ => ?_
    -- The later chunk begins behind the earlier one, since it does not begin in it.
    have outside := List.disjoint_right.mp apart (Chunk.first_mem_blocks (greedy.counts later member).1)
    intro block inside block' inside'
    rw [Chunk.mem_blocks] at outside inside inside'
    omega
  refine ascending.eq_of_mem_iff (bitmap.markedFrom_ascending 0) fun block => ?_
  rw [List.mem_flatMap, greedy.covers]
  exact mem_marked.symm

end CutGreedily

private theorem extended_of_chunks {chunk : Chunk} (member : chunk ∈ bitmap.chunks capacity) :
    chunk.Extended bitmap (max capacity 1) where
  some := count_pos_of_mem_chunks member
  within := count_le_of_mem_chunks member
  marks _ inside := get_of_mem_chunks member inside
  ends short := by
    obtain ⟨_, long⟩ := of_mem_chunks member
    rw [long] at short
    rw [Chunk.stop, long]
    exact get_of_runLength_lt short

/-- A chunk that begins within a run goes on from a full one. -/
private theorem begins_of_chunks {front rest : List Chunk} {chunk : Chunk}
    (cut : bitmap.chunks capacity = front ++ chunk :: rest) (late : chunk.first ≠ 0)
    (marks : bitmap.get (chunk.first - 1) = true) :
    ∃ before, front.getLast? = some before ∧ before.stop = chunk.first ∧ before.count = max capacity 1 := by
  have ascending := bitmap.chunks_ascending capacity
  -- The marked block in front of the chunk lies in a chunk as well.
  rw [← mem_marked, ← bitmap.flatMap_chunks capacity, List.mem_flatMap] at marks
  obtain ⟨before, member, inside⟩ := marks
  have extended := extended_of_chunks member
  rw [Chunk.mem_blocks] at inside
  rw [cut] at ascending member
  rw [List.pairwise_append, List.pairwise_cons] at ascending
  obtain ⟨within, ⟨behind, _⟩, ahead⟩ := ascending
  -- It is neither the chunk itself nor one that comes later.
  have early : before ∈ front := by
    rcases List.mem_append.mp member with early | later
    · exact early
    · rcases List.mem_cons.mp later with rfl | later
      · omega
      · have := behind before later
        rw [Chunk.stop] at this
        omega
  have stops := ahead before early chunk List.mem_cons_self
  refine ⟨before, ?_, by omega, ?_⟩
  · obtain ⟨init, last, rfl⟩ := (List.eq_nil_or_concat' front).resolve_left (List.ne_nil_of_mem early)
    rw [List.getLast?_concat]
    rcases List.mem_append.mp early with earlier | same
    · -- A chunk that comes between would have to begin behind the block and to end before it.
      have apart := (List.pairwise_append.mp within).2.2 before earlier last List.mem_cons_self
      have some := count_pos_of_mem_chunks (cut ▸ List.mem_append_left _ (List.mem_concat_self) : last ∈ _)
      have := ahead last List.mem_concat_self chunk List.mem_cons_self
      rw [Chunk.stop] at this
      omega
    · rw [List.mem_singleton.mp same]
  · by_contra short
    have clear := extended.ends (Nat.lt_of_le_of_ne extended.within short)
    have joined : before.stop = chunk.first := by omega
    have member' : chunk ∈ bitmap.chunks capacity := cut ▸ List.mem_append_right _ List.mem_cons_self
    rw [joined, (of_mem_chunks member').1] at clear
    cases clear

/-- The scan comes to the greedy cut of the marked blocks, and there is no other one. A capacity of none counts as one
block. -/
theorem greedy_iff_eq_chunks (bitmap : Bitmap) (capacity : Nat) (cut : List Chunk) :
    bitmap.CutGreedily (max capacity 1) cut ↔ cut = bitmap.chunks capacity := by
  constructor
  · intro greedy
    refine Chunk.eq_of_flatMap_blocks (fun chunk member => greedy.extended member)
      (fun chunk member => extended_of_chunks member) ?_
    rw [greedy.flatMap_blocks, bitmap.flatMap_chunks]
  · rintro rfl
    have ascending := bitmap.chunks_ascending capacity
    constructor
    case counts => exact fun chunk member => ⟨count_pos_of_mem_chunks member, count_le_of_mem_chunks member⟩
    case ascending =>
      refine ascending.imp_of_mem fun {chunk later} member _ behind => ?_
      have some := count_pos_of_mem_chunks member
      rw [Chunk.stop] at behind
      omega
    case disjoint =>
      refine ascending.imp fun {chunk later} behind block inside inside' => ?_
      rw [Chunk.mem_blocks] at inside inside'
      omega
    case covers =>
      intro block
      rw [← List.mem_flatMap, bitmap.flatMap_chunks, mem_marked]
    case ends => exact fun chunk member => (extended_of_chunks member).ends
    case begins =>
      intro front chunk rest cut
      by_cases early : chunk.first = 0
      · exact .inl early
      cases marks : bitmap.get (chunk.first - 1) with
      | false => exact .inr (.inl rfl)
      | true => exact .inr (.inr (begins_of_chunks cut early marks))

end Bitmap

end BlockImage
