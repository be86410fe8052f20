import BlockImage.Bitmap.Scan
import BlockImage.Proofs.Bytes

/-!
# The marked blocks of a bitmap

`marked` lists them in ascending order, and the scans are described through it: `nextSet` finds the head of what is
left of the list, `chunks` cuts the whole list into runs, `runs` cuts its next part, and `count` is its length.
-/
namespace BlockImage

/-- The blocks of a chunk. -/
def Chunk.blocks (chunk : Chunk) : List Nat := List.range' chunk.first chunk.count

@[simp] theorem Chunk.length_blocks (chunk : Chunk) : chunk.blocks.length = chunk.count := List.length_range'

theorem Chunk.total_eq (chunks : List Chunk) : total chunks = (chunks.flatMap blocks).length := by
  induction chunks with
  | nil => rfl
  | cons chunk rest ih => rw [total, List.flatMap_cons, List.length_append, length_blocks, ih]

@[simp] theorem Chunk.total_append (chunks others : List Chunk) :
    total (chunks ++ others) = total chunks + total others := by
  rw [total_eq, List.flatMap_append, List.length_append, ← total_eq, ← total_eq]

theorem Chunk.mem_blocks {chunk : Chunk} {block : Nat} :
    block ∈ chunk.blocks ↔ chunk.first ≤ block ∧ block < chunk.stop := by
  rw [blocks, List.mem_range'_1, stop]

namespace Bitmap

/-- The marked blocks from `cursor` on, in ascending order. -/
def markedFrom (bitmap : Bitmap) (cursor : Nat) : List Nat :=
  (List.range' cursor (bitmap.total - cursor)).filter bitmap.get

def marked (bitmap : Bitmap) : List Nat := bitmap.markedFrom 0

/-- The offset lies in a marked block. -/
def Covers (bitmap : Bitmap) (width index : Nat) : Prop :=
  ∃ block, bitmap.get block = true ∧ block * width ≤ index ∧ index < (block + 1) * width

/-! ### The list of the marked blocks -/

theorem lt_total_of_get {bitmap : Bitmap} {block : Nat} (marks : bitmap.get block = true) : block < bitmap.total := by
  by_cases inside : block < bitmap.total
  · exact inside
  · rw [get_of_total_le (by omega)] at marks
    cases marks

theorem Covers.lt {bitmap : Bitmap} {width index : Nat} (covers : bitmap.Covers width index) :
    index < bitmap.total * width := by
  obtain ⟨block, marks, _, below⟩ := covers
  exact Nat.lt_of_lt_of_le below (Nat.mul_le_mul_right _ (lt_total_of_get marks))

theorem covers_of_chunk {bitmap : Bitmap} {chunk : Chunk} (all : ∀ block ∈ chunk.blocks, bitmap.get block = true)
    {width place : Nat} (inside : place < chunk.count * width) : bitmap.Covers width (chunk.first * width + place) := by
  have wide : 0 < width := Nat.pos_of_ne_zero fun none => by simp [none] at inside
  -- The place lies in the block of the chunk that the quotient counts.
  have below : place / width < chunk.count := Nat.div_lt_of_lt_mul (Nat.mul_comm chunk.count width ▸ inside)
  have parts := Nat.div_add_mod place width
  have rest := Nat.mod_lt place wide
  refine ⟨chunk.first + place / width,
    all _ (Chunk.mem_blocks.mpr ⟨Nat.le_add_right _ _, Nat.add_lt_add_left below _⟩), ?_, ?_⟩
  · rw [Nat.add_mul, Nat.mul_comm (place / width)]
    omega
  · rw [Nat.add_mul, Nat.add_mul, Nat.mul_comm (place / width)]
    omega

theorem mem_markedFrom {bitmap : Bitmap} {cursor block : Nat} :
    block ∈ bitmap.markedFrom cursor ↔ cursor ≤ block ∧ bitmap.get block = true := by
  rw [markedFrom, List.mem_filter, List.mem_range'_1]
  constructor
  · rintro ⟨⟨behind, _⟩, marks⟩
    exact ⟨behind, marks⟩
  · rintro ⟨behind, marks⟩
    have := lt_total_of_get marks
    exact ⟨⟨behind, by omega⟩, marks⟩

theorem mem_marked {bitmap : Bitmap} {block : Nat} : block ∈ bitmap.marked ↔ bitmap.get block = true := by
  rw [marked, mem_markedFrom]
  exact ⟨And.right, fun marks => ⟨Nat.zero_le _, marks⟩⟩

theorem markedFrom_ascending (bitmap : Bitmap) (cursor : Nat) : (bitmap.markedFrom cursor).Pairwise (· < ·) :=
  List.Pairwise.filter _ List.pairwise_lt_range'

theorem markedFrom_of_total_le {bitmap : Bitmap} {cursor : Nat} (outside : bitmap.total ≤ cursor) :
    bitmap.markedFrom cursor = [] := by
  simp [markedFrom, Nat.sub_eq_zero_of_le outside]

private theorem markedFrom_eq (bitmap : Bitmap) (cursor : Nat) :
    bitmap.markedFrom cursor =
      (if bitmap.get cursor then [cursor] else []) ++ bitmap.markedFrom (cursor + 1) := by
  by_cases inside : cursor < bitmap.total
  · have left : bitmap.total - cursor = (bitmap.total - (cursor + 1)) + 1 := by omega
    rw [markedFrom, left, List.range'_succ, List.filter_cons]
    split <;> rfl
  · rw [get_of_total_le (by omega), markedFrom_of_total_le (by omega), markedFrom_of_total_le (by omega)]
    rfl

theorem markedFrom_of_get {bitmap : Bitmap} {cursor : Nat} (marks : bitmap.get cursor = true) :
    bitmap.markedFrom cursor = cursor :: bitmap.markedFrom (cursor + 1) := by
  rw [markedFrom_eq, if_pos marks]
  rfl

theorem markedFrom_skip {bitmap : Bitmap} {cursor : Nat} (count : Nat)
    (clear : ∀ place < count, bitmap.get (cursor + place) = false) :
    bitmap.markedFrom cursor = bitmap.markedFrom (cursor + count) := by
  induction count with
  | zero => rfl
  | succ count ih =>
    rw [ih fun place under => clear place (by omega), markedFrom_eq, clear count (by omega)]
    rfl

theorem markedFrom_run {bitmap : Bitmap} {cursor : Nat} (count : Nat)
    (marks : ∀ place < count, bitmap.get (cursor + place) = true) :
    bitmap.markedFrom cursor = List.range' cursor count ++ bitmap.markedFrom (cursor + count) := by
  induction count with
  | zero => rfl
  | succ count ih =>
    rw [ih fun place under => marks place (by omega), markedFrom_of_get (marks count (by omega)),
      List.range'_concat, List.append_assoc]
    simp [Nat.add_assoc]

/-! ### The scan for the next marked block -/

private theorem get_of_byte_zero {bitmap : Bitmap} {start : Nat} (aligned : start % 8 = 0)
    (zero : Bytes.byteAt bitmap.bytes (start / 8) = 0) (place : Nat) (under : place < 8) :
    bitmap.get (start + place) = false := by
  have byte : (start + place) / 8 = start / 8 := by omega
  rw [get, bitAt, byte, zero]
  simp

/-- The scan finds the first of the marked blocks that are left. -/
theorem nextSet_eq_head? (bitmap : Bitmap) (start : Nat) : bitmap.nextSet start = (bitmap.markedFrom start).head? := by
  fun_induction nextSet bitmap start with
  | case1 start inside skipped ih =>
    -- A byte without marks is passed over as a whole.
    rw [ih, ← markedFrom_skip 8 (get_of_byte_zero skipped.1 skipped.2)]
  | case2 start inside kept marks => rw [markedFrom_of_get marks, List.head?_cons]
  | case3 start inside kept unmarked ih =>
    rw [ih, ← markedFrom_skip 1 fun place under => ?_]
    obtain rfl : place = 0 := by omega
    simpa using unmarked
  | case4 start outside => rw [markedFrom_of_total_le (by omega), List.head?_nil]

theorem markedFrom_of_nextSet {bitmap : Bitmap} {start first : Nat} (found : bitmap.nextSet start = some first) :
    bitmap.markedFrom start = bitmap.markedFrom first := by
  rw [nextSet_eq_head?] at found
  obtain ⟨rest, listed⟩ := List.head?_eq_some_iff.mp found
  have member : first ∈ bitmap.markedFrom start := by rw [listed]; exact List.mem_cons_self
  have behind := (mem_markedFrom.mp member).1
  -- Were a block before the first one marked, it would stand before it in the list.
  have clear (place : Nat) (under : place < first - start) : bitmap.get (start + place) = false := by
    refine Bool.eq_false_iff.mpr fun marks => ?_
    have earlier : start + place ∈ bitmap.markedFrom start := mem_markedFrom.mpr ⟨by omega, marks⟩
    have ascending := bitmap.markedFrom_ascending start
    rw [listed] at earlier ascending
    rcases List.mem_cons.mp earlier with same | later
    · omega
    · have := List.rel_of_pairwise_cons ascending later
      omega
  rw [markedFrom_skip (first - start) clear, Nat.add_sub_cancel' behind]

private theorem runFrom_spec (bitmap : Bitmap) (start limit counted : Nat)
    (marks : ∀ place < counted, bitmap.get (start + place) = true) (within : counted ≤ limit) :
    bitmap.runFrom start limit counted ≤ limit ∧
      (∀ place < bitmap.runFrom start limit counted, bitmap.get (start + place) = true) ∧
      (bitmap.runFrom start limit counted < limit →
        bitmap.get (start + bitmap.runFrom start limit counted) = false) := by
  fun_induction runFrom bitmap start limit counted with
  | case1 counted below marked ih =>
    refine ih (fun place under => ?_) below
    -- Of the places before the next one all but the last were marked already.
    by_cases last : place = counted
    · rw [last, marked]
    · exact marks place (by omega)
  | case2 counted below unmarked => exact ⟨within, marks, fun _ => Bool.eq_false_iff.mpr unmarked⟩
  | case3 counted reached => exact ⟨within, marks, fun short => absurd short reached⟩

theorem runLength_le (bitmap : Bitmap) (start limit : Nat) : bitmap.runLength start limit ≤ limit :=
  (bitmap.runFrom_spec start limit 0 (by simp) (Nat.zero_le _)).1

/-- A run that is shorter than it may be ends in front of a block that is not marked. -/
theorem get_of_runLength_lt {bitmap : Bitmap} {start limit : Nat} (short : bitmap.runLength start limit < limit) :
    bitmap.get (start + bitmap.runLength start limit) = false :=
  (bitmap.runFrom_spec start limit 0 (by simp) (Nat.zero_le _)).2.2 short

private theorem length_run_le (bitmap : Bitmap) (start limit : Nat) :
    (List.range' start (bitmap.runLength start limit)).length ≤ limit := by
  rw [List.length_range']
  exact bitmap.runLength_le start limit

theorem markedFrom_runLength (bitmap : Bitmap) (start limit : Nat) :
    bitmap.markedFrom start = List.range' start (bitmap.runLength start limit) ++
      bitmap.markedFrom (start + bitmap.runLength start limit) :=
  markedFrom_run _ (bitmap.runFrom_spec start limit 0 (by simp) (Nat.zero_le _)).2.1

/-! ### Chunks and runs -/

private theorem flatMap_chunksFrom (bitmap : Bitmap) (capacity : Nat) (room : 0 < capacity) (cut : Array Chunk)
    (cursor : Nat) :
    (bitmap.chunksFrom capacity room cut cursor).toList.flatMap Chunk.blocks =
      cut.toList.flatMap Chunk.blocks ++ bitmap.markedFrom cursor := by
  fun_induction chunksFrom bitmap capacity room cut cursor with
  | case1 cut cursor found =>
    rw [nextSet_eq_head?, List.head?_eq_none_iff] at found
    rw [found, List.append_nil]
  | case2 cut cursor first found within _ count ih =>
    -- The run is cut off the front of the list, and the scan goes on behind it.
    rw [ih, markedFrom_of_nextSet found, bitmap.markedFrom_runLength first capacity, Array.toList_push,
      List.flatMap_append, List.append_assoc]
    simp [Chunk.blocks, count]

/-- Chunks cut the list of the marked blocks. -/
theorem flatMap_chunks (bitmap : Bitmap) (capacity : Nat) :
    (bitmap.chunks capacity).flatMap Chunk.blocks = bitmap.marked := by
  rw [chunks, flatMap_chunksFrom]
  rfl

private theorem of_mem_chunksFrom (bitmap : Bitmap) (capacity : Nat) (room : 0 < capacity) (cut : Array Chunk)
    (cursor : Nat)
    (before : ∀ chunk ∈ cut,
      bitmap.get chunk.first = true ∧ chunk.count = bitmap.runLength chunk.first capacity) :
    ∀ chunk ∈ bitmap.chunksFrom capacity room cut cursor,
      bitmap.get chunk.first = true ∧ chunk.count = bitmap.runLength chunk.first capacity := by
  fun_induction chunksFrom bitmap capacity room cut cursor with
  | case1 cut cursor found => exact before
  | case2 cut cursor first found within _ count ih =>
    refine ih fun chunk member => ?_
    rcases Array.mem_push.mp member with earlier | rfl
    · exact before chunk earlier
    · exact ⟨within.2.2, rfl⟩

/-- A chunk begins with a marked block, and is as long as the run from there, up to the capacity. -/
theorem of_mem_chunks {bitmap : Bitmap} {capacity : Nat} {chunk : Chunk} (member : chunk ∈ bitmap.chunks capacity) :
    bitmap.get chunk.first = true ∧ chunk.count = bitmap.runLength chunk.first (max capacity 1) :=
  bitmap.of_mem_chunksFrom _ _ #[] 0 (by simp) chunk (Array.mem_toList_iff.mp member)

private theorem count_of_mem_chunks {bitmap : Bitmap} {capacity : Nat} {chunk : Chunk}
    (member : chunk ∈ bitmap.chunks capacity) : 0 < chunk.count ∧ chunk.count ≤ max capacity 1 := by
  obtain ⟨marks, long⟩ := of_mem_chunks member
  rw [long]
  exact ⟨runLength_pos (by omega) marks, bitmap.runLength_le _ _⟩

theorem count_pos_of_mem_chunks {bitmap : Bitmap} {capacity : Nat} {chunk : Chunk}
    (member : chunk ∈ bitmap.chunks capacity) : 0 < chunk.count := (count_of_mem_chunks member).1

theorem count_le_of_mem_chunks {bitmap : Bitmap} {capacity : Nat} {chunk : Chunk}
    (member : chunk ∈ bitmap.chunks capacity) : chunk.count ≤ max capacity 1 := (count_of_mem_chunks member).2

theorem get_of_mem_chunks {bitmap : Bitmap} {capacity block : Nat} {chunk : Chunk}
    (member : chunk ∈ bitmap.chunks capacity) (inside : block ∈ chunk.blocks) : bitmap.get block = true := by
  rw [← mem_marked, ← bitmap.flatMap_chunks capacity]
  exact List.mem_flatMap.mpr ⟨chunk, member, inside⟩

/-- A chunk ends with a marked block. -/
theorem exists_last_of_mem_chunks {bitmap : Bitmap} {capacity : Nat} {chunk : Chunk}
    (member : chunk ∈ bitmap.chunks capacity) : ∃ block, bitmap.get block = true ∧ block + 1 = chunk.stop := by
  have some := count_pos_of_mem_chunks member
  refine ⟨chunk.first + (chunk.count - 1), get_of_mem_chunks member (Chunk.mem_blocks.mpr ?_), ?_⟩
  · simp only [Chunk.stop]
    omega
  · simp only [Chunk.stop]
    omega

theorem stop_le_total {bitmap : Bitmap} {capacity : Nat} {chunk : Chunk} (member : chunk ∈ bitmap.chunks capacity) :
    chunk.stop ≤ bitmap.total := by
  obtain ⟨block, marks, last⟩ := exists_last_of_mem_chunks member
  exact last ▸ lt_total_of_get marks

/-- Chunks follow each other and do not overlap. -/
theorem chunks_ascending (bitmap : Bitmap) (capacity : Nat) :
    (bitmap.chunks capacity).Pairwise fun chunk later => chunk.stop ≤ later.first := by
  have ascending : bitmap.marked.Pairwise (· < ·) := bitmap.markedFrom_ascending 0
  rw [← bitmap.flatMap_chunks capacity, List.pairwise_flatMap] at ascending
  refine ascending.2.imp_of_mem fun {chunk later} member member' apart => ?_
  have some := count_pos_of_mem_chunks member
  have some' := count_pos_of_mem_chunks member'
  -- The last block of one chunk is less than the first block of a later one.
  have last : chunk.first + (chunk.count - 1) ∈ chunk.blocks := by
    rw [Chunk.mem_blocks, Chunk.stop]
    omega
  have first : later.first ∈ later.blocks := by
    rw [Chunk.mem_blocks, Chunk.stop]
    omega
  have below := apart _ last _ first
  rw [Chunk.stop]
  omega

private theorem flatMap_runsFrom (bitmap : Bitmap) (amount : Nat) (cut : Array Chunk) (cursor : Nat) :
    (bitmap.runsFrom amount cut cursor).toList.flatMap Chunk.blocks =
      cut.toList.flatMap Chunk.blocks ++ (bitmap.markedFrom cursor).take amount := by
  fun_induction runsFrom bitmap amount cut cursor with
  | case1 amount cut cursor room found =>
    rw [nextSet_eq_head?, List.head?_eq_none_iff] at found
    rw [found, List.take_nil, List.append_nil]
  | case2 amount cut cursor room first found _ count ih =>
    -- A run takes no more than is asked for, so all of it is in the part that is taken.
    have within : (List.range' first count).length ≤ amount := bitmap.length_run_le first amount
    rw [ih, markedFrom_of_nextSet found, bitmap.markedFrom_runLength first amount, Array.toList_push,
      List.flatMap_append, List.append_assoc, List.take_append, List.length_range',
      List.take_of_length_le (l := List.range' first count) within]
    simp [Chunk.blocks, count]
  | case3 amount cut cursor none =>
    have zero : amount = 0 := by omega
    simp [zero]

/-- Runs cut the next part of the list of the marked blocks. -/
theorem flatMap_runs (bitmap : Bitmap) (cursor amount : Nat) :
    (bitmap.runs cursor amount).flatMap Chunk.blocks = (bitmap.markedFrom cursor).take amount := by
  rw [runs, flatMap_runsFrom]
  rfl

theorem get_of_mem_runs {bitmap : Bitmap} {cursor amount block : Nat} {chunk : Chunk}
    (member : chunk ∈ bitmap.runs cursor amount) (inside : block ∈ chunk.blocks) : bitmap.get block = true := by
  have listed : block ∈ (bitmap.markedFrom cursor).take amount := by
    rw [← bitmap.flatMap_runs cursor amount]
    exact List.mem_flatMap.mpr ⟨chunk, member, inside⟩
  exact (mem_markedFrom.mp (List.mem_of_mem_take listed)).2

private theorem count_pos_of_mem_runsFrom (bitmap : Bitmap) (amount : Nat) (cut : Array Chunk) (cursor : Nat)
    (before : ∀ chunk ∈ cut, 0 < chunk.count) : ∀ chunk ∈ bitmap.runsFrom amount cut cursor, 0 < chunk.count := by
  fun_induction runsFrom bitmap amount cut cursor with
  | case1 amount cut cursor room found => exact before
  | case2 amount cut cursor room first found positive count ih =>
    refine ih fun chunk member => ?_
    rcases Array.mem_push.mp member with earlier | rfl
    · exact before chunk earlier
    · exact positive
  | case3 amount cut cursor none => exact before

/-- A run ends with a marked block. -/
theorem exists_last_of_mem_runs {bitmap : Bitmap} {cursor amount : Nat} {chunk : Chunk}
    (member : chunk ∈ bitmap.runs cursor amount) : ∃ block, bitmap.get block = true ∧ block + 1 = chunk.stop := by
  have some : 0 < chunk.count :=
    bitmap.count_pos_of_mem_runsFrom amount #[] cursor (by simp) chunk (Array.mem_toList_iff.mp member)
  refine ⟨chunk.first + (chunk.count - 1), get_of_mem_runs member (Chunk.mem_blocks.mpr ?_), ?_⟩
  · simp only [Chunk.stop]
    omega
  · simp only [Chunk.stop]
    omega

private theorem markedFrom_runsFrom (bitmap : Bitmap) (amount : Nat) (cut : Array Chunk) (cursor before : Nat)
    (stands : (cut.toList.getLast?.map Chunk.stop).getD before = cursor) :
    bitmap.markedFrom (((bitmap.runsFrom amount cut cursor).toList.getLast?.map Chunk.stop).getD before) =
      (bitmap.markedFrom cursor).drop amount := by
  fun_induction runsFrom bitmap amount cut cursor with
  | case1 amount cut cursor room found =>
    rw [nextSet_eq_head?, List.head?_eq_none_iff] at found
    -- Nothing is marked any more: the cursor stays, and nothing is left to drop.
    rw [stands, found, List.drop_nil]
  | case2 amount cut cursor room first found _ count ih =>
    have within : (List.range' first count).length ≤ amount := bitmap.length_run_le first amount
    rw [ih (by simp [Chunk.stop, count]), markedFrom_of_nextSet found, bitmap.markedFrom_runLength first amount,
      List.drop_append, List.length_range', List.drop_of_length_le (l := List.range' first count) within]
    rfl
  | case3 amount cut cursor none =>
    have zero : amount = 0 := by omega
    rw [stands, zero, List.drop_zero]

/-- Behind its last run stands the rest of the list. -/
theorem markedFrom_runs (bitmap : Bitmap) (cursor amount : Nat) :
    bitmap.markedFrom (((bitmap.runs cursor amount).getLast?.map Chunk.stop).getD cursor) =
      (bitmap.markedFrom cursor).drop amount :=
  bitmap.markedFrom_runsFrom amount #[] cursor cursor rfl

theorem total_runs (bitmap : Bitmap) (cursor amount : Nat) :
    Chunk.total (bitmap.runs cursor amount) = min amount (bitmap.markedFrom cursor).length := by
  rw [Chunk.total_eq, bitmap.flatMap_runs, List.length_take]

/-! ### Positions in the list -/

private theorem range'_split {cursor total : Nat} (within : cursor ≤ total) :
    List.range' 0 total = List.range' 0 cursor ++ List.range' cursor (total - cursor) := by
  have split : List.range' 0 cursor ++ List.range' (0 + cursor) (total - cursor) = _ := List.range'_append_1
  rw [Nat.zero_add, Nat.add_sub_of_le within] at split
  exact split.symm

theorem markedFrom_eq_filter (bitmap : Bitmap) (cursor : Nat) :
    bitmap.markedFrom cursor = bitmap.marked.filter fun block => cursor ≤ block := by
  by_cases outside : bitmap.total ≤ cursor
  · rw [markedFrom_of_total_le outside, eq_comm, List.filter_eq_nil_iff]
    intro block member
    have inside := lt_total_of_get (mem_marked.mp member)
    rw [decide_eq_true_eq]
    omega
  · -- The blocks before the cursor come first, and they are left out.
    have none : ((List.range' 0 cursor).filter bitmap.get).filter (fun block => cursor ≤ block) = [] := by
      rw [List.filter_eq_nil_iff]
      intro block member
      rw [List.mem_filter, List.mem_range'_1] at member
      rw [decide_eq_true_eq]
      omega
    have all : (bitmap.markedFrom cursor).filter (fun block => cursor ≤ block) = bitmap.markedFrom cursor := by
      rw [List.filter_eq_self]
      exact fun block member => decide_eq_true (mem_markedFrom.mp member).1
    have parts : bitmap.marked = (List.range' 0 cursor).filter bitmap.get ++ bitmap.markedFrom cursor := by
      rw [marked, markedFrom, markedFrom, Nat.sub_zero, range'_split (by omega : cursor ≤ bitmap.total),
        List.filter_append]
    rw [parts, List.filter_append, none, List.nil_append, all]

/-- The marked blocks below a position and those from there on are all of them. -/
theorem countP_range_get (bitmap : Bitmap) (position : Nat) :
    (List.range position).countP bitmap.get + (bitmap.markedFrom position).length = bitmap.marked.length := by
  rw [List.range_eq_range', marked, markedFrom, markedFrom, ← List.countP_eq_length_filter,
    ← List.countP_eq_length_filter, Nat.sub_zero]
  rcases Nat.le_total position bitmap.total with inside | outside
  · rw [range'_split inside, List.countP_append]
  · -- Behind the last block nothing is marked.
    have none : (List.range' bitmap.total (position - bitmap.total)).countP bitmap.get = 0 := by
      rw [List.countP_eq_zero]
      intro block member
      rw [List.mem_range'_1] at member
      rw [get_of_total_le member.1]
      exact Bool.false_ne_true
    rw [range'_split outside, List.countP_append, none, Nat.sub_eq_zero_of_le outside]
    rfl

/-- Behind a chunk stand the blocks that come after it in the list. -/
theorem markedFrom_stop {bitmap : Bitmap} {capacity : Nat} {front rest : List Chunk} {chunk : Chunk}
    (cut : bitmap.chunks capacity = front ++ chunk :: rest) :
    bitmap.markedFrom chunk.stop = bitmap.marked.drop (Chunk.total front + chunk.count) := by
  have ascending := bitmap.chunks_ascending capacity
  rw [cut, List.pairwise_append, List.pairwise_cons] at ascending
  obtain ⟨_, ⟨behind, _⟩, before⟩ := ascending
  have parts : bitmap.marked = (front.flatMap Chunk.blocks ++ chunk.blocks) ++ rest.flatMap Chunk.blocks := by
    rw [← bitmap.flatMap_chunks capacity, cut, List.flatMap_append, List.flatMap_cons, List.append_assoc]
  have length : (front.flatMap Chunk.blocks ++ chunk.blocks).length = Chunk.total front + chunk.count := by
    rw [List.length_append, ← Chunk.total_eq, Chunk.length_blocks]
  rw [markedFrom_eq_filter, parts, List.filter_append, List.filter_eq_nil_iff.mpr, List.nil_append,
    List.filter_eq_self.mpr, ← length, List.drop_left]
  · intro block member
    obtain ⟨later, inside, member⟩ := List.mem_flatMap.mp member
    have := behind later inside
    have := Chunk.mem_blocks.mp member
    exact decide_eq_true (by omega)
  · intro block member
    rw [decide_eq_true_eq]
    rcases List.mem_append.mp member with earlier | inside
    · obtain ⟨other, listed, member⟩ := List.mem_flatMap.mp earlier
      have := before other listed chunk List.mem_cons_self
      have := Chunk.mem_blocks.mp member
      rw [Chunk.stop]
      omega
    · have := Chunk.mem_blocks.mp inside
      omega

/-! ### Stored bitmaps -/

/-- Bitmaps that take up the same number of bytes and mark the same blocks are stored as the same bytes. -/
theorem bytes_eq_of_get {left right : Bitmap} (size : bitmapSize left.total = bitmapSize right.total)
    (same : ∀ block, left.get block = right.get block) : left.bytes = right.bytes := by
  refine Bytes.ext_byteAt (by rw [left.size_bytes, right.size_bytes, size]) fun index => ?_
  refine UInt8.toNat_inj.mp (Nat.eq_of_testBit_eq fun place => ?_)
  -- A bit of a byte is the mark of one block.
  by_cases inside : place < 8
  · have byte : (index * 8 + place) / 8 = index := by omega
    have bit : (index * 8 + place) % 8 = place := by omega
    have marks := same (index * 8 + place)
    rwa [get, get, bitAt, bitAt, byte, bit] at marks
  · rw [Bytes.testBit_of_le _ (by omega), Bytes.testBit_of_le _ (by omega)]

/-- Bitmaps over the same blocks that mark the same ones are equal. -/
theorem ext_get {left right : Bitmap} (total : left.total = right.total)
    (same : ∀ block, left.get block = right.get block) : left = right := by
  have bytes := bytes_eq_of_get (congrArg bitmapSize total) same
  cases left
  cases right
  obtain rfl : _ = _ := total
  obtain rfl : _ = _ := bytes
  rfl

/-- Bytes of the right number stand for a bitmap, in which their bits are the marks. -/
theorem ofBytes_of_size {total : Nat} {bytes : ByteArray} (size : bytes.size = bitmapSize total) :
    ofBytes total bytes = .ok (ofPred total (bitAt bytes)) := by
  cases made : ofBytes total bytes with
  | error failure =>
    rw [ofBytes, dif_pos size] at made
    cases made
  | ok bitmap =>
    refine congrArg Except.ok (ext_get (total_of_ofBytes made) fun block => ?_)
    rw [get_of_ofBytes made, get_ofPred]

/-- Reading what is stored of a bitmap gives the bitmap. -/
theorem ofBytes_bytes (bitmap : Bitmap) : ofBytes bitmap.total bitmap.bytes = .ok bitmap := by
  rw [ofBytes_of_size bitmap.size_bytes]
  refine congrArg Except.ok (ext_get rfl fun block => ?_)
  rw [get_ofPred]
  by_cases inside : block < bitmap.total
  · simp [inside, get]
  · simp [inside, get_of_total_le (Nat.not_lt.mp inside)]

/-- The ones of a row of bytes are its set bits. -/
theorem countP_bits (bytes : ByteArray) (count : Nat) (within : count ≤ bytes.size) :
    (List.range (8 * count)).countP (bitAt bytes) =
      (bytes.data.toList.take count).foldl (fun sum byte => sum + ones byte) 0 := by
  induction count with
  | zero => rfl
  | succ count ih =>
    have inside : count < bytes.data.toList.length := by
      rw [Array.length_toList]
      exact within
    have byte : Bytes.byteAt bytes count = bytes.data.toList[count] := by
      rw [Bytes.byteAt_of_lt within]
      rfl
    -- The eight bits that come in are those of the byte that comes in.
    have last : (List.range' (8 * count) 8).countP (bitAt bytes) = ones bytes.data.toList[count] := by
      rw [List.range'_eq_map_range, List.countP_map, ones]
      refine List.countP_congr fun place member => ?_
      have low := List.mem_range.mp member
      have quotient : (8 * count + place) / 8 = count := by omega
      have remainder : (8 * count + place) % 8 = place := by omega
      rw [Function.comp_apply, bitAt, quotient, remainder, byte]
    rw [List.take_succ_eq_append_getElem inside, List.foldl_append, ← ih (by omega), Nat.mul_succ,
      List.range_eq_range', ← List.range'_append_1, List.countP_append, Nat.zero_add, last, ← List.range_eq_range']
    rfl

/-- The blocks that are counted are the marked ones. -/
theorem count_eq_length_marked (bitmap : Bitmap) : bitmap.count = bitmap.marked.length := by
  have size := bitmap.size_bytes
  rw [bitmapSize] at size
  -- The whole bytes count the blocks up to the one from which on blocks are counted one by one.
  have whole : (bitmap.bytes.data.take (bitmap.total / 8)).foldl (fun sum byte => sum + ones byte) 0 =
      (List.range' 0 (8 * (bitmap.total / 8))).countP bitmap.get := by
    have taken : (bitmap.bytes.data.take (bitmap.total / 8)).toList =
        bitmap.bytes.data.toList.take (bitmap.total / 8) := by simp
    rw [← Array.foldl_toList, taken, ← countP_bits _ _ (by omega), List.range_eq_range']
    rfl
  have parts : 8 * (bitmap.total / 8) + (bitmap.total - 8 * (bitmap.total / 8)) = bitmap.total := by omega
  have joined := @List.range'_append_1 0 (8 * (bitmap.total / 8)) (bitmap.total - 8 * (bitmap.total / 8))
  rw [Nat.zero_add, parts] at joined
  rw [count, whole, ← List.countP_append, joined, List.countP_eq_length_filter]
  rfl

theorem count_eq_countP (bitmap : Bitmap) : bitmap.count = (List.range bitmap.total).countP bitmap.get := by
  have parts := bitmap.countP_range_get bitmap.total
  rw [markedFrom_of_total_le (Nat.le_refl _), List.length_nil, Nat.add_zero] at parts
  rw [count_eq_length_marked, parts]

theorem length_marked_le (bitmap : Bitmap) : bitmap.marked.length ≤ bitmap.total := by
  refine Nat.le_trans (List.length_filter_le _ _) (Nat.le_of_eq ?_)
  rw [List.length_range', Nat.sub_zero]

end Bitmap

end BlockImage
