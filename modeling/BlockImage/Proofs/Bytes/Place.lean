import BlockImage.Proofs.Bytes

/-!
# Blocks put in their places

`place` lays blocks over byte strings, each where its number says. Blocks whose numbers follow each other can be laid at
once, and with ascending numbers every block ends up in its place while all else stays as it was. `cut` is what there is
of blocks as long as only their first bytes have come.
-/
namespace BlockImage.Bytes

variable {width : Nat}

theorem size_join {pieces : List ByteArray} (sizes : ∀ piece ∈ pieces, piece.size = width) :
    (join pieces).size = pieces.length * width := by
  induction pieces with
  | nil => simp
  | cons piece pieces ih =>
    rw [join_cons, ByteArray.size_append, sizes piece List.mem_cons_self,
      ih fun other member => sizes other (List.mem_cons_of_mem _ member), List.length_cons, Nat.add_mul]
    omega

theorem extract_append_of_le {bytes : ByteArray} {start stop : Nat} (within : stop ≤ bytes.size) (more : ByteArray) :
    (bytes ++ more).extract start stop = bytes.extract start stop := by
  have none : more.extract (start - bytes.size) 0 = ByteArray.empty :=
    ByteArray.extract_eq_empty_iff.mpr (by omega)
  rw [ByteArray.extract_append, Nat.sub_eq_zero_of_le within, none, ByteArray.append_empty]

theorem extract_middle (front middle back : ByteArray) :
    (front ++ middle ++ back).extract front.size (front.size + middle.size) = middle := by
  refine ext_byteAt ?_ fun index => ?_
  · simp only [ByteArray.size_extract, ByteArray.size_append]
    omega
  · rw [byteAt_extract, byteAt_append, byteAt_append, ByteArray.size_append]
    by_cases inside : index < middle.size
    · have place : front.size + index - front.size = index := by omega
      rw [if_pos (by omega), if_pos (by omega), if_neg (by omega), place]
    · rw [if_neg (by omega), byteAt_of_size_le (by omega)]

/-- Pieces of one size are cut out of what they join to. -/
theorem extract_join {pieces : List ByteArray} (sizes : ∀ piece ∈ pieces, piece.size = width) {first count : Nat}
    (within : first + count ≤ pieces.length) :
    (join pieces).extract (first * width) (first * width + count * width) = join ((pieces.drop first).take count) := by
  -- Two pieces stand before and behind the one that is cut out.
  have parts : pieces = pieces.take first ++ (pieces.drop first).take count ++ (pieces.drop first).drop count := by
    rw [List.append_assoc, List.take_append_drop, List.take_append_drop]
  have front : (join (pieces.take first)).size = first * width := by
    rw [size_join fun piece member => sizes piece (List.mem_of_mem_take member), List.length_take,
      Nat.min_eq_left (by omega)]
  have middle : (join ((pieces.drop first).take count)).size = count * width := by
    rw [size_join fun piece member => sizes piece (List.mem_of_mem_drop (List.mem_of_mem_take member)),
      List.length_take, List.length_drop, Nat.min_eq_left (by omega)]
  have joined : join pieces = join (pieces.take first) ++ join ((pieces.drop first).take count) ++
      join ((pieces.drop first).drop count) := by
    rw [← join_append, ← join_append, ← parts]
  rw [joined, ← front, ← middle, extract_middle]

/-- Lays blocks over bytes, each from where the block with its number begins. -/
def place (width : Nat) (bytes : ByteArray) (numbers : List Nat) (blocks : List ByteArray) : ByteArray :=
  (numbers.zip blocks).foldl (fun bytes placed => overwrite bytes (placed.1 * width) placed.2) bytes

@[simp] theorem place_nil (bytes : ByteArray) (blocks : List ByteArray) : place width bytes [] blocks = bytes := rfl

theorem place_cons (bytes : ByteArray) (number : Nat) (numbers : List Nat) (block : ByteArray)
    (blocks : List ByteArray) : place width bytes (number :: numbers) (block :: blocks) =
      place width (overwrite bytes (number * width) block) numbers blocks := rfl

theorem place_append (bytes : ByteArray) {numbers : List Nat} {blocks : List ByteArray}
    (length : numbers.length = blocks.length) (others : List Nat) (more : List ByteArray) :
    place width bytes (numbers ++ others) (blocks ++ more) =
      place width (place width bytes numbers blocks) others more := by
  rw [place, place, place, List.zip_append length, List.foldl_append]

/-- Blocks that follow each other are laid at once. -/
theorem place_range' (bytes : ByteArray) (first : Nat) {blocks : List ByteArray}
    (sizes : ∀ block ∈ blocks, block.size = width) :
    place width bytes (List.range' first blocks.length) blocks = overwrite bytes (first * width) (join blocks) := by
  induction blocks generalizing bytes first with
  | nil => simp
  | cons block blocks ih =>
    -- The other blocks begin where the first one ends, so both writes are one.
    have next : (first + 1) * width = first * width + block.size := by
      rw [sizes block List.mem_cons_self, Nat.add_mul, Nat.one_mul]
    rw [List.length_cons, List.range'_succ, place_cons,
      ih _ _ fun other member => sizes other (List.mem_cons_of_mem _ member), next, overwrite_append, join_cons]

theorem byteAt_place_of_outside (bytes : ByteArray) {numbers : List Nat} {blocks : List ByteArray}
    (sizes : ∀ block ∈ blocks, block.size ≤ width) {index : Nat}
    (outside : ∀ number ∈ numbers, ¬ (number * width ≤ index ∧ index < (number + 1) * width)) :
    byteAt (place width bytes numbers blocks) index = byteAt bytes index := by
  induction numbers generalizing bytes blocks with
  | nil => rfl
  | cons number numbers ih =>
    cases blocks with
    | nil => rfl
    | cons block blocks =>
      have apart := outside number List.mem_cons_self
      rw [Nat.add_mul, Nat.one_mul] at apart
      rw [place_cons, ih _ (fun other member => sizes other (List.mem_cons_of_mem _ member))
        fun other member => outside other (List.mem_cons_of_mem _ member), byteAt_overwrite, if_neg]
      have bound := sizes block List.mem_cons_self
      omega

/-- A byte is as it was, or it comes from a block that was laid there. -/
theorem byteAt_place_cases (bytes : ByteArray) (numbers : List Nat) (blocks : List ByteArray) (index : Nat) :
    byteAt (place width bytes numbers blocks) index = byteAt bytes index ∨
      ∃ (item : Nat) (_ : item < numbers.length) (_ : item < blocks.length), numbers[item] * width ≤ index ∧
        index < numbers[item] * width + blocks[item].size ∧
        byteAt (place width bytes numbers blocks) index = byteAt blocks[item] (index - numbers[item] * width) := by
  induction numbers generalizing bytes blocks with
  | nil => exact .inl rfl
  | cons number numbers ih =>
    cases blocks with
    | nil => exact .inl rfl
    | cons block blocks =>
      rw [place_cons]
      rcases ih (overwrite bytes (number * width) block) blocks with same | ⟨item, inside, given, behind, before, laid⟩
      · -- No later block is laid there, so the first one decides.
        rw [same, byteAt_overwrite]
        split
        next within => exact .inr ⟨0, Nat.succ_pos _, Nat.succ_pos _, within.1, within.2, rfl⟩
        next => exact .inl rfl
      · exact .inr ⟨item + 1, Nat.succ_lt_succ inside, Nat.succ_lt_succ given, behind, before, laid⟩

theorem size_place_ge (bytes : ByteArray) (numbers : List Nat) (blocks : List ByteArray) :
    bytes.size ≤ (place width bytes numbers blocks).size := by
  induction numbers generalizing bytes blocks with
  | nil => exact Nat.le_refl _
  | cons number numbers ih =>
    cases blocks with
    | nil => exact Nat.le_refl _
    | cons block blocks =>
      refine Nat.le_trans ?_ (ih _ _)
      rw [size_overwrite]
      split <;> omega

/-- Blocks laid where there are bytes already leave their number as it is. -/
theorem size_place_of_inside (bytes : ByteArray) {numbers : List Nat} {blocks : List ByteArray}
    (sizes : ∀ block ∈ blocks, block.size ≤ width) (inside : ∀ number ∈ numbers, (number + 1) * width ≤ bytes.size) :
    (place width bytes numbers blocks).size = bytes.size := by
  induction numbers generalizing bytes blocks with
  | nil => rfl
  | cons number numbers ih =>
    cases blocks with
    | nil => rfl
    | cons block blocks =>
      have first := inside number List.mem_cons_self
      have bound := sizes block List.mem_cons_self
      have same : (overwrite bytes (number * width) block).size = bytes.size := by
        rw [Nat.add_mul, Nat.one_mul] at first
        rw [size_overwrite]
        split <;> omega
      rw [place_cons, ih _ (fun other member => sizes other (List.mem_cons_of_mem _ member)) ?_, same]
      intro other member
      rw [same]
      exact inside other (List.mem_cons_of_mem _ member)

private theorem extract_place_of_outside (bytes : ByteArray) {numbers : List Nat} {blocks : List ByteArray}
    (sizes : ∀ block ∈ blocks, block.size ≤ width) {start stop : Nat} (within : stop ≤ bytes.size)
    (outside : ∀ number ∈ numbers, stop ≤ number * width) :
    (place width bytes numbers blocks).extract start stop = bytes.extract start stop := by
  have grown := @size_place_ge width bytes numbers blocks
  refine ext_byteAt ?_ fun index => ?_
  · rw [ByteArray.size_extract, ByteArray.size_extract, Nat.min_eq_left within, Nat.min_eq_left (by omega)]
  · rw [byteAt_extract, byteAt_extract]
    split
    next before =>
      refine byteAt_place_of_outside bytes sizes fun number member inside => ?_
      have behind := outside number member
      omega
    next => rfl

/-- With ascending numbers every whole block ends up in its place. -/
theorem blockAt_place (bytes : ByteArray) {numbers : List Nat} (ascending : numbers.Pairwise (· < ·))
    {blocks : List ByteArray} (sizes : ∀ block ∈ blocks, block.size ≤ width) {index : Nat}
    (inside : index < numbers.length) (given : index < blocks.length) (whole : blocks[index].size = width) :
    blockAt width (place width bytes numbers blocks) numbers[index] = blocks[index] := by
  induction numbers generalizing bytes blocks index with
  | nil => exact absurd inside (Nat.not_lt_zero _)
  | cons number numbers ih =>
    obtain ⟨later, ascending⟩ := List.pairwise_cons.mp ascending
    cases blocks with
    | nil => exact absurd given (Nat.not_lt_zero _)
    | cons block blocks =>
      have rest : ∀ other ∈ blocks, other.size ≤ width := fun other member => sizes other (List.mem_cons_of_mem _ member)
      cases index with
      | succ index =>
        exact ih _ ascending rest (Nat.lt_of_succ_lt_succ inside) (Nat.lt_of_succ_lt_succ given) whole
      | zero =>
        have stop : (number + 1) * width = number * width + block.size := by
          rw [List.getElem_cons_zero] at whole
          rw [whole, Nat.add_mul, Nat.one_mul]
        -- Unless blocks are without bytes, the first one lies wholly within what is overwritten.
        have filled : number * width + block.size ≤ (overwrite bytes (number * width) block).size ∨ block.size = 0 := by
          rw [size_overwrite]
          split <;> omega
        change blockAt width (place width (overwrite bytes (number * width) block) numbers blocks) number = block
        rcases filled with filled | empty
        · -- The blocks laid later have larger numbers, so they lie behind this one.
          have behind (other : Nat) (member : other ∈ numbers) : number * width + block.size ≤ other * width := by
            rw [← stop]
            exact Nat.mul_le_mul_right _ (later other member)
          rw [blockAt, stop, extract_place_of_outside _ rest filled behind, extract_overwrite]
        · -- Blocks without bytes are all the same.
          refine ext_byteAt ?_ fun index => ?_
          · rw [blockAt, stop, ByteArray.size_extract]
            omega
          · rw [blockAt, byteAt_extract, if_neg (by omega), byteAt_of_size_le (by omega)]

/-! ### Blocks of which only a part has come -/

/-- What there is of blocks as long as only their first bytes have come. -/
def cut : Nat → List ByteArray → List ByteArray
  | _, [] => []
  | amount, block :: blocks => block.extract 0 amount :: cut (amount - block.size) blocks

@[simp] theorem length_cut (amount : Nat) (blocks : List ByteArray) : (cut amount blocks).length = blocks.length := by
  induction blocks generalizing amount with
  | nil => rfl
  | cons block blocks ih => rw [cut, List.length_cons, ih, List.length_cons]

theorem cut_append (amount : Nat) (blocks more : List ByteArray) :
    cut amount (blocks ++ more) = cut amount blocks ++ cut (amount - (join blocks).size) more := by
  induction blocks generalizing amount with
  | nil => rfl
  | cons block blocks ih =>
    rw [List.cons_append, cut, cut, ih, List.cons_append, join_cons, ByteArray.size_append, Nat.sub_sub]

theorem cut_of_size_le {amount : Nat} {blocks : List ByteArray} (all : (join blocks).size ≤ amount) :
    cut amount blocks = blocks := by
  induction blocks generalizing amount with
  | nil => rfl
  | cons block blocks ih =>
    rw [join_cons, ByteArray.size_append] at all
    rw [cut, ih (by omega), extract_eq_self (by omega)]

theorem getElem_cut {blocks : List ByteArray} (sizes : ∀ block ∈ blocks, block.size = width) (amount : Nat)
    {item : Nat} (inside : item < (cut amount blocks).length) (given : item < blocks.length) :
    (cut amount blocks)[item] = blocks[item].extract 0 (amount - item * width) := by
  induction blocks generalizing amount item with
  | nil => exact absurd given (Nat.not_lt_zero _)
  | cons block blocks ih =>
    cases item with
    | zero => simp [cut]
    | succ item =>
      have rest (other : ByteArray) (member : other ∈ blocks) := sizes other (List.mem_cons_of_mem _ member)
      have left : amount - block.size - item * width = amount - (item + 1) * width := by
        rw [sizes block List.mem_cons_self, Nat.sub_sub, Nat.add_mul, Nat.one_mul, Nat.add_comm]
      simp only [cut, List.getElem_cons_succ]
      rw [ih rest _ _ (Nat.lt_of_succ_lt_succ given), left]

theorem size_le_of_mem_cut {blocks : List ByteArray} (sizes : ∀ block ∈ blocks, block.size = width) (amount : Nat) :
    ∀ piece ∈ cut amount blocks, piece.size ≤ width := by
  intro piece member
  obtain ⟨item, inside, rfl⟩ := List.mem_iff_getElem.mp member
  have given : item < blocks.length := by rwa [length_cut] at inside
  rw [getElem_cut sizes amount inside given, ByteArray.size_extract, sizes _ (List.getElem_mem given)]
  omega

/-- With ascending numbers a block that has come whole ends up in its place. -/
theorem blockAt_place_cut (bytes : ByteArray) {numbers : List Nat} (ascending : numbers.Pairwise (· < ·))
    {blocks : List ByteArray} (sizes : ∀ block ∈ blocks, block.size = width) {amount index : Nat}
    (inside : index < numbers.length) (given : index < blocks.length) (come : (index + 1) * width ≤ amount) :
    blockAt width (place width bytes numbers (cut amount blocks)) numbers[index] = blocks[index] := by
  have size := sizes _ (List.getElem_mem given)
  have given' : index < (cut amount blocks).length := by rwa [length_cut]
  have whole : (cut amount blocks)[index] = blocks[index] := by
    rw [Nat.add_mul] at come
    rw [getElem_cut sizes amount given' given]
    exact extract_eq_self (by omega)
  rw [blockAt_place bytes ascending (size_le_of_mem_cut sizes amount) inside given' (by rw [whole, size]), whole]

/-- A byte is as it was, or it is one of a block, of which as much has come. -/
theorem byteAt_place_cut_cases (bytes : ByteArray) (numbers : List Nat) {blocks : List ByteArray}
    (sizes : ∀ block ∈ blocks, block.size = width) (amount index : Nat) :
    byteAt (place width bytes numbers (cut amount blocks)) index = byteAt bytes index ∨
      ∃ (item : Nat) (_ : item < numbers.length) (_ : item < blocks.length), numbers[item] * width ≤ index ∧
        index < (numbers[item] + 1) * width ∧
        byteAt (place width bytes numbers (cut amount blocks)) index =
          byteAt blocks[item] (index - numbers[item] * width) := by
  rcases byteAt_place_cases bytes numbers (cut amount blocks) index with same | ⟨item, inside, given', begins, ends, new⟩
  · exact .inl same
  · have given : item < blocks.length := by rwa [length_cut] at given'
    rw [getElem_cut sizes amount given' given, ByteArray.size_extract, sizes _ (List.getElem_mem given)] at ends
    rw [getElem_cut sizes amount given' given, byteAt_extract, if_pos (by omega), Nat.zero_add] at new
    refine .inr ⟨item, inside, given, begins, ?_, new⟩
    rw [Nat.add_mul]
    omega

/-- As long as nothing has come, nothing is laid. -/
@[simp] theorem place_cut_zero (bytes : ByteArray) (numbers : List Nat) (blocks : List ByteArray) :
    place width bytes numbers (cut 0 blocks) = bytes := by
  induction numbers generalizing blocks with
  | nil => rfl
  | cons number numbers ih =>
    cases blocks with
    | nil => rfl
    | cons block blocks =>
      have none : block.extract 0 0 = ByteArray.empty := ByteArray.extract_eq_empty_iff.mpr (by omega)
      rw [cut, place_cons, none, overwrite_empty, Nat.zero_sub, ih]

/-- Blocks come after those in front of them. -/
theorem place_cut_append (bytes : ByteArray) {numbers : List Nat} {blocks : List ByteArray}
    (length : numbers.length = blocks.length) (others : List Nat) (more : List ByteArray) (amount : Nat) :
    place width bytes (numbers ++ others) (cut ((join blocks).size + amount) (blocks ++ more)) =
      place width (place width bytes numbers blocks) others (cut amount more) := by
  rw [cut_append, cut_of_size_le (Nat.le_add_right _ _), Nat.add_sub_cancel_left, place_append _ length]

/-- Where no more has come than makes up the first blocks, the others do not matter. -/
theorem place_cut_of_le (bytes : ByteArray) {numbers : List Nat} {blocks : List ByteArray}
    (length : numbers.length = blocks.length) (others : List Nat) (more : List ByteArray) {amount : Nat}
    (within : amount ≤ (join blocks).size) :
    place width bytes (numbers ++ others) (cut amount (blocks ++ more)) =
      place width bytes numbers (cut amount blocks) := by
  rw [cut_append, Nat.sub_eq_zero_of_le within, place_append _ (by rw [length, length_cut]), place_cut_zero]

/-- What has come of blocks that follow each other is laid at once. -/
theorem place_cut_range' (bytes : ByteArray) (first : Nat) {blocks : List ByteArray}
    (sizes : ∀ block ∈ blocks, block.size = width) (amount : Nat) :
    place width bytes (List.range' first blocks.length) (cut amount blocks) =
      overwrite bytes (first * width) ((join blocks).extract 0 amount) := by
  induction blocks generalizing bytes first amount with
  | nil =>
    have none : ByteArray.empty.extract 0 amount = ByteArray.empty :=
      ByteArray.extract_eq_empty_iff.mpr (Nat.min_le_right _ _)
    rw [join_nil, none, overwrite_empty]
    rfl
  | cons block blocks ih =>
    have size := sizes block List.mem_cons_self
    have parts : (join (block :: blocks)).extract 0 amount =
        block.extract 0 amount ++ (join blocks).extract 0 (amount - block.size) := by
      rw [join_cons, ByteArray.extract_append, Nat.zero_sub]
    rw [List.length_cons, List.range'_succ, cut, place_cons,
      ih _ _ (fun other member => sizes other (List.mem_cons_of_mem _ member)), parts]
    rcases Nat.lt_or_ge amount block.size with partly | whole
    · -- The first block is not whole, so nothing of the others has come.
      have none : (join blocks).extract 0 (amount - block.size) = ByteArray.empty :=
        ByteArray.extract_eq_empty_iff.mpr (by omega)
      rw [none, overwrite_empty, ByteArray.append_empty]
    · have next : (first + 1) * width = first * width + (block.extract 0 amount).size := by
        rw [extract_eq_self whole, size, Nat.add_mul, Nat.one_mul]
      rw [next, overwrite_append]

end BlockImage.Bytes
