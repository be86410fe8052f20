import BlockImage.Image.Layout
import BlockImage.Proofs.Image.Head
import BlockImage.Transfer.Imaging
import Mathlib.Data.List.GetD

/-!
# The data of an image

`Layout.data` is the data of an image as the layout describes it, without chunks: the blocks in order, and a tag behind
the last block of each group. `Group.after` is where the running group stands after a number of blocks, in closed form,
and whoever adds block after block comes past it.
-/
namespace BlockImage

def Checksum.Algorithm.ofBlocks (algorithm : Algorithm) (blocks : List ByteArray) : UInt32 :=
  blocks.foldl algorithm.fold seed

theorem Checksum.Algorithm.ofBlocks_append (algorithm : Algorithm) (blocks : List ByteArray) (block : ByteArray) :
    algorithm.ofBlocks (blocks ++ [block]) = algorithm.fold (algorithm.ofBlocks blocks) block := by
  rw [ofBlocks, List.foldl_append]
  rfl

theorem Checksum.foldl_crc32 (register : UInt32) (blocks : List ByteArray) :
    blocks.foldl Algorithm.crc32.fold register = Algorithm.crc32.fold register (Bytes.join blocks) := by
  induction blocks generalizing register with
  | nil => rfl
  | cons block blocks ih => rw [List.foldl_cons, ih, Bytes.join_cons, crc32_fold_append]

theorem Checksum.Algorithm.ofBlocks_crc32 (blocks : List ByteArray) :
    Algorithm.crc32.ofBlocks blocks = ofBytes (Bytes.join blocks) :=
  foldl_crc32 seed blocks

/-- A register is stored as its value, unless its algorithm has no tags. -/
theorem Checksum.Register.tag_eq {register : Register} (tags : 0 < register.algorithm.tagSize) :
    register.tag = Head.storedCrc register.value := by
  have size : register.algorithm.tagSize = 4 := by
    cases algorithm : register.algorithm with
    | none => rw [algorithm] at tags; cases tags
    | crc32 => rfl
    | crc32Legacy => rfl
  rw [tag, size, Head.storedCrc]

/-! ### The data as the layout describes it -/

namespace Layout

variable (options : Options)

/-- Whether a tag follows the block with a given number, in data of `total` blocks. Where `total` is zero, no block is
the last one. -/
def Closes (total number : Nat) : Prop :=
  options.tagged ∧ ((number + 1) % options.blocksPerChecksum.toNat = 0 ∨ number + 1 = total)

instance (total number : Nat) : Decidable (Closes options total number) := inferInstanceAs (Decidable (_ ∧ _))

/-- Tags behind the first `count` blocks. -/
def tagsBefore (total count : Nat) : Nat :=
  if options.tagged then
    count / options.blocksPerChecksum.toNat
      + if count = total ∧ count % options.blocksPerChecksum.toNat ≠ 0 then 1 else 0
  else 0

/-- Where in the data the block with a given number begins. -/
def startOf (blockSize total number : Nat) : Nat :=
  number * blockSize + tagsBefore options total number * options.checksum.tagSize

/-- The blocks that the register holds once `count` blocks are in: those since the last tag, or all. -/
def held (blocks : List ByteArray) (count : Nat) : List ByteArray :=
  (blocks.take count).drop
    (if options.reseed then count / options.blocksPerChecksum.toNat * options.blocksPerChecksum.toNat else 0)

/-- The blocks that a tag behind the block with a given number covers: those of its group, or all so far. -/
def covered (blocks : List ByteArray) (number : Nat) : List ByteArray :=
  (blocks.take (number + 1)).drop
    (if options.reseed then number / options.blocksPerChecksum.toNat * options.blocksPerChecksum.toNat else 0)

def register (blocks : List ByteArray) (number : Nat) : Checksum.Register where
  algorithm := options.checksum
  value := options.checksum.ofBlocks (covered options blocks number)

/-- A block and the tag behind it, where there is one. -/
def cell (total : Nat) (blocks : List ByteArray) (number : Nat) : ByteArray :=
  blocks.getD number ByteArray.empty
    ++ if Closes options total number then (register options blocks number).tag else ByteArray.empty

def data (blocks : List ByteArray) : ByteArray :=
  Bytes.join ((List.range blocks.length).map (cell options blocks.length blocks))

/-- The data before the tag of a last group that is not full. -/
def begun (blocks : List ByteArray) : ByteArray :=
  Bytes.join ((List.range blocks.length).map (cell options 0 blocks))

def image (descriptor : Descriptor) (bitmap : Bitmap) (blocks : List ByteArray) : ByteArray :=
  Head.encode descriptor options ++ bitmap.bytes ++ Head.storedCrc (Checksum.ofBytes bitmap.bytes)
    ++ data options blocks

/-! ### Where tags stand -/

variable {options}

theorem tagSize_pos (tagged : options.tagged = true) : 0 < options.checksum.tagSize := by
  simp only [Options.tagged, Bool.and_eq_true, decide_eq_true_eq] at tagged
  exact tagged.2

/-- Every algorithm that has tags has them of four bytes. -/
theorem tagSize_of_tagged (tagged : options.tagged = true) : options.checksum.tagSize = 4 := by
  have some := tagSize_pos tagged
  cases algorithm : options.checksum with
  | none => rw [algorithm] at some; cases some
  | crc32 => rfl
  | crc32Legacy => rfl

/-- A tag is the little-endian checksum of the bytes it covers. -/
theorem tag_register_crc32 (crc32 : options.checksum = .crc32) (blocks : List ByteArray) (number : Nat) :
    (register options blocks number).tag =
      Head.storedCrc (Checksum.ofBytes (Bytes.join (covered options blocks number))) := by
  have tags : 0 < Checksum.Algorithm.crc32.tagSize := by decide
  rw [register, crc32, Checksum.Register.tag_eq tags, Checksum.Algorithm.ofBlocks_crc32]

theorem perTag_pos (tagged : options.tagged = true) : 0 < options.blocksPerChecksum.toNat := by
  simp only [Options.tagged, Bool.and_eq_true, decide_eq_true_eq] at tagged
  exact tagged.1

/-- With the next block a group is either full or goes on. -/
theorem succ_mod_cases {width : Nat} (wide : 0 < width) (count : Nat) :
    count % width + 1 = width ∧ (count + 1) % width = 0 ∧ (count + 1) / width = count / width + 1 ∨
      count % width + 1 < width ∧ (count + 1) % width = count % width + 1 ∧ (count + 1) / width = count / width := by
  have below := Nat.mod_lt count wide
  have next : (count + 1) % width = (count % width + 1) % width := by rw [Nat.mod_add_mod]
  -- The remainder either comes round to zero or goes up by one.
  by_cases full : count % width + 1 = width
  · have zero : (count + 1) % width = 0 := by rw [next, full, Nat.mod_self]
    exact .inl ⟨full, zero, Nat.succ_div_of_mod_eq_zero zero⟩
  · have more : (count + 1) % width = count % width + 1 := by rw [next, Nat.mod_eq_of_lt (by omega)]
    exact .inr ⟨by omega, more, Nat.succ_div_of_mod_ne_zero (by omega)⟩

/-- A tag follows the block that fills its group, and the last one. -/
theorem closes_iff (tagged : options.tagged = true) {total number : Nat} :
    Closes options total number ↔
      number % options.blocksPerChecksum.toNat + 1 = options.blocksPerChecksum.toNat ∨ number + 1 = total := by
  rw [Closes, tagged]
  rcases succ_mod_cases (perTag_pos tagged) number with ⟨full, zero, _⟩ | ⟨more, rest, _⟩
  · simp [full, zero]
  · have partly : number % options.blocksPerChecksum.toNat + 1 ≠ options.blocksPerChecksum.toNat := by omega
    simp [rest, partly]

theorem tagsBefore_succ {total number : Nat} (inside : number < total ∨ total = 0) :
    tagsBefore options total (number + 1) =
      tagsBefore options total number + if Closes options total number then 1 else 0 := by
  unfold tagsBefore Closes
  by_cases tagged : options.tagged = true
  · -- The tag of a last group that is not full is not counted before the last block is in.
    have extra : ¬ (number = total ∧ number % options.blocksPerChecksum.toNat ≠ 0) := by
      rintro ⟨rfl, odd⟩
      rcases inside with below | none
      · exact Nat.lt_irrefl _ below
      · exact odd (by rw [none, Nat.zero_mod])
    simp only [tagged, if_true, true_and]
    rcases succ_mod_cases (perTag_pos tagged) number with ⟨full, zero, quotient⟩ | ⟨more, rest, quotient⟩
    · simp [zero, quotient, extra]
    · simp [rest, quotient, extra]
  · simp [tagged]

theorem startOf_succ {blockSize total number : Nat} (inside : number < total ∨ total = 0) :
    startOf options blockSize total (number + 1) = startOf options blockSize total number + blockSize
      + if Closes options total number then options.checksum.tagSize else 0 := by
  rw [startOf, startOf, tagsBefore_succ inside]
  split <;> simp [Nat.add_mul] <;> omega

@[simp] theorem startOf_zero (blockSize total : Nat) : startOf options blockSize total 0 = 0 := by
  simp [startOf, tagsBefore]

@[simp] theorem tagsBefore_zero (total : Nat) : tagsBefore options total 0 = 0 := by simp [tagsBefore]

theorem size_cell {blockSize total number : Nat} {blocks : List ByteArray} (inside : number < blocks.length)
    (sizes : ∀ block ∈ blocks, block.size = blockSize) :
    (cell options total blocks number).size =
      blockSize + if Closes options total number then options.checksum.tagSize else 0 := by
  have block : (blocks.getD number ByteArray.empty).size = blockSize := by
    rw [List.getD_eq_getElem _ _ inside]
    exact sizes _ (List.getElem_mem inside)
  rw [cell, ByteArray.size_append, block]
  split
  · rw [Checksum.Register.size_tag]
    rfl
  · rfl

/-- The cells of the first blocks fill the data up to where the next block begins. -/
theorem size_join_cells {blockSize total count : Nat} {blocks : List ByteArray} (within : count ≤ blocks.length)
    (inside : count ≤ total ∨ total = 0) (sizes : ∀ block ∈ blocks, block.size = blockSize) :
    (Bytes.join ((List.range count).map (cell options total blocks))).size = startOf options blockSize total count := by
  induction count with
  | zero => simp
  | succ count ih =>
    -- The next cell takes the data from where its block begins to where the next one does.
    rw [List.range_succ, List.map_append, Bytes.join_append, ByteArray.size_append, ih (by omega) (by omega),
      startOf_succ (by omega), List.map_singleton, Bytes.join_cons, Bytes.join_nil, ByteArray.append_empty,
      size_cell (by omega) sizes, Nat.add_assoc]

end Layout

/-! ### The running group -/

namespace Group

/-- The group once `count` blocks are in, where that does not complete the data. -/
def after (options : Options) (blocks : List ByteArray) (count : Nat) : Group :=
  if options.tagged then {
    register := { algorithm := options.checksum, value := options.checksum.ofBlocks (Layout.held options blocks count) }
    filled := count % options.blocksPerChecksum.toNat }
  else first options

variable {options : Options} {blocks : List ByteArray} {number : Nat}

theorem after_zero : after options blocks 0 = first options := by
  unfold after
  split
  · simp [Layout.held, first, Checksum.Register.fresh, Checksum.Algorithm.ofBlocks]
  · rfl

theorem after_append {more : List ByteArray} (within : number ≤ blocks.length) :
    after options (blocks ++ more) number = after options blocks number := by
  rw [after, after, Layout.held, Layout.held, List.take_append_of_le_length within]

theorem filled_after (tagged : options.tagged = true) :
    (after options blocks number).filled = number % options.blocksPerChecksum.toNat := by
  rw [after, if_pos tagged]

private theorem held_append (inside : number < blocks.length) :
    Layout.held options blocks number ++ [blocks[number]] = Layout.covered options blocks number := by
  have passed : number / options.blocksPerChecksum.toNat * options.blocksPerChecksum.toNat ≤ number :=
    Nat.div_mul_le_self _ _
  -- No more blocks are passed over than come before the new one, which is thus kept.
  rw [Layout.held, Layout.covered, List.take_succ_eq_append_getElem inside, List.drop_append_of_le_length]
  rw [List.length_take]
  split <;> omega

theorem add_after (tagged : options.tagged = true) (inside : number < blocks.length) :
    (after options blocks number).add blocks[number] =
      { register := Layout.register options blocks number,
        filled := number % options.blocksPerChecksum.toNat + 1 } := by
  rw [after, if_pos tagged, Layout.register, ← held_append inside, Checksum.Algorithm.ofBlocks_append]
  rfl

theorem next_eq_after (tagged : options.tagged = true)
    (full : (number + 1) % options.blocksPerChecksum.toNat = 0) (filled : Nat) :
    next { register := Layout.register options blocks number, filled } options =
      after options blocks (number + 1) := by
  have whole : (number + 1) / options.blocksPerChecksum.toNat * options.blocksPerChecksum.toNat = number + 1 := by
    have parts := Nat.div_add_mod (number + 1) options.blocksPerChecksum.toNat
    rw [full, Nat.mul_comm] at parts
    exact parts
  rw [after, if_pos tagged, full, Layout.register, Layout.held, Layout.covered, whole, next]
  cases options.reseed
  · -- The register runs on over all blocks.
    rfl
  · -- The register starts anew, and of no blocks.
    have empty : (blocks.take (number + 1)).drop (number + 1) = [] :=
      List.drop_of_length_le (by rw [List.length_take]; omega)
    simp only [if_true, empty, Checksum.Register.reset]
    rfl

/-- Within a group the block is all there is to add. -/
theorem add_after_eq (tagged : options.tagged = true) (inside : number < blocks.length)
    (more : (number + 1) % options.blocksPerChecksum.toNat ≠ 0) :
    (after options blocks number).add blocks[number] = after options blocks (number + 1) := by
  rcases Layout.succ_mod_cases (Layout.perTag_pos tagged) number with ⟨_, zero, _⟩ | ⟨_, rest, quotient⟩
  · exact absurd zero more
  · -- The new block starts no group, so both registers are over the same blocks.
    rw [add_after tagged inside, after, if_pos tagged, rest, Layout.register, Layout.held, Layout.covered, quotient]

end Group

/-! ### The end of the data -/

namespace Layout

variable {options : Options} {blocks : List ByteArray}

/-- All tags of the data, the one of a shorter last group included. -/
theorem tagsBefore_total (tagged : options.tagged = true) (total : Nat) :
    tagsBefore options total total = tagCount total options.blocksPerChecksum.toNat := by
  have wide := perTag_pos tagged
  have parts := Nat.div_add_mod total options.blocksPerChecksum.toNat
  have below := Nat.mod_lt total wide
  have grouped : options.blocksPerChecksum.toNat ≠ 0 := by omega
  rw [tagsBefore, if_pos tagged, tagCount, if_neg grouped]
  by_cases whole : total % options.blocksPerChecksum.toNat = 0
  · -- Rounding up does not add a group.
    have sum : total + options.blocksPerChecksum.toNat - 1 =
        options.blocksPerChecksum.toNat * (total / options.blocksPerChecksum.toNat) +
          (options.blocksPerChecksum.toNat - 1) := by omega
    have none : (options.blocksPerChecksum.toNat - 1) / options.blocksPerChecksum.toNat = 0 :=
      Nat.div_eq_of_lt (by omega)
    rw [if_neg (fun both => both.2 whole), sum, Nat.mul_add_div wide, none]
  · -- Rounding up adds the last group, which is not full.
    have sum : total + options.blocksPerChecksum.toNat - 1 =
        options.blocksPerChecksum.toNat * (total / options.blocksPerChecksum.toNat + 1) +
          (total % options.blocksPerChecksum.toNat - 1) := by
      rw [Nat.mul_succ]
      omega
    have none : (total % options.blocksPerChecksum.toNat - 1) / options.blocksPerChecksum.toNat = 0 :=
      Nat.div_eq_of_lt (by omega)
    rw [if_pos ⟨rfl, whole⟩, sum, Nat.mul_add_div wide, none]

private theorem cell_of_lt (options : Options) (blocks : List ByteArray) {total number : Nat}
    (below : number + 1 < total) : cell options total blocks number = cell options 0 blocks number := by
  have same : Closes options total number ↔ Closes options 0 number := by
    unfold Closes
    constructor
    · rintro ⟨tagged, whole | last⟩
      · exact ⟨tagged, .inl whole⟩
      · omega
    · rintro ⟨tagged, whole | none⟩
      · exact ⟨tagged, .inl whole⟩
      · omega
  rw [cell, cell]
  simp only [same]

/-- The last block has a tag behind it also where its group is not full. -/
private theorem cell_last (options : Options) {blocks : List ByteArray} {last : Nat} (inside : last < blocks.length) :
    cell options (last + 1) blocks last =
      cell options 0 blocks last ++
        if options.tagged ∧ 0 < (Group.after options blocks (last + 1)).filled then
          (Group.after options blocks (last + 1)).register.tag
        else ByteArray.empty := by
  by_cases tagged : options.tagged = true
  · have closes : Closes options (last + 1) last := ⟨tagged, .inr rfl⟩
    rcases succ_mod_cases (perTag_pos tagged) last with ⟨_, zero, _⟩ | ⟨_, rest, _⟩
    · -- The group is full, so that its tag is there already.
      have there : Closes options 0 last := ⟨tagged, .inl zero⟩
      have full : ¬ 0 < (Group.after options blocks (last + 1)).filled := by
        rw [Group.filled_after tagged]
        omega
      rw [cell, cell, if_pos closes, if_pos there, if_neg (fun both => full both.2), ByteArray.append_empty]
    · -- The group goes on, so that its register is still the running one.
      have runs : ¬ Closes options 0 last := by
        rintro ⟨_, zero | none⟩ <;> omega
      have partly : 0 < (Group.after options blocks (last + 1)).filled := by
        rw [Group.filled_after tagged]
        omega
      rw [cell, cell, if_pos closes, if_neg runs, if_pos ⟨tagged, partly⟩, ByteArray.append_empty,
        ← Group.add_after_eq tagged inside (by omega), Group.add_after tagged inside]
  · rw [cell, cell, if_neg (fun closes => tagged closes.1), if_neg (fun closes => tagged closes.1),
      if_neg (fun both => tagged both.1), ByteArray.append_empty, ByteArray.append_empty]

/-- The tag behind a last group that is not full comes behind all the cells. -/
theorem data_eq (options : Options) (blocks : List ByteArray) :
    data options blocks =
      begun options blocks ++
        if options.tagged ∧ 0 < (Group.after options blocks blocks.length).filled then
          (Group.after options blocks blocks.length).register.tag
        else ByteArray.empty := by
  unfold begun
  cases count : blocks.length with
  | zero =>
    have none : (Group.after options blocks 0).filled = 0 := by rw [Group.after_zero]; rfl
    rw [data, count, none, if_neg (fun both => absurd both.2 (Nat.lt_irrefl 0))]
    rfl
  | succ last =>
    -- Only the last cell can differ: the others are followed by more blocks in either count.
    have earlier : (List.range last).map (cell options (last + 1) blocks) =
        (List.range last).map (cell options 0 blocks) := by
      refine List.map_congr_left fun number member => cell_of_lt options blocks ?_
      have before := List.mem_range.mp member
      omega
    rw [data, count, List.range_succ, List.map_append, List.map_append, Bytes.join_append, Bytes.join_append, earlier,
      List.map_singleton, List.map_singleton, Bytes.join_cons, Bytes.join_cons, Bytes.join_nil, ByteArray.append_empty,
      ByteArray.append_empty, ByteArray.append_assoc, cell_last options (by omega)]

theorem begun_append (options : Options) (blocks : List ByteArray) (block : ByteArray) :
    begun options (blocks ++ [block]) = begun options blocks ++ cell options 0 (blocks ++ [block]) blocks.length := by
  have earlier : (List.range blocks.length).map (cell options 0 (blocks ++ [block])) =
      (List.range blocks.length).map (cell options 0 blocks) := by
    refine List.map_congr_left fun number member => ?_
    have before := List.mem_range.mp member
    rw [cell, cell, List.getD_append _ _ _ _ before, register, register, covered, covered,
      List.take_append_of_le_length before]
  rw [begun, begun, List.length_append, List.length_singleton, List.range_succ, List.map_append, earlier,
    Bytes.join_append, List.map_singleton, Bytes.join_cons, Bytes.join_nil, ByteArray.append_empty]

/-- Without a total no block is the last one, so the data begun ends where the next block begins. -/
theorem size_begun {options : Options} {width : Nat} {blocks : List ByteArray}
    (sizes : ∀ block ∈ blocks, block.size = width) :
    (begun options blocks).size = startOf options width 0 blocks.length :=
  size_join_cells (Nat.le_refl _) (.inr rfl) sizes

/-- All tags are those that groups get when they are full, and the one of a last group that is not. -/
theorem tagsBefore_total_eq (options : Options) (blocks : List ByteArray) :
    tagsBefore options blocks.length blocks.length =
      tagsBefore options 0 blocks.length +
        if options.tagged ∧ 0 < (Group.after options blocks blocks.length).filled then 1 else 0 := by
  unfold tagsBefore
  by_cases tagged : options.tagged = true
  · rw [if_pos tagged, if_pos tagged, Group.filled_after tagged]
    by_cases whole : blocks.length % options.blocksPerChecksum.toNat = 0
    · simp [whole]
    · have some : blocks.length ≠ 0 := fun none => whole (by rw [none, Nat.zero_mod])
      simp [whole, some, tagged, Nat.pos_of_ne_zero whole]
  · simp [tagged]

end Layout

/-! ### What is packed is the data -/

namespace Transfer

variable {options : Options} {blocks : List ByteArray}

theorem add_after {packing : Packing} {number : Nat} (stands : packing.group = Group.after options blocks number)
    (inside : number < blocks.length) :
    packing.add options blocks[number] = {
      bytes := packing.bytes ++ Layout.cell options 0 blocks number
      group := Group.after options blocks (number + 1)
      tags := packing.tags + if Layout.Closes options 0 number then 1 else 0 } := by
  unfold Packing.add Layout.cell
  rw [List.getD_eq_getElem _ _ inside]
  by_cases tagged : options.tagged = true
  · rw [if_pos tagged, stands, Group.add_after tagged inside]
    -- Packing asks whether the group is full, the layout whether the number of the next block is a multiple.
    rcases Layout.succ_mod_cases (Layout.perTag_pos tagged) number with ⟨full, zero, _⟩ | ⟨more, rest, _⟩
    · have closes : Layout.Closes options 0 number := ⟨tagged, .inl zero⟩
      rw [if_pos full, if_pos closes, if_pos closes, Group.next_eq_after tagged zero, ByteArray.append_assoc]
    · have goes := Group.add_after_eq tagged inside (by omega)
      rw [Group.add_after tagged inside] at goes
      have runs : ¬ Layout.Closes options 0 number := by
        rintro ⟨_, zero | none⟩ <;> omega
      have partly : number % options.blocksPerChecksum.toNat + 1 ≠ options.blocksPerChecksum.toNat := by omega
      rw [if_neg partly, if_neg runs, if_neg runs, goes, ByteArray.append_empty]
      rfl
  · have runs : ¬ Layout.Closes options 0 number := fun closes => tagged closes.1
    rw [if_neg tagged, if_neg runs, if_neg runs, stands, Group.after, Group.after, if_neg tagged, if_neg tagged,
      ByteArray.append_empty]
    rfl

/-- Behind `front` and `before` tags, what is packed brings the data up to the end of `done`. -/
structure Packing.Packs (options : Options) (front : ByteArray) (before : Nat) (done : List ByteArray)
    (packing : Packing) : Prop where
  group : packing.group = Group.after options done done.length
  bytes : front ++ packing.bytes = Layout.begun options done
  tags : before + packing.tags = Layout.tagsBefore options 0 done.length

theorem Packing.Packs.add {front : ByteArray} {before : Nat} {done : List ByteArray} {packing : Packing}
    (packs : packing.Packs options front before done) (block : ByteArray) :
    (packing.add options block).Packs options front before (done ++ [block]) := by
  have inside : done.length < (done ++ [block]).length := by simp
  have item : (done ++ [block])[done.length] = block := List.getElem_concat_length rfl _
  -- The group before the new block does not depend on it.
  have stands : packing.group = Group.after options (done ++ [block]) done.length := by
    rw [packs.group, Group.after_append (Nat.le_refl _)]
  have added := add_after stands inside
  rw [item] at added
  rw [added]
  refine ⟨by rw [List.length_append]; rfl, ?_, ?_⟩
  · rw [← ByteArray.append_assoc, packs.bytes, Layout.begun_append]
  · rw [List.length_append, List.length_singleton, Layout.tagsBefore_succ (.inr rfl), ← packs.tags, Nat.add_assoc]

/-- Packing blocks takes the data from those before them to those with them. -/
theorem pack_packs (options : Options) (done blocks : List ByteArray) :
    (pack options (Group.after options done done.length) blocks).Packs options (Layout.begun options done)
      (Layout.tagsBefore options 0 done.length) (done ++ blocks) := by
  -- The induction is over any packing, since the fold does not keep the one it begins with.
  suffices packs : ∀ (packing : Packing) (done : List ByteArray) (front : ByteArray) (before : Nat),
      packing.Packs options front before done →
      (blocks.foldl (Packing.add options) packing).Packs options front before (done ++ blocks) from
    packs _ done _ _ ⟨rfl, ByteArray.append_empty, rfl⟩
  induction blocks with
  | nil =>
    intro packing done front before packs
    rwa [List.append_nil]
  | cons block blocks ih =>
    intro packing done front before packs
    have rest := ih _ _ _ _ (packs.add block)
    rwa [List.append_assoc, List.singleton_append] at rest

/-- With more blocks the data goes on where it had begun. -/
theorem startsWith_begun (options : Options) (done more : List ByteArray) :
    Bytes.StartsWith (Layout.data options (done ++ more)) (Layout.begun options done) := by
  have packs := pack_packs options done more
  rw [Layout.data_eq, ← packs.bytes]
  exact (Bytes.startsWith_append _ _).trans (Bytes.startsWith_append _ _)

end Transfer

end BlockImage
