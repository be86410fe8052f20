import BlockImage.Proofs.Bytes.Place
import BlockImage.Proofs.Image.Data

/-!
# What bytes of data say under a head

Any bytes can stand where the data of an image is expected. `blocksIn` are the blocks that they hold there, and `Fits`
says of a stored tag that it is that of the blocks it covers. The data of an image holds its own blocks, and all its
tags fit.
-/
namespace BlockImage.Head

variable (head : Head) (stream : ByteArray)

abbrev width : Nat := head.descriptor.blockSize.toNat

abbrev total : Nat := head.descriptor.verifiedBlocks.toNat

/-- Where in the data the block with a given number begins, and behind the last one, where the data ends. -/
def startOf (number : Nat) : Nat := Layout.startOf head.options head.width head.total number

/-- Tags behind the blocks, one for each group. -/
def tagTotal : Nat :=
  if head.options.tagged then Layout.tagCount head.total head.options.blocksPerChecksum.toNat else 0

/-- Bytes of the blocks and of their tags. -/
def dataSize : Nat := head.total * head.width + 4 * head.tagTotal

def blockIn (number : Nat) : ByteArray := stream.extract (head.startOf number) (head.startOf number + head.width)

def blocksIn : List ByteArray := (List.range head.total).map (head.blockIn stream)

/-- What stands where the tag behind a block is expected. -/
def tagIn (number : Nat) : ByteArray :=
  stream.extract (head.startOf number + head.width)
    (head.startOf number + head.width + head.options.checksum.tagSize)

def storedIn (number : Nat) : UInt32 := UInt32.ofNat (LittleEndian.decode (head.tagIn stream number).data.toList)

def registerIn (number : Nat) : Checksum.Register := Layout.register head.options (head.blocksIn stream) number

abbrev Closes (number : Nat) : Prop := Layout.Closes head.options head.total number

/-- The tag behind a block is that of the blocks it covers. -/
def Fits (number : Nat) : Prop := head.storedIn stream number = (head.registerIn stream number).value

/-- The first tag that does not fit is that behind the block with a given number. -/
structure Misfit (number : Nat) : Prop where
  inside : number < head.total
  closes : head.Closes number
  unfit : ¬ head.Fits stream number
  earlier : ∀ other < number, head.Closes other → head.Fits stream other

variable {head stream}

@[simp] theorem startOf_zero : head.startOf 0 = 0 := Layout.startOf_zero _ _

@[simp] theorem length_blocksIn : (head.blocksIn stream).length = head.total := by
  rw [blocksIn, List.length_map, List.length_range]

theorem getElem_blocksIn {number : Nat} (inside : number < (head.blocksIn stream).length) :
    (head.blocksIn stream)[number] = head.blockIn stream number := by
  simp [blocksIn]

theorem startOf_succ {number : Nat} (inside : number < head.total) :
    head.startOf (number + 1) = head.startOf number + head.width
      + if head.Closes number then head.options.checksum.tagSize else 0 :=
  Layout.startOf_succ (.inl inside)

theorem tagsBefore_all : Layout.tagsBefore head.options head.total head.total = head.tagTotal := by
  rw [tagTotal]
  split
  next tagged => exact Layout.tagsBefore_total tagged _
  next untagged => rw [Layout.tagsBefore, if_neg untagged]

theorem startOf_total : head.startOf head.total = head.dataSize := by
  rw [startOf, Layout.startOf, tagsBefore_all, dataSize]
  by_cases tagged : head.options.tagged = true
  · rw [Layout.tagSize_of_tagged tagged, Nat.mul_comm head.tagTotal]
  · rw [tagTotal, if_neg tagged, Nat.zero_mul, Nat.mul_zero]

theorem startOf_mono {first second : Nat} (ordered : first ≤ second) (within : second ≤ head.total) :
    head.startOf first ≤ head.startOf second := by
  induction ordered with
  | refl => exact Nat.le_refl _
  | step ordered ih =>
    -- A block and its tag only add bytes.
    rw [startOf_succ within]
    have := ih (by omega)
    omega

theorem size_blockIn {number : Nat} (inside : number < head.total) (whole : head.startOf (number + 1) ≤ stream.size) :
    (head.blockIn stream number).size = head.width := by
  rw [startOf_succ inside] at whole
  rw [blockIn, ByteArray.size_extract]
  omega

theorem sizes_blocksIn {first count : Nat} (within : first + count ≤ head.total)
    (whole : head.startOf (first + count) ≤ stream.size) :
    ∀ block ∈ ((head.blocksIn stream).drop first).take count, block.size = head.width := by
  intro block member
  obtain ⟨index, inside, rfl⟩ := List.mem_iff_getElem.mp member
  rw [List.length_take, List.length_drop, length_blocksIn] at inside
  -- The block ends where the next one begins at the latest, and that lies within the stream.
  have reach : head.startOf (first + index + 1) ≤ head.startOf (first + count) := startOf_mono (by omega) within
  rw [List.getElem_take, List.getElem_drop, getElem_blocksIn]
  exact size_blockIn (by omega) (by omega)

theorem sizes_take_blocksIn {count : Nat} (within : count ≤ head.total) (whole : head.startOf count ≤ stream.size) :
    ∀ block ∈ (head.blocksIn stream).take count, block.size = head.width := by
  have sizes := @sizes_blocksIn head stream 0 count (by omega) (by rwa [Nat.zero_add])
  rwa [List.drop_zero] at sizes

theorem size_join_blocksIn {count : Nat} (within : count ≤ head.total) (whole : head.startOf count ≤ stream.size) :
    (Bytes.join ((head.blocksIn stream).take count)).size = count * head.width := by
  rw [Bytes.size_join (sizes_take_blocksIn within whole), List.length_take, length_blocksIn, Nat.min_eq_left within]

/-! ### The data of an image -/

section Data

variable {blocks : List ByteArray} {number : Nat}

/-- The cell of a block lies where the block begins. -/
theorem data_split (length : blocks.length = head.total) (sizes : ∀ block ∈ blocks, block.size = head.width)
    (inside : number < blocks.length) :
    ∃ front back, Layout.data head.options blocks =
        front ++ Layout.cell head.options head.total blocks number ++ back ∧ front.size = head.startOf number := by
  let cells := (List.range blocks.length).map (Layout.cell head.options blocks.length blocks)
  have within : number < cells.length := by simpa [cells] using inside
  have item : cells[number] = Layout.cell head.options head.total blocks number := by simp [cells, length]
  have before : cells.take number = (List.range number).map (Layout.cell head.options blocks.length blocks) := by
    rw [← List.map_take, List.take_range, Nat.min_eq_left (Nat.le_of_lt inside)]
  refine ⟨Bytes.join (cells.take number), Bytes.join (cells.drop (number + 1)), ?_, ?_⟩
  · have parts : cells = cells.take number ++ cells[number] :: cells.drop (number + 1) := by
      rw [← List.drop_eq_getElem_cons within, List.take_append_drop]
    change Bytes.join cells = _
    rw [← item, ByteArray.append_assoc, ← Bytes.join_cons, ← Bytes.join_append, ← parts]
  · rw [before, startOf, ← length]
    exact Layout.size_join_cells (Nat.le_of_lt inside) (.inl (Nat.le_of_lt inside)) sizes

theorem size_data (length : blocks.length = head.total) (sizes : ∀ block ∈ blocks, block.size = head.width) :
    (Layout.data head.options blocks).size = head.startOf head.total := by
  rw [startOf, ← length]
  exact Layout.size_join_cells (Nat.le_refl _) (.inl (Nat.le_refl _)) sizes

theorem blockIn_data (length : blocks.length = head.total) (sizes : ∀ block ∈ blocks, block.size = head.width)
    (inside : number < blocks.length) : head.blockIn (Layout.data head.options blocks) number = blocks[number] := by
  obtain ⟨front, back, split, size⟩ := data_split length sizes inside
  have width : blocks[number].size = head.width := sizes _ (List.getElem_mem inside)
  rw [blockIn, split, ← size, Layout.cell, List.getD_eq_getElem _ _ inside, ← width]
  simp only [ByteArray.append_assoc]
  rw [← ByteArray.append_assoc]
  exact Bytes.extract_middle front blocks[number] _

theorem blocksIn_data (length : blocks.length = head.total) (sizes : ∀ block ∈ blocks, block.size = head.width) :
    head.blocksIn (Layout.data head.options blocks) = blocks := by
  refine List.ext_getElem (length_blocksIn.trans length.symm) fun number first second => ?_
  rw [getElem_blocksIn first, blockIn_data length sizes second]

/-- Behind a block stands the tag of the register, where a tag follows. -/
theorem tagIn_data (length : blocks.length = head.total) (sizes : ∀ block ∈ blocks, block.size = head.width)
    (inside : number < blocks.length) (closes : head.Closes number) :
    head.tagIn (Layout.data head.options blocks) number = (Layout.register head.options blocks number).tag := by
  obtain ⟨front, back, split, size⟩ := data_split length sizes inside
  have width : blocks[number].size = head.width := sizes _ (List.getElem_mem inside)
  have tagWidth : (Layout.register head.options blocks number).tag.size = head.options.checksum.tagSize :=
    Checksum.Register.size_tag _
  -- The tag stands behind the block in its cell.
  rw [tagIn, split, ← size, Layout.cell, List.getD_eq_getElem _ _ inside, if_pos closes, ← ByteArray.append_assoc,
    ← width, ← ByteArray.size_append, ← tagWidth]
  exact Bytes.extract_middle (front ++ blocks[number]) _ back

theorem fits_data (length : blocks.length = head.total) (sizes : ∀ block ∈ blocks, block.size = head.width)
    (inside : number < blocks.length) (closes : head.Closes number) :
    head.Fits (Layout.data head.options blocks) number := by
  have stored := @Checksum.Register.tag_eq (Layout.register head.options blocks number) (Layout.tagSize_pos closes.1)
  rw [Fits, registerIn, blocksIn_data length sizes, storedIn, tagIn_data length sizes inside closes, stored,
    Head.decode_storedCrc]

end Data

end BlockImage.Head
