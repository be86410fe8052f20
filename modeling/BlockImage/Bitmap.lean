import BlockImage.Bytes
import BlockImage.Error

/-!
# Allocation bitmaps

One bit for each block of a device, least significant bit first; a set bit marks a block that holds data. `b.get`
is the view: a bitmap is its number of blocks together with the set of marked ones, since the size of the bytes
and the padding bits of the last byte are fixed.
-/
namespace BlockImage

/-- The requests for memory, by their size in bytes, that a process has addresses for. -/
def addressable (size : Nat) : Bool := size < 1 <<< 47

/-- Refuses a working area of a size that is not granted. -/
def checkAllocation (grants : Nat → Bool) (size : Nat) : Except Error Unit :=
  if grants size then pure () else throw (.insufficientMemory size 0)

/-- Bytes that hold one bit for each of `total` blocks. -/
def bitmapSize (total : Nat) : Nat := (total + 7) / 8

/-- The bit for a block in stored bytes; bits past the end are clear. -/
def bitAt (bytes : ByteArray) (index : Nat) : Bool :=
  (Bytes.byteAt bytes (index / 8)).toNat.testBit (index % 8)

/-- The number whose low `width` bits are given by `bit`. -/
def packBits : (width : Nat) → (Nat → Bool) → Nat
  | 0, _ => 0
  | width + 1, bit => (bit 0).toNat + 2 * packBits width fun index => bit (index + 1)

theorem testBit_packBits (width : Nat) (bit : Nat → Bool) (index : Nat) :
    (packBits width bit).testBit index = (decide (index < width) && bit index) := by
  induction width generalizing bit index with
  | zero => simp [packBits]
  | succ width ih =>
    cases index with
    | zero => cases h : bit 0 <;> simp [packBits, h, Nat.testBit_zero, Nat.add_mod]
    | succ index =>
      have half : ((bit 0).toNat + 2 * packBits width fun i => bit (i + 1)) / 2
          = packBits width fun i => bit (i + 1) := by
        cases bit 0
        · simp
        · simp
          omega
      simp [packBits, Nat.testBit_succ, half, ih]

/-- An allocation bitmap over `total` blocks. -/
structure Bitmap where
  total : Nat
  bytes : ByteArray
  size_bytes : bytes.size = bitmapSize total
  padding_clear : ∀ index, total ≤ index → bitAt bytes index = false
  deriving DecidableEq

theorem bitAt_zeros (count index : Nat) : bitAt (Bytes.zeros count) index = false := by
  rw [bitAt, Bytes.byteAt_zeros]
  exact Nat.zero_testBit _

/-- The byte with the low `width` bits set. -/
def lowBits (width : Nat) : UInt8 := UInt8.ofNat (1 <<< width - 1)

theorem testBit_lowBits (width : Nat) {place : Nat} (low : place < 8) :
    (lowBits width).toNat.testBit place = decide (place < width) := by
  rw [lowBits, UInt8.toNat_ofNat', Nat.testBit_mod_two_pow, Nat.one_shiftLeft, Nat.testBit_two_pow_sub_one,
    decide_eq_true low, Bool.true_and]

/-- Stored bytes with the last one changed, if some of its bits stand for no block. -/
def changeTail (total : Nat) (change : UInt8 → UInt8) (bytes : ByteArray) : ByteArray :=
  if h : total % 8 ≠ 0 ∧ 0 < bytes.size then
    bytes.set (bytes.size - 1) (change (bytes[bytes.size - 1])) (by omega)
  else bytes

theorem size_changeTail (total : Nat) (change : UInt8 → UInt8) (bytes : ByteArray) :
    (changeTail total change bytes).size = bytes.size := by
  unfold changeTail
  split
  · exact Bytes.size_set _ _ _ _
  · rfl

/-- A change that keeps the bits of blocks and clears those behind them leaves the blocks as they were. -/
theorem bitAt_changeTail {total : Nat} {change : UInt8 → UInt8} {bytes : ByteArray}
    (size : bytes.size = bitmapSize total)
    (keeps : ∀ (last : 0 < bytes.size), ∀ place < 8, (change bytes[bytes.size - 1]).toNat.testBit place =
      (decide (place < total % 8) && bytes[bytes.size - 1].toNat.testBit place))
    (index : Nat) : bitAt (changeTail total change bytes) index = (decide (index < total) && bitAt bytes index) := by
  rw [bitmapSize] at size
  have low : index % 8 < 8 := Nat.mod_lt _ (by decide)
  -- Behind the last byte nothing is set.
  have behind (outside : bytes.size ≤ index / 8) : bitAt bytes index = false := by
    rw [bitAt, Bytes.byteAt_of_size_le outside]
    exact Nat.zero_testBit _
  unfold changeTail
  split
  next partly =>
    rw [bitAt, Bytes.byteAt_set]
    split
    next tail =>
      have inside : index % 8 < total % 8 ↔ index < total := by omega
      rw [keeps partly.2 _ low, bitAt, tail, Bytes.byteAt, dif_pos (Nat.sub_lt partly.2 Nat.one_pos)]
      simp only [inside]
    next apart =>
      change bitAt bytes index = _
      by_cases inside : index < total
      · rw [decide_eq_true inside, Bool.true_and]
      · rw [behind (by omega), Bool.and_false]
  next whole =>
    by_cases inside : index < total
    · rw [decide_eq_true inside, Bool.true_and]
    · rw [behind (by omega), Bool.and_false]

theorem testBit_and_lowBits (byte : UInt8) (width : Nat) {place : Nat} (low : place < 8) :
    (byte &&& lowBits width).toNat.testBit place = (decide (place < width) && byte.toNat.testBit place) := by
  rw [UInt8.toNat_and, Nat.testBit_and, testBit_lowBits width low, Bool.and_comm]

/-- Of bytes that are cut down to the blocks nothing else changes. -/
theorem bitAt_cut {total : Nat} {bytes : ByteArray} (size : bytes.size = bitmapSize total) (index : Nat) :
    bitAt (changeTail total (fun last => last &&& lowBits (total % 8)) bytes) index =
      (decide (index < total) && bitAt bytes index) := by
  rw [bitAt_changeTail size]
  intro last place low
  exact testBit_and_lowBits _ _ low

/-- Bytes that are all set, but for what lies behind the last block. -/
theorem bitAt_allSet {total width : Nat} (size : width = bitmapSize total) (index : Nat) :
    bitAt (changeTail total (fun _ => lowBits (total % 8)) (Bytes.filled width 0xFF)) index =
      decide (index < total) := by
  have full {place : Nat} (low : place < 8) : (0xFF : UInt8).toNat.testBit place = true := by
    have := Nat.testBit_two_pow_sub_one 8 place
    simpa [low] using this
  rw [bitAt_changeTail ((Bytes.size_filled ..).trans size)]
  · by_cases inside : index < total
    · have within : index / 8 < width := by
        rw [size, bitmapSize]
        omega
      rw [bitAt, Bytes.byteAt_filled, if_pos within, full (Nat.mod_lt _ (by decide)), Bool.and_true]
    · rw [decide_eq_false inside, Bool.false_and]
  · intro last place low
    have copied : (Bytes.filled width 0xFF)[(Bytes.filled width 0xFF).size - 1] = 0xFF := Array.getElem_replicate _
    rw [testBit_lowBits _ low, copied, full low, Bool.and_true]

/-- Stored bytes with one bit given a new value; nothing changes past the end. -/
def assignBit (bytes : ByteArray) (index : Nat) (value : Bool) : ByteArray :=
  if h : index / 8 < bytes.size then
    let old := bytes[index / 8].toNat
    let mask := 1 <<< (index % 8)
    bytes.set (index / 8) (UInt8.ofNat (if value then old ||| mask else old &&& (255 ^^^ mask))) h
  else bytes

theorem size_assignBit (bytes : ByteArray) (index : Nat) (value : Bool) :
    (assignBit bytes index value).size = bytes.size := by
  unfold assignBit
  split
  · exact Bytes.size_set _ _ _ _
  · rfl

private theorem testBit_assigned (old : UInt8) (place other : Nat) (value : Bool) (low : other < 8) :
    (UInt8.ofNat (if value then old.toNat ||| 1 <<< place
      else old.toNat &&& (255 ^^^ 1 <<< place))).toNat.testBit other
      = if other = place then value else old.toNat.testBit other := by
  have all_ones : Nat.testBit 255 other = true := by
    have := Nat.testBit_two_pow_sub_one 8 other
    simpa [low] using this
  rw [UInt8.toNat_ofNat', Nat.testBit_mod_two_pow, Nat.one_shiftLeft]
  by_cases same : other = place
  · subst same
    cases value <;> simp [low, all_ones, Nat.testBit_two_pow_self]
  · have apart : Nat.testBit (2 ^ place) other = false := Nat.testBit_two_pow_of_ne (Ne.symm same)
    cases value <;> simp [low, same, all_ones, apart]

theorem bitAt_assignBit (bytes : ByteArray) (index other : Nat) (value : Bool)
    (inside : index / 8 < bytes.size) :
    bitAt (assignBit bytes index value) other = if other = index then value else bitAt bytes other := by
  have low : other % 8 < 8 := by omega
  by_cases sameByte : other / 8 = index / 8
  · have same : other % 8 = index % 8 ↔ other = index := by omega
    have before : Bytes.byteAt bytes (other / 8) = bytes[index / 8] := by
      simp [Bytes.byteAt, sameByte, inside]
    rw [bitAt, bitAt, before, assignBit, dif_pos inside, Bytes.byteAt_set, if_pos sameByte,
      testBit_assigned _ _ _ _ low]
    simp only [same]
  · have different : other ≠ index := fun equal => sameByte (by rw [equal])
    rw [bitAt, bitAt, assignBit, dif_pos inside, Bytes.byteAt_set, if_neg sameByte, if_neg different]

namespace Bitmap

/-- Whether a block is marked; false past the end. -/
def get (bitmap : Bitmap) (index : Nat) : Bool := bitAt bitmap.bytes index

theorem get_of_total_le {bitmap : Bitmap} {index : Nat} (outside : bitmap.total ≤ index) :
    bitmap.get index = false := bitmap.padding_clear index outside

/-- The stored form of the set of blocks below `total` that `marked` holds of. -/
def packed (total : Nat) (marked : Nat → Bool) : ByteArray :=
  ⟨Array.ofFn (n := bitmapSize total) fun byte =>
    UInt8.ofNat (packBits 8 fun bit =>
      decide (byte.val * 8 + bit < total) && marked (byte.val * 8 + bit))⟩

theorem bitAt_packed (total : Nat) (marked : Nat → Bool) (index : Nat) :
    bitAt (packed total marked) index = (decide (index < total) && marked index) := by
  have position : index / 8 * 8 + index % 8 = index := by omega
  have low : index % 8 < 8 := by omega
  by_cases inside : index / 8 < bitmapSize total
  · simp only [bitAt, packed, Bytes.byteAt_mk, Array.size_ofFn, inside, ↓reduceDIte, Array.getElem_ofFn,
      UInt8.toNat_ofNat']
    rw [Nat.testBit_mod_two_pow, testBit_packBits]
    simp [low, position]
  · have outside : ¬ index < total := by
      simp only [bitmapSize] at inside
      omega
    simp [bitAt, packed, Bytes.byteAt_mk, inside, outside]

/-- The bitmap over `total` blocks that marks those `marked` holds of. -/
def ofPred (total : Nat) (marked : Nat → Bool) : Bitmap where
  total
  bytes := packed total marked
  size_bytes := by simp [packed, ByteArray.size]
  padding_clear index outside := by simp [bitAt_packed, Nat.not_lt.mpr outside]

@[simp] theorem get_ofPred (total : Nat) (marked : Nat → Bool) (index : Nat) :
    (ofPred total marked).get index = (decide (index < total) && marked index) :=
  bitAt_packed total marked index

/-- The bitmap over `total` blocks that marks none of them. -/
def blank (total : Nat) : Bitmap where
  total
  bytes := Bytes.zeros (bitmapSize total)
  size_bytes := Bytes.size_zeros _
  padding_clear index _ := bitAt_zeros _ index

@[simp] theorem get_blank (total index : Nat) : (blank total).get index = false := bitAt_zeros _ index

def create (total : Nat) (grants : Nat → Bool := addressable) : Except Error Bitmap := do
  checkAllocation grants (bitmapSize total)
  return blank total

/-- The bitmap that stored bytes stand for. Padding bits are dropped. -/
def ofBytes (total : Nat) (bytes : ByteArray) : Except Error Bitmap :=
  if size : bytes.size = bitmapSize total then
    return {
      total
      bytes := changeTail total (fun last => last &&& lowBits (total % 8)) bytes
      size_bytes := (size_changeTail ..).trans size
      padding_clear := fun index outside => by
        rw [bitAt_cut size, decide_eq_false (by omega), Bool.false_and] }
  else throw (.format (.bitmapLength bytes.size (bitmapSize total) total))

theorem total_of_ofBytes {total : Nat} {bytes : ByteArray} {bitmap : Bitmap} (made : ofBytes total bytes = .ok bitmap) :
    bitmap.total = total := by
  rw [ofBytes] at made
  split at made
  · cases made
    rfl
  · cases made

theorem get_of_ofBytes {total : Nat} {bytes : ByteArray} {bitmap : Bitmap} (made : ofBytes total bytes = .ok bitmap)
    (index : Nat) : bitmap.get index = (decide (index < total) && bitAt bytes index) := by
  rw [ofBytes] at made
  split at made
  next size =>
    cases made
    exact bitAt_cut size index
  next => cases made

theorem byte_inside {bitmap : Bitmap} {index : Nat} (inside : index < bitmap.total) :
    index / 8 < bitmap.bytes.size := by
  rw [bitmap.size_bytes, bitmapSize]
  omega

def assign (bitmap : Bitmap) (index : Nat) (value : Bool) (inside : index < bitmap.total) : Bitmap where
  total := bitmap.total
  bytes := assignBit bitmap.bytes index value
  size_bytes := by rw [size_assignBit, bitmap.size_bytes]
  padding_clear other outside := by
    have different : other ≠ index := by omega
    rw [bitAt_assignBit _ _ _ _ (byte_inside inside), if_neg different]
    exact bitmap.padding_clear other outside

theorem get_assign (bitmap : Bitmap) (index other : Nat) (value : Bool) (inside : index < bitmap.total) :
    (bitmap.assign index value inside).get other = if other = index then value else bitmap.get other :=
  bitAt_assignBit _ _ _ _ (byte_inside inside)

/-- Whether a block is marked, for a block that exists. -/
def read (bitmap : Bitmap) (index : Nat) : Except Error Bool :=
  if index < bitmap.total then return bitmap.get index else throw (.outOfRange index bitmap.total)

def set (bitmap : Bitmap) (index : Nat) : Except Error Bitmap :=
  if inside : index < bitmap.total then return bitmap.assign index true inside
  else throw (.outOfRange index bitmap.total)

def clear (bitmap : Bitmap) (index : Nat) : Except Error Bitmap :=
  if inside : index < bitmap.total then return bitmap.assign index false inside
  else throw (.outOfRange index bitmap.total)

/-- Marks every block. -/
def setAll (bitmap : Bitmap) : Bitmap where
  total := bitmap.total
  bytes := changeTail bitmap.total (fun _ => lowBits (bitmap.total % 8)) (Bytes.filled bitmap.bytes.size 0xFF)
  size_bytes := by rw [size_changeTail, Bytes.size_filled, bitmap.size_bytes]
  padding_clear index outside := by
    rw [bitAt_allSet bitmap.size_bytes, decide_eq_false (by omega)]

@[simp] theorem get_setAll (bitmap : Bitmap) (index : Nat) : bitmap.setAll.get index = decide (index < bitmap.total) :=
  bitAt_allSet bitmap.size_bytes index

def ones (byte : UInt8) : Nat := (List.range 8).countP byte.toNat.testBit

/-- The marked blocks, counted by the byte as far as all bits of a byte stand for blocks. -/
def count (bitmap : Bitmap) : Nat :=
  let full := bitmap.total / 8
  (bitmap.bytes.data.take full).foldl (fun sum byte => sum + ones byte) 0 +
    (List.range' (8 * full) (bitmap.total - 8 * full)).countP bitmap.get

end Bitmap

end BlockImage
