import BlockImage.Head.Codec
import BlockImage.Proofs.Bytes
import BlockImage.Proofs.Checksum.Linear

/-!
# What the checksum detects

A register followed by its own stored form leaves zero, and only that form does. Byte strings that differ within four
consecutive bytes never leave the same register, so a stored checksum shows every such difference, whether it lies in
the guarded bytes, in the checksum or across their border.
-/
namespace BlockImage

theorem LittleEndian.decode_lt (bytes : List UInt8) : decode bytes < 1 <<< (8 * bytes.length) := by
  induction bytes with
  | nil => simp [decode]
  | cons byte bytes ih =>
    have low := byte.toNat_lt
    rw [decode, List.length_cons, range_succ]
    omega

theorem LittleEndian.decode_inj {left right : List UInt8} (length : left.length = right.length)
    (same : decode left = decode right) : left = right := by
  induction left generalizing right with
  | nil => exact (List.eq_nil_of_length_eq_zero length.symm).symm
  | cons byte left ih =>
    cases right with
    | nil => simp at length
    | cons other right =>
      simp only [decode] at same
      have low := byte.toNat_lt
      have low' := other.toNat_lt
      -- The low digit tells the first bytes, and the rest of the number tells the others.
      have head : byte = other := UInt8.toNat_inj.mp (by omega)
      rw [head, ih (by simpa using length) (by omega)]

namespace Checksum

/-- Up to four bytes as one word, least significant first. -/
def word (bytes : List UInt8) : UInt32 := UInt32.ofNat (LittleEndian.decode bytes)

theorem toNat_word {bytes : List UInt8} (short : bytes.length ≤ 4) :
    (word bytes).toNat = LittleEndian.decode bytes := by
  have bound := LittleEndian.decode_lt bytes
  rw [Nat.one_shiftLeft] at bound
  have width : 2 ^ (8 * bytes.length) ≤ 2 ^ 32 := Nat.pow_le_pow_right (by omega) (by omega)
  rw [word, UInt32.toNat_ofNat']
  exact Nat.mod_eq_of_lt (by omega)

private theorem bit_word (bytes : List UInt8) (short : bytes.length ≤ 4) (place : Nat) :
    (word bytes).toBitVec.getLsbD place = (LittleEndian.decode bytes).testBit place := by
  rw [← toNat_word short]
  rfl

private theorem bit_word_raised {bytes : List UInt8} (short : bytes.length ≤ 4) (place : Nat) :
    (word bytes <<< 8).toBitVec.getLsbD place =
      (decide (place < 32) && !decide (place < 8) && (LittleEndian.decode bytes).testBit (place - 8)) := by
  have raised : (word bytes <<< 8).toBitVec = (word bytes).toBitVec <<< 8 := by simp
  rw [raised, BitVec.getLsbD_shiftLeft, bit_word _ short]

private theorem word_cons {byte : UInt8} {bytes : List UInt8} (short : bytes.length < 4) :
    word (byte :: bytes) = byte.toUInt32 ^^^ (word bytes <<< 8) := by
  refine ext_bits fun place inside => ?_
  have low : byte.toNat < 2 ^ 8 := byte.toNat_lt
  rw [bit_word _ (by rw [List.length_cons]; omega), LittleEndian.decode, Nat.add_comm,
    Nat.testBit_two_pow_mul_add (i := 8) _ low, UInt32.toBitVec_xor, BitVec.getLsbD_xor, bit_toUInt32,
    bit_word_raised (by omega)]
  -- The low eight places come from the new byte and the others from the word, moved up.
  by_cases under : place < 8
  · simp [under]
  · simp [under, inside, Bytes.testBit_of_le byte (by omega : 8 ≤ place)]

/-- Up to three bytes behind an empty one come down when it is taken in. -/
private theorem shift_word {bytes : List UInt8} (short : bytes.length < 4) :
    shift 8 (word bytes <<< 8) = word bytes := by
  refine ext_bits fun place inside => ?_
  have clear (low : Nat) (under : low < 8) : (word bytes <<< 8).toBitVec.getLsbD low = false := by
    rw [bit_word_raised (by omega)]
    simp [under]
  rw [shift_bit_of_clear clear, bit_word_raised (by omega), bit_word _ (by omega), Nat.add_sub_cancel]
  -- A place that was moved out of the word was clear, for three bytes fill no more than 24 places.
  by_cases fits : place + 8 < 32
  · simp [fits]
  · have bound : LittleEndian.decode bytes < 2 ^ place := by
      refine Nat.lt_of_lt_of_le (LittleEndian.decode_lt bytes) ?_
      rw [Nat.one_shiftLeft]
      exact Nat.pow_le_pow_right (by omega) (by omega)
    simp [fits, Nat.testBit_lt_two_pow bound]

/-- Up to four bytes enter the register at once. -/
theorem foldl_step_eq (bytes : List UInt8) (short : bytes.length ≤ 4) (register : UInt32) :
    bytes.foldl step register = shift (8 * bytes.length) (register ^^^ word bytes) := by
  induction bytes generalizing register with
  | nil => simp [word, LittleEndian.decode, shift, Nat.repeat]
  | cons byte bytes ih =>
    rw [List.length_cons] at short
    -- The first byte moves the register by eight steps, and with it the bytes that have not yet entered.
    have count : 8 * (bytes.length + 1) = 8 + 8 * bytes.length := by omega
    rw [List.foldl_cons, ih (by omega), step_eq, List.length_cons, count, shift_add, word_cons (by omega),
      ← UInt32.xor_assoc, shift_xor 8 (register ^^^ byte.toUInt32), shift_word (by omega)]

theorem foldl_step_inj (bytes : List UInt8) {left right : UInt32}
    (same : bytes.foldl step left = bytes.foldl step right) : left = right := by
  induction bytes generalizing left right with
  | nil => exact same
  | cons byte bytes ih =>
    -- Both registers took in the same byte by steps that lose nothing.
    have stepped := ih same
    rw [step_eq, step_eq, shift_inj] at stepped
    exact UInt32.xor_left_inj _ |>.mp stepped

theorem eq_of_foldl_step {left right : List UInt8} (length : left.length = right.length) (short : left.length ≤ 4)
    {register : UInt32} (same : left.foldl step register = right.foldl step register) : left = right := by
  rw [foldl_step_eq left short, foldl_step_eq right (length ▸ short), length, shift_inj, UInt32.xor_right_inj] at same
  refine LittleEndian.decode_inj length ?_
  rw [← toNat_word short, ← toNat_word (length ▸ short), same]

/-- Four bytes leave zero of the register that they stand for, and of no other. -/
theorem foldl_step_eq_zero_iff {stored : List UInt8} (length : stored.length = 4) {register : UInt32} :
    stored.foldl step register = 0 ↔ word stored = register := by
  rw [foldl_step_eq stored (by omega)]
  constructor
  · exact fun zero => (UInt32.xor_eq_zero_iff.mp (eq_zero_of_shift zero)).symm
  · rintro rfl
    rw [UInt32.xor_self, shift_zero_eq]

end Checksum

/-! ### Byte strings that differ within a window -/

/-- Byte strings of one size that differ in nothing but four consecutive bytes. -/
structure Bytes.DifferWithin (left right : ByteArray) (start : Nat) : Prop where
  size : left.size = right.size
  window : ∀ index, byteAt left index ≠ byteAt right index → start ≤ index ∧ index < start + 4

namespace Bytes.DifferWithin

variable {left right : ByteArray} {start : Nat}

theorem extract (differ : DifferWithin left right start) (first stop : Nat) :
    DifferWithin (left.extract first stop) (right.extract first stop) (start - first) where
  size := by simp only [ByteArray.size_extract, differ.size]
  window index different := by
    rw [byteAt_extract, byteAt_extract] at different
    split at different
    · have := differ.window _ different
      omega
    · exact absurd rfl different

theorem extract_eq (differ : DifferWithin left right start) {first stop : Nat}
    (outside : stop ≤ start ∨ start + 4 ≤ first) : left.extract first stop = right.extract first stop := by
  refine ext_byteAt (differ.extract first stop).size fun index => ?_
  rw [byteAt_extract, byteAt_extract]
  split
  next within =>
    by_cases same : byteAt left (first + index) = byteAt right (first + index)
    · exact same
    · have := differ.window _ same
      omega
  next => rfl

end Bytes.DifferWithin

namespace Checksum

theorem crc32_fold_append (register : UInt32) (first second : ByteArray) :
    Algorithm.crc32.fold register (first ++ second) =
      Algorithm.crc32.fold (Algorithm.crc32.fold register first) second := by
  simp only [Algorithm.fold, ByteArray.data_append, Array.foldl_append]

private theorem crc32_fold_toList (register : UInt32) (bytes : ByteArray) :
    Algorithm.crc32.fold register bytes = bytes.data.toList.foldl step register := by
  simp only [Algorithm.fold, Array.foldl_toList]

/-- A stored checksum is right exactly when it leaves zero of the register. -/
theorem crc32_fold_eq_zero_iff {stored : ByteArray} (size : stored.size = 4) {register : UInt32} :
    Algorithm.crc32.fold register stored = 0 ↔ UInt32.ofNat (LittleEndian.decode stored.data.toList) = register := by
  rw [crc32_fold_toList]
  exact foldl_step_eq_zero_iff (by simpa using size)

/-- No difference within four consecutive bytes leaves the register as it was. -/
theorem eq_of_crc32_fold {left right : ByteArray} {start : Nat} (differ : Bytes.DifferWithin left right start)
    {register : UInt32} (same : Algorithm.crc32.fold register left = Algorithm.crc32.fold register right) :
    left = right := by
  -- Before and behind the window the bytes agree, and the register moves on bijectively over what is behind it.
  have cut (bytes : ByteArray) : bytes =
      bytes.extract 0 start ++
        (bytes.extract start (start + 4) ++ bytes.extract (start + 4) (start + 4 + bytes.size)) := by
    rw [← ByteArray.extract_eq_extract_append_extract (start + 4) (by omega) (by omega),
      ← ByteArray.extract_eq_extract_append_extract start (by omega) (by omega), Bytes.extract_eq_self (by omega)]
  have before : left.extract 0 start = right.extract 0 start := differ.extract_eq (.inl (Nat.le_refl _))
  have behind : left.extract (start + 4) (start + 4 + left.size) =
      right.extract (start + 4) (start + 4 + right.size) := by
    rw [differ.size]
    exact differ.extract_eq (.inr (Nat.le_refl _))
  rw [cut left, cut right, crc32_fold_append, crc32_fold_append, crc32_fold_append, crc32_fold_append, before, behind,
    crc32_fold_toList _ (right.extract (start + 4) _), crc32_fold_toList _ (right.extract (start + 4) _)] at same
  have middle := foldl_step_inj _ same
  simp only [crc32_fold_toList] at middle
  have window : left.extract start (start + 4) = right.extract start (start + 4) := by
    have short : (left.extract start (start + 4)).size ≤ 4 := by
      rw [ByteArray.size_extract]
      omega
    have length (bytes : ByteArray) : bytes.data.toList.length = bytes.size := by simp
    refine ByteArray.ext (Array.toList_inj.mp (eq_of_foldl_step ?_ ?_ middle))
    · rw [length, length, (differ.extract start (start + 4)).size]
    · rwa [length]
  rw [cut left, cut right, before, behind, window]

end Checksum

end BlockImage
