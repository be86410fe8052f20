import BlockImage.Bytes.LittleEndian
import BlockImage.Checksum
import BlockImage.Proofs.Bytes

/-!
# The register is linear

A shift step is linear in exclusive or and loses nothing, since the polynomial has its top bit set. So eight steps from
`register ^^^ byte` are what the table gives for the low byte, and up to four bytes can be taken in as one word.
-/
namespace BlockImage.Checksum

theorem ext_bits {left right : UInt32}
    (same : ∀ place < 32, left.toBitVec.getLsbD place = right.toBitVec.getLsbD place) : left = right :=
  UInt32.toBitVec_inj.mp (BitVec.eq_of_getLsbD_eq same)

private theorem low_bit (register : UInt32) : register &&& 1 = 0 ↔ register.toBitVec.getLsbD 0 = false := by
  have masked : (register &&& 1).toBitVec = BitVec.setWidth 32 (BitVec.ofBool (register.toBitVec.getLsbD 0)) := by
    rw [UInt32.toBitVec_and]
    exact BitVec.and_one_eq_setWidth_ofBool_getLsbD
  cases bit : register.toBitVec.getLsbD 0 <;> rw [bit] at masked
  · exact iff_of_true (UInt32.toBitVec_inj.mp (by rw [masked]; decide)) rfl
  · refine iff_of_false (fun zero => ?_) (by simp)
    rw [zero] at masked
    exact absurd masked (by decide)

private theorem shiftBit_bit (register : UInt32) (place : Nat) :
    (shiftBit register).toBitVec.getLsbD place =
      (register.toBitVec.getLsbD (place + 1) ^^ (register.toBitVec.getLsbD 0 && polynomial.toBitVec.getLsbD place)) := by
  unfold shiftBit
  cases bit : register.toBitVec.getLsbD 0
  · rw [if_pos ((low_bit register).mpr bit)]
    simp [Nat.add_comm]
  · rw [if_neg (by rw [low_bit, bit]; simp)]
    simp [Nat.add_comm]

theorem shiftBit_xor (left right : UInt32) : shiftBit (left ^^^ right) = shiftBit left ^^^ shiftBit right := by
  refine ext_bits fun place _ => ?_
  simp only [UInt32.toBitVec_xor, BitVec.getLsbD_xor, shiftBit_bit]
  cases left.toBitVec.getLsbD 0 <;> cases right.toBitVec.getLsbD 0 <;>
    cases left.toBitVec.getLsbD (place + 1) <;> cases right.toBitVec.getLsbD (place + 1) <;>
    cases polynomial.toBitVec.getLsbD place <;> rfl

theorem eq_zero_of_shiftBit {register : UInt32} (zero : shiftBit register = 0) : register = 0 := by
  have bits (place : Nat) : (shiftBit register).toBitVec.getLsbD place = false := by rw [zero]; simp
  simp only [shiftBit_bit] at bits
  -- The top bit of the polynomial shows whether it was added.
  have low : register.toBitVec.getLsbD 0 = false := by
    have top : (register.toBitVec.getLsbD 32 ^^
        (register.toBitVec.getLsbD 0 && polynomial.toBitVec.getLsbD 31)) = false := bits 31
    have beyond : register.toBitVec.getLsbD 32 = false := BitVec.getLsbD_of_ge _ _ (Nat.le_refl _)
    have leading : polynomial.toBitVec.getLsbD 31 = true := by decide
    rwa [beyond, leading, Bool.and_true, Bool.false_xor] at top
  refine ext_bits fun place _ => ?_
  cases place with
  | zero => rw [low]; rfl
  | succ place =>
    have bit := bits place
    rw [low, Bool.false_and, Bool.xor_false] at bit
    rw [bit, UInt32.toBitVec_zero, BitVec.getLsbD_zero]

/-! ### Several shift steps -/

def shift (count : Nat) (register : UInt32) : UInt32 := Nat.repeat shiftBit count register

theorem shift_succ (count : Nat) (register : UInt32) : shift (count + 1) register = shiftBit (shift count register) :=
  rfl

theorem shift_add (first second : Nat) (register : UInt32) :
    shift (first + second) register = shift second (shift first register) := by
  induction second with
  | zero => rfl
  | succ second ih => rw [← Nat.add_assoc, shift_succ, ih, shift_succ]

theorem shift_xor (count : Nat) (left right : UInt32) :
    shift count (left ^^^ right) = shift count left ^^^ shift count right := by
  induction count with
  | zero => rfl
  | succ count ih => rw [shift_succ, ih, shiftBit_xor]; rfl

theorem eq_zero_of_shift {count : Nat} {register : UInt32} (zero : shift count register = 0) : register = 0 := by
  induction count with
  | zero => exact zero
  | succ count ih => exact ih (eq_zero_of_shiftBit zero)

theorem shift_zero_eq (count : Nat) : shift count 0 = 0 := by
  induction count with
  | zero => rfl
  | succ count ih => rw [shift_succ, ih]; rfl

theorem shift_inj {count : Nat} {left right : UInt32} : shift count left = shift count right ↔ left = right := by
  refine ⟨fun same => UInt32.xor_eq_zero_iff.mp (@eq_zero_of_shift count _ ?_), fun same => by rw [same]⟩
  rw [shift_xor, same, UInt32.xor_self]

/-- A register whose low bits are clear only moves down. -/
theorem shift_bit_of_clear {count : Nat} {register : UInt32}
    (clear : ∀ place < count, register.toBitVec.getLsbD place = false) (place : Nat) :
    (shift count register).toBitVec.getLsbD place = register.toBitVec.getLsbD (place + count) := by
  induction count generalizing place with
  | zero => rfl
  | succ count ih =>
    -- The next step finds the low bit clear, so the polynomial is not added.
    have below := ih (fun place under => clear place (by omega))
    rw [shift_succ, shiftBit_bit, below, below, Nat.zero_add, clear count (by omega)]
    simp [Nat.add_assoc, Nat.add_comm 1]

/-! ### A byte at once -/

theorem bit_toUInt32 (byte : UInt8) (place : Nat) :
    byte.toUInt32.toBitVec.getLsbD place = byte.toNat.testBit place := by
  have width : byte.toUInt32.toBitVec = byte.toBitVec.setWidth 32 := rfl
  rw [width, BitVec.getLsbD_setWidth]
  by_cases inside : place < 32
  · simp [inside, BitVec.getLsbD]
  · simp [inside, Bytes.testBit_of_le byte (by omega : 8 ≤ place)]

private theorem bit_low (register : UInt32) (byte : UInt8) (place : Nat) :
    (register.toUInt8 ^^^ byte).toUInt32.toBitVec.getLsbD place =
      ((decide (place < 8) && register.toBitVec.getLsbD place) ^^ byte.toUInt32.toBitVec.getLsbD place) := by
  rw [bit_toUInt32, bit_toUInt32, UInt8.toNat_xor, Nat.testBit_xor, UInt32.toNat_toUInt8, Nat.testBit_mod_two_pow]
  rfl

/-- One byte is eight shift steps from the register with the byte in its low end. -/
theorem step_eq (register : UInt32) (byte : UInt8) : step register byte = shift 8 (register ^^^ byte.toUInt32) := by
  -- The table holds what the steps make of the low byte; the rest of the register moves down beside it.
  have looked : step register byte = shift 8 (register.toUInt8 ^^^ byte).toUInt32 ^^^ (register >>> 8) := by
    simp only [step, table, Vector.getElem_ofFn, UInt32.ofNat_uInt8ToNat]
    rfl
  -- What is left of the register beside its low byte has eight clear bits.
  have rest (place : Nat) :
      (register ^^^ byte.toUInt32 ^^^ (register.toUInt8 ^^^ byte).toUInt32).toBitVec.getLsbD place =
        (register.toBitVec.getLsbD place && !decide (place < 8)) := by
    rw [UInt32.toBitVec_xor, UInt32.toBitVec_xor, BitVec.getLsbD_xor, BitVec.getLsbD_xor, bit_low]
    cases register.toBitVec.getLsbD place <;> cases byte.toUInt32.toBitVec.getLsbD place <;>
      cases decide (place < 8) <;> rfl
  have high : shift 8 (register ^^^ byte.toUInt32 ^^^ (register.toUInt8 ^^^ byte).toUInt32) = register >>> 8 := by
    refine ext_bits fun place _ => ?_
    rw [shift_bit_of_clear (fun place under => by rw [rest]; simp [under]), rest]
    simp [Nat.add_comm]
  have whole : (register.toUInt8 ^^^ byte).toUInt32 ^^^
      (register ^^^ byte.toUInt32 ^^^ (register.toUInt8 ^^^ byte).toUInt32) = register ^^^ byte.toUInt32 := by
    rw [UInt32.xor_comm, UInt32.xor_assoc, UInt32.xor_self, UInt32.xor_zero]
  -- Both parts are eight shift steps, and shifting is linear.
  rw [looked, ← high, ← shift_xor, whole]

end BlockImage.Checksum
