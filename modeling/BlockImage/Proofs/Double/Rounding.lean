import Mathlib
import BlockImage.Duration
import BlockImage.Proofs.Double.Nearness

/-!
# How doubles are rounded

Doubles are numbers in the logic: a significand of 53 bits and a binary exponent, packed into 64 bits. Every operation
gives a mantissa that is next to its exact result, and rounds it. Here rounding is followed for positive numbers that are
far from the ends of what doubles can tell apart: what comes out is a normal double, whose value is that of the exact
result up to the factor `slack`.
-/
namespace BlockImage.Double

open Float.Model (UnpackedFloat Format totalExponent)
open Float.Model.UnpackedFloat

/-! ### Normal doubles -/

/-- The positive normal double with a significand and an exponent. -/
structure Normal (double : Float) (significand : Nat) (exponent : Int) : Prop where
  wide : 2 ^ 52 ≤ significand
  narrow : significand < 2 ^ 53
  low : -1074 ≤ exponent
  high : exponent ≤ 971
  bits : double.toBits.toNat = (exponent + 1075).toNat * 2 ^ 52 + (significand - 2 ^ 52)

theorem normal_pack {significand : Nat} {exponent : Int} (positive : 0 < significand) (wide : 2 ^ 52 ≤ significand)
    (narrow : significand < 2 ^ 53) (low : -1074 ≤ exponent) (high : exponent ≤ 971) :
    Normal (.ofModel (.pack (.finite .positive significand exponent positive))) significand exponent := by
  refine ⟨wide, narrow, low, high, ?_⟩
  have bits : significand.log2 = 52 := (Nat.log2_eq_iff (by omega)).mpr ⟨wide, narrow⟩
  have biased : (exponent + (Format.binary64.exponentBias : Nat) +
      (Format.binary64.mantissaBitsWithoutImplicit : Nat)).toNat = (exponent + 1075).toNat := by
    change (exponent + 1023 + 52).toNat = _
    omega
  have fraction : significand % 2 ^ 52 = significand - 2 ^ 52 := by omega
  have small : (exponent + 1075).toNat % 2 ^ 11 = (exponent + 1075).toNat := Nat.mod_eq_of_lt (by omega)
  change (UInt64.ofBitVec (pack Format.binary64 (.finite .positive significand exponent positive))).toNat = _
  rw [pack]
  simp only [biased]
  rw [if_neg (by simp only [Nat.not_le]; omega), if_pos (by rw [bits]; rfl)]
  simp only [packComponents, Sign.toBitVec, UInt64.toNat_ofBitVec, BitVec.toNat_append, BitVec.toNat_ofNat]
  rw [fraction, small, Nat.zero_mod, Nat.zero_shiftLeft, Nat.zero_or,
    ← Nat.shiftLeft_add_eq_or_of_lt (by omega : significand - 2 ^ 52 < 2 ^ 52), Nat.shiftLeft_eq]

/-- A word is taken apart into the significand and the exponent that it was made of. -/
theorem unpack_word {word : BitVec 64} {significand : Nat} {exponent : Int} (positive : 0 < significand)
    (wide : 2 ^ 52 ≤ significand) (narrow : significand < 2 ^ 53) (low : -1074 ≤ exponent) (high : exponent ≤ 971)
    (bits : word.toNat = (exponent + 1075).toNat * 2 ^ 52 + (significand - 2 ^ 52)) :
    unpack Format.binary64 word = .finite .positive significand exponent positive := by
  -- The fields of the word are digits of the number that it is.
  have stored : (@unpackExponent Format.binary64 word).toNat = (exponent + 1075).toNat := by
    rw [unpackExponent_def, BitVec.extractLsb'_toNat, bits, Nat.shiftRight_eq_div_pow]
    change _ / 2 ^ 52 % 2 ^ 11 = _
    omega
  have fraction : (@unpackMantissa Format.binary64 word).toNat = significand - 2 ^ 52 := by
    rw [unpackMantissa_def, BitVec.extractLsb'_toNat, bits, Nat.shiftRight_eq_div_pow]
    change _ / 2 ^ 0 % 2 ^ 52 = _
    omega
  have sign : @unpackSign Format.binary64 word = 0#1 := by
    apply BitVec.eq_of_toNat_eq
    rw [unpackSign_def, BitVec.extractLsb'_toNat, bits, Nat.shiftRight_eq_div_pow]
    change _ / 2 ^ 63 % 2 ^ 1 = 0
    omega
  -- The exponent is neither that of infinity nor that of numbers without a leading bit.
  have finite : @unpackExponent Format.binary64 word ≠ -1#11 := by
    intro all
    rw [all] at stored
    change 2047 = _ at stored
    omega
  have normal : @unpackExponent Format.binary64 word ≠ 0#11 := by
    intro none
    rw [none] at stored
    change 0 = _ at stored
    omega
  have whole : (1#1 ++ @unpackMantissa Format.binary64 word).toNat = significand := by
    rw [BitVec.toNat_append, fraction]
    change 1 <<< 52 ||| (significand - 2 ^ 52) = significand
    rw [← Nat.shiftLeft_add_eq_or_of_lt (by omega), Nat.shiftLeft_eq]
    omega
  have place : ((@unpackExponent Format.binary64 word).toNat : Int) -
      ((Format.binary64.exponentBias : Nat) + (Format.binary64.mantissaBitsWithoutImplicit : Nat)) = exponent := by
    rw [stored]
    change _ - (1023 + 52) = _
    omega
  rw [unpack]
  simp only [sign]
  rw [if_neg finite, if_neg normal]
  simp only [whole, place]
  rfl

namespace Normal

variable {double : Float} {significand : Nat} {exponent : Int}

theorem positive (normal : Normal double significand exponent) : 0 < significand :=
  Nat.lt_of_lt_of_le (by decide) normal.wide

theorem log2_eq (normal : Normal double significand exponent) : significand.log2 = 52 :=
  (Nat.log2_eq_iff (Nat.ne_of_gt normal.positive)).mpr ⟨normal.wide, normal.narrow⟩

theorem unpack (normal : Normal double significand exponent) :
    double.toModel.unpack = .finite .positive significand exponent normal.positive :=
  unpack_word normal.positive normal.wide normal.narrow normal.low normal.high normal.bits

theorem binaryParts?_eq (normal : Normal double significand exponent) :
    Duration.binaryParts? double = some (significand, exponent) := by
  obtain ⟨wide, narrow, low, high, bits⟩ := normal
  have shift : (1 <<< 52 : Nat) = 2 ^ 52 := by decide
  have biased : ((exponent + 1075).toNat * 2 ^ 52 + (significand - 2 ^ 52)) / 2 ^ 52 = (exponent + 1075).toNat := by
    omega
  have fraction : ((exponent + 1075).toNat * 2 ^ 52 + (significand - 2 ^ 52)) % 2 ^ 52 = significand - 2 ^ 52 := by
    omega
  simp only [Duration.binaryParts?, bits, shift, biased, fraction]
  rw [if_neg (by omega), if_neg (by omega)]
  refine congrArg some (Prod.ext ?_ ?_)
  · change 2 ^ 52 + (significand - 2 ^ 52) = significand
    omega
  · change ((exponent + 1075).toNat : Int) - 1075 = exponent
    omega

theorem zero_lt (normal : Normal double significand exponent) : 0 < double := by
  have zero : (0 : Float).toModel.unpack = .zero .positive := rfl
  refine decide_eq_true ?_
  change ((0 : Float).toModel.unpack.compare double.toModel.unpack == some .lt) = true
  rw [zero, normal.unpack]
  rfl

end Normal

/-! ### Shifting and rounding a mantissa -/

theorem mantissa_shift (extended : ExtendedMantissa) (count : Nat) :
    (extended >>> count).mantissa = extended.mantissa / 2 ^ count := by
  change (Nat.repeat ExtendedMantissa.shiftRightOne count extended).mantissa = _
  induction count with
  | zero =>
    rw [Nat.pow_zero, Nat.div_one]
    rfl
  | succ count ih =>
    rw [Nat.pow_succ, ← Nat.div_div_eq_div_mul, ← ih]
    rfl

theorem mantissa_ofMantissaAndAccuracy (mantissa : Nat) (accuracy : Accuracy) :
    (ExtendedMantissa.ofMantissaAndAccuracy mantissa accuracy).mantissa = mantissa := by
  unfold ExtendedMantissa.ofMantissaAndAccuracy
  split <;> rfl

/-- Whatever is known of its accuracy, a mantissa stays as it is or goes up by one. -/
theorem roundedMantissa_bounds (extended : ExtendedMantissa) :
    extended.mantissa ≤ extended.roundedMantissa ∧ extended.roundedMantissa ≤ extended.mantissa + 1 := by
  unfold ExtendedMantissa.roundedMantissa Accuracy.roundToNearestEven
  split <;> omega

theorem targetExponent_eq (total : Int) : Format.binary64.targetExponent total = max (total - 53) (-1074) := rfl

/-- A mantissa of at least 53 bits is shifted until it has 53 of them. -/
theorem shiftToTargetExponent_eq {mantissa : Nat} {exponent : Int} (accuracy : Accuracy) {count : Nat}
    (bits : mantissa.log2 = 52 + count) (low : -1074 ≤ exponent + count) :
    shiftToTargetExponent Format.binary64 mantissa exponent accuracy =
      (ExtendedMantissa.ofMantissaAndAccuracy mantissa accuracy >>> count, exponent + count) := by
  have shift : (max (totalExponent mantissa exponent - 53) (-1074) - exponent).toNat = count := by
    rw [totalExponent, bits]
    omega
  rw [shiftToTargetExponent, shiftToExponent, targetExponent_eq, shift]

/-- What a shifted mantissa stands for. -/
def finish (shifted : ExtendedMantissa × Int) : UnpackedFloat :=
  if zero : shifted.1.mantissa = 0 then .zero .positive
  else .finite .positive shifted.1.mantissa shifted.2 (Nat.pos_of_ne_zero zero)

theorem finish_eq {shifted : ExtendedMantissa × Int} {significand : Nat} {exponent : Int} (positive : 0 < significand)
    (mantissa : shifted.1.mantissa = significand) (place : shifted.2 = exponent) :
    finish shifted = .finite .positive significand exponent positive := by
  subst mantissa place
  exact dif_neg (Nat.ne_of_gt positive)

theorem roundWithAccuracy_eq_finish {mantissa : Nat} {exponent : Int} (accuracy : Accuracy) {count : Nat}
    (bits : mantissa.log2 = 52 + count) (low : -1074 ≤ exponent + count) :
    roundWithAccuracy Format.binary64 .positive mantissa exponent accuracy =
      finish (shiftToTargetExponent Format.binary64
        (ExtendedMantissa.ofMantissaAndAccuracy mantissa accuracy >>> count).roundedMantissa (exponent + count)
          .exact) := by
  rw [roundWithAccuracy, shiftToTargetExponent_eq accuracy bits low]
  rfl

/-- A mantissa that begins with 53 bits is between two numbers of so many bits, once what follows them is cut off. -/
theorem cut_bounds {mantissa count : Nat} (bits : mantissa.log2 = 52 + count) :
    2 ^ 52 ≤ mantissa / 2 ^ count ∧ mantissa / 2 ^ count < 2 ^ 53 := by
  have some : mantissa ≠ 0 := by
    rintro rfl
    rw [Nat.log2_zero] at bits
    omega
  obtain ⟨wide, narrow⟩ := (Nat.log2_eq_iff some).mp bits
  constructor
  · rw [Nat.le_div_iff_mul_le (Nat.two_pow_pos count), ← Nat.pow_add]
    exact wide
  · rw [Nat.div_lt_iff_lt_mul (Nat.two_pow_pos count), ← Nat.pow_add]
    exact Nat.lt_of_lt_of_eq narrow (congrArg (2 ^ ·) (by omega))

/-- Of a mantissa of at least 53 bits rounding leaves the first 53, or the number above. -/
theorem roundWithAccuracy_eq {mantissa : Nat} {exponent : Int} (accuracy : Accuracy) {count : Nat}
    (bits : mantissa.log2 = 52 + count) (low : -1074 ≤ exponent + count) :
    ∃ rounded : Nat, mantissa / 2 ^ count ≤ rounded ∧ rounded ≤ mantissa / 2 ^ count + 1 ∧
      ∃ (significand : Nat) (more : Nat) (positive : 0 < significand), 2 ^ 52 ≤ significand ∧ significand < 2 ^ 53 ∧
        more ≤ 1 ∧ significand * 2 ^ more = rounded ∧
        roundWithAccuracy Format.binary64 .positive mantissa exponent accuracy =
          .finite .positive significand (exponent + count + more) positive := by
  let shifted := ExtendedMantissa.ofMantissaAndAccuracy mantissa accuracy >>> count
  have kept : shifted.mantissa = mantissa / 2 ^ count := by
    rw [mantissa_shift, mantissa_ofMantissaAndAccuracy]
  obtain ⟨above, below⟩ := roundedMantissa_bounds shifted
  rw [kept] at above below
  obtain ⟨least, most⟩ := cut_bounds bits
  refine ⟨shifted.roundedMantissa, above, below, ?_⟩
  rw [roundWithAccuracy_eq_finish accuracy bits low]
  change ∃ significand more positive, _ ∧ _ ∧ _ ∧ _ ∧
    finish (shiftToTargetExponent Format.binary64 shifted.roundedMantissa _ _) = _
  generalize shifted.roundedMantissa = rounded at above below ⊢
  -- The number above may be the first one with another bit, and is shifted once more then.
  by_cases full : rounded = 2 ^ 53
  · subst full
    have bits : (2 ^ 53 : Nat).log2 = 52 + 1 := by decide
    refine ⟨2 ^ 52, 1, by decide, by decide, by decide, by decide, by decide, ?_⟩
    rw [shiftToTargetExponent_eq .exact bits (by omega)]
    refine finish_eq _ ?_ rfl
    rw [mantissa_shift]
    rfl
  · have bits : rounded.log2 = 52 + 0 := (Nat.log2_eq_iff (by omega)).mpr ⟨by omega, by omega⟩
    have positive : 0 < rounded := by omega
    refine ⟨rounded, 0, positive, by omega, by omega, by decide, by omega, ?_⟩
    rw [shiftToTargetExponent_eq .exact bits (by omega)]
    exact finish_eq positive rfl rfl

/-! ### Values -/

/-- The value of a significand at a binary exponent. -/
def value (significand : Nat) (exponent : Int) : ℚ := significand * 2 ^ exponent

/-- At a lower exponent a significand has more digits and the same value. -/
theorem value_shiftLeft (significand : Nat) {place exponent : Int} (low : place ≤ exponent) :
    value (significand <<< (exponent - place).toNat) place = value significand exponent := by
  obtain ⟨count, rfl⟩ := Int.exists_add_of_le low
  have shift : (place + count - place).toNat = count := by omega
  rw [value, value, shift, Nat.shiftLeft_eq, zpow_add₀ (by norm_num), zpow_natCast]
  push_cast
  ring

/-- A positive normal double that so many roundings may have led to from a number. -/
def Close (roundings : Nat) (double : Float) (number : ℚ) : Prop :=
  ∃ significand exponent, Normal double significand exponent ∧ Near roundings number (value significand exponent)

/-- A mantissa of 53 bits next to a number that is far from the ends of doubles has an exponent far from them. -/
theorem exponent_bounds {mantissa : Nat} {exponent : Int} {number : ℚ} (wide : 2 ^ 52 ≤ mantissa)
    (narrow : mantissa < 2 ^ 53) (below : mantissa * 2 ^ exponent ≤ number)
    (above : number ≤ (mantissa + 1) * 2 ^ exponent) (within : Within 900 number) :
    -1074 ≤ exponent ∧ exponent ≤ 900 := by
  have wide : (2 : ℚ) ^ (52 : Int) ≤ mantissa := by exact_mod_cast wide
  have narrow : (mantissa : ℚ) + 1 ≤ 2 ^ (53 : Int) := by exact_mod_cast narrow
  have unit := (two_zpow_pos exponent).le
  constructor
  · have reach : (2 : ℚ) ^ (-(900 : Nat) : Int) ≤ 2 ^ (53 + exponent) := by
      rw [zpow_add₀ (by norm_num)]
      exact within.above.trans (above.trans (mul_le_mul_of_nonneg_right narrow unit))
    have := le_of_two_zpow_le reach
    omega
  · have reach : (2 : ℚ) ^ (52 + exponent) ≤ 2 ^ ((900 : Nat) : Int) := by
      rw [zpow_add₀ (by norm_num)]
      exact (mul_le_mul_of_nonneg_right wide unit).trans (below.trans within.below)
    have := le_of_two_zpow_le reach
    omega

/-- A mantissa of at least 53 bits, rounded by whatever is said of its accuracy, gives a double that is one rounding away
from any number that the mantissa is next to. -/
theorem close_roundWithAccuracy {mantissa : Nat} {exponent : Int} (accuracy : Accuracy) {number : ℚ}
    (wide : 52 ≤ mantissa.log2) (below : mantissa * 2 ^ exponent ≤ number)
    (above : number ≤ (mantissa + 1) * 2 ^ exponent) (within : Within 900 number) :
    Close 1 (.ofModel (.pack (roundWithAccuracy Format.binary64 .positive mantissa exponent accuracy))) number := by
  obtain ⟨count, bits⟩ := Nat.exists_eq_add_of_le wide
  have unit : (2 : ℚ) ^ (exponent + count) = 2 ^ count * 2 ^ exponent := by
    rw [zpow_add₀ (by norm_num), zpow_natCast, mul_comm]
  obtain ⟨keptWide, keptNarrow⟩ := cut_bounds bits
  -- Cut to 53 bits the mantissa is still next to the number, with a larger unit.
  let kept := mantissa / 2 ^ count
  have below : (kept : ℚ) * 2 ^ (exponent + count) ≤ number := by
    have cut : kept * 2 ^ count ≤ mantissa := Nat.div_mul_le_self ..
    rw [unit, ← mul_assoc]
    refine le_trans (mul_le_mul_of_nonneg_right ?_ (two_zpow_pos exponent).le) below
    exact_mod_cast cut
  have above : number ≤ ((kept : ℚ) + 1) * 2 ^ (exponent + count) := by
    have cut : mantissa + 1 ≤ (kept + 1) * 2 ^ count :=
      (Nat.div_lt_iff_lt_mul (Nat.two_pow_pos count)).mp (Nat.lt_succ_self kept)
    rw [unit, ← mul_assoc]
    refine le_trans above (mul_le_mul_of_nonneg_right ?_ (two_zpow_pos exponent).le)
    exact_mod_cast cut
  obtain ⟨low, high⟩ := exponent_bounds keptWide keptNarrow below above within
  obtain ⟨rounded, atLeast, atMost, significand, more, positive, wide, narrow, few, same, rounds⟩ :=
    roundWithAccuracy_eq accuracy bits low
  have reached : value significand (exponent + count + more) = rounded * 2 ^ (exponent + count) := by
    rw [value, zpow_add₀ (by norm_num) (exponent + count) more, zpow_natCast, ← same]
    push_cast
    ring
  have atLeast : (kept : ℚ) ≤ rounded := by exact_mod_cast atLeast
  have atMost : (rounded : ℚ) ≤ kept + 1 := by exact_mod_cast atMost
  have keptWide : (2 : ℚ) ^ 52 ≤ kept := by exact_mod_cast keptWide
  refine ⟨significand, exponent + count + more, ?_, ?_, ?_⟩
  · rw [rounds]
    exact normal_pack positive wide narrow (by omega) (by omega)
  -- One unit of the last place is small beside what is kept.
  · rw [reached, pow_one]
    calc number ≤ (kept + 1) * 2 ^ (exponent + count) := above
      _ ≤ slack * rounded * 2 ^ (exponent + count) := by
        refine mul_le_mul_of_nonneg_right ?_ (two_zpow_pos _).le
        rw [slack]
        linarith
      _ = slack * (rounded * 2 ^ (exponent + count)) := mul_assoc ..
  · rw [reached, pow_one]
    calc rounded * 2 ^ (exponent + count) ≤ slack * kept * 2 ^ (exponent + count) := by
          refine mul_le_mul_of_nonneg_right ?_ (two_zpow_pos _).le
          rw [slack]
          linarith
      _ = slack * (kept * 2 ^ (exponent + count)) := mul_assoc ..
      _ ≤ slack * number := mul_le_mul_of_nonneg_left below (one_pos.trans_le one_le_slack).le

/-- A mantissa of any size is one rounding away from the double that it is rounded to. -/
theorem close_round {mantissa : Nat} {exponent : Int} (positive : 0 < mantissa)
    (within : Within 900 (value mantissa exponent)) :
    Close 1 (.ofModel (.pack (UnpackedFloat.round Format.binary64 .positive mantissa exponent))) (value mantissa exponent) := by
  obtain ⟨least, most⟩ := (Nat.log2_eq_iff (Nat.ne_of_gt positive)).mp (rfl : mantissa.log2 = mantissa.log2)
  have low : -1074 ≤ exponent + mantissa.log2 - 52 := by
    have reach : (2 : ℚ) ^ (-(900 : Nat) : Int) ≤ 2 ^ (mantissa.log2 + 1 + exponent) := by
      rw [zpow_add₀ (by norm_num)]
      refine within.above.trans (mul_le_mul_of_nonneg_right ?_ (two_zpow_pos exponent).le)
      exact_mod_cast most.le
    have := le_of_two_zpow_le reach
    omega
  -- The mantissa is brought to 53 bits first, which leaves the number alone.
  let target := max (totalExponent mantissa exponent - 53) (-1074)
  let place := min target exponent
  have target_eq : target = exponent + mantissa.log2 - 52 := by
    change max (mantissa.log2 + 1 + exponent - 53) (-1074) = _
    omega
  have shift : (exponent - target).toNat = (exponent - place).toNat := by omega
  have back : exponent - ((exponent - place).toNat : Int) = place := by omega
  have wide : 52 ≤ (mantissa <<< (exponent - place).toNat).log2 := by
    have some : 0 < mantissa * 2 ^ (exponent - place).toNat := by positivity
    rw [Nat.shiftLeft_eq, Nat.le_log2 (Nat.ne_of_gt some)]
    calc 2 ^ 52 ≤ 2 ^ (mantissa.log2 + (exponent - place).toNat) := Nat.pow_le_pow_right (by decide) (by omega)
      _ = 2 ^ mantissa.log2 * 2 ^ (exponent - place).toNat := Nat.pow_add ..
      _ ≤ mantissa * 2 ^ (exponent - place).toNat := Nat.mul_le_mul_right _ least
  have same := value_shiftLeft mantissa (Int.min_le_right target exponent)
  have rounds : UnpackedFloat.round Format.binary64 .positive mantissa exponent =
      roundWithAccuracy Format.binary64 .positive (mantissa <<< (exponent - place).toNat) place .exact := by
    rw [UnpackedFloat.round, targetExponent_eq, decreaseExponent, shift, back]
  rw [rounds]
  refine close_roundWithAccuracy .exact wide same.le ?_ within
  rw [← same]
  exact mul_le_mul_of_nonneg_right (by linarith) (two_zpow_pos _).le

end BlockImage.Double
