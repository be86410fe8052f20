import BlockImage.Proofs.Double.Rounding

/-!
# Arithmetic of doubles

A whole number of 64 bits is rounded once when it is converted, and so are sums and quotients of positive doubles. A double
that some roundings led to from a number can therefore be computed with as if it were that number, as long as the roundings
are counted.
-/
namespace BlockImage.Double

open Float.Model (UnpackedFloat Format totalExponent)
open Float.Model.UnpackedFloat

theorem normalize_eq {mantissa : Nat} (positive : 0 < mantissa) (exponent : Int) :
    UnpackedFloat.normalize Format.binary64 mantissa exponent .positive =
      UnpackedFloat.round Format.binary64 .positive mantissa exponent := by
  have greater : compare (mantissa : Int) 0 = .gt := by
    rw [compare_gt_iff_gt]
    omega
  rw [UnpackedFloat.normalize, greater]
  rfl

/-- A whole number of 64 bits that is not zero is rounded once. -/
theorem close_toFloat {number : Nat} (positive : 0 < number) (small : number < UInt64.size) :
    Close 1 (UInt64.ofNat number).toFloat number := by
  have kept : (UInt64.ofNat number).toNat = number := UInt64.toNat_ofNat_of_lt small
  have whole : value number 0 = number := by rw [value, zpow_zero, mul_one]
  have within : Within 900 (value number 0) := whole ▸ (Within.natCast positive small.le).mono (by decide : 64 ≤ 900)
  have rounded := close_round positive within
  rw [whole, ← normalize_eq positive] at rounded
  change Close 1
    (.ofModel (.pack (UnpackedFloat.normalize Format.binary64 (UInt64.ofNat number).toNat 0 .positive))) number
  rwa [kept]

/-! ### Zero -/

theorem unpack_zero : (0 : Float).toModel.unpack = .zero .positive := rfl

theorem not_zero_lt_zero : ¬ (0 : Float) < 0 := by decide

theorem toFloat_zero : (UInt64.ofNat 0).toFloat = 0 := rfl

/-! ### Sums and quotients of normal doubles -/

namespace Normal

variable {left right : Float} {first second : Nat} {exponent exponent' : Int}

theorem zero_add (normal : Normal left first exponent) : Normal (0 + left) first exponent := by
  have adds : 0 + left = .ofModel (.pack (.finite .positive first exponent normal.positive)) := by
    change Float.ofModel (.pack (add Format.binary64 (0 : Float).toModel.unpack left.toModel.unpack)) = _
    rw [normal.unpack, unpack_zero]
    rfl
  rw [adds]
  exact normal_pack normal.positive normal.wide normal.narrow normal.low normal.high

theorem add_zero (normal : Normal left first exponent) : Normal (left + 0) first exponent := by
  have adds : left + 0 = .ofModel (.pack (.finite .positive first exponent normal.positive)) := by
    change Float.ofModel (.pack (add Format.binary64 left.toModel.unpack (0 : Float).toModel.unpack)) = _
    rw [normal.unpack, unpack_zero]
    rfl
  rw [adds]
  exact normal_pack normal.positive normal.wide normal.narrow normal.low normal.high

theorem zero_div (normal : Normal left first exponent) : 0 / left = 0 := by
  change Float.ofModel (.pack (div Format.binary64 (0 : Float).toModel.unpack left.toModel.unpack)) = 0
  rw [normal.unpack, unpack_zero]
  rfl

/-- The sum of normal doubles is rounded once, where it is far from the ends of doubles. -/
theorem close_add (normal : Normal left first exponent) (normal' : Normal right second exponent')
    (within : Within 900 (value first exponent + value second exponent')) :
    Close 1 (left + right) (value first exponent + value second exponent') := by
  -- Both are brought to the lower exponent, where their significands can be added.
  let place := min exponent exponent'
  let brought := first <<< (exponent - place).toNat
  let brought' := second <<< (exponent' - place).toNat
  have sum : value (brought + brought') place = value first exponent + value second exponent' := by
    rw [← value_shiftLeft first (Int.min_le_left exponent exponent'),
      ← value_shiftLeft second (Int.min_le_right exponent exponent'), value, value, value, ← add_mul, Nat.cast_add]
  have positive : 0 < brought + brought' := by
    have some : 0 < first <<< (exponent - place).toNat := by
      have := normal.positive
      rw [Nat.shiftLeft_eq]
      positivity
    exact Nat.add_pos_left some _
  have adds : left + right =
      .ofModel (.pack (UnpackedFloat.round Format.binary64 .positive (brought + brought') place)) := by
    change Float.ofModel (.pack (add Format.binary64 left.toModel.unpack right.toModel.unpack)) = _
    rw [normal.unpack, normal'.unpack, ← normalize_eq positive]
    rfl
  rw [← sum] at within ⊢
  rw [adds]
  exact close_round positive within

/-- The quotient of normal doubles is rounded once, where it is far from the ends of doubles. -/
theorem close_div (normal : Normal left first exponent) (normal' : Normal right second exponent')
    (within : Within 900 (value first exponent / value second exponent')) :
    Close 1 (left / right) (value first exponent / value second exponent') := by
  have ⟨wide, narrow, _, _, _⟩ := normal
  have ⟨wide', narrow', _, _, _⟩ := normal'
  have some : (0 : ℚ) < second := by exact_mod_cast normal'.positive
  -- The first significand gets so many zeros that the whole quotient has at least 53 bits.
  let place := exponent - exponent' - 53
  have quotient : value first exponent / value second exponent' = (first * 2 ^ 53) / second * 2 ^ place := by
    have unit := two_zpow_pos exponent'
    have shift : (2 : ℚ) ^ (53 : Int) = 2 ^ 53 := by norm_num
    rw [value, value, zpow_sub₀ (by norm_num), zpow_sub₀ (by norm_num), shift]
    field_simp
  rw [quotient] at within ⊢
  have low : -1074 ≤ place := by
    have most : (first * 2 ^ 53 : ℚ) / second ≤ 2 ^ 54 := by
      rw [div_le_iff₀ some]
      have narrow : (first : ℚ) ≤ 2 ^ 53 := by exact_mod_cast narrow.le
      have wide' : (2 : ℚ) ^ 52 ≤ second := by exact_mod_cast wide'
      linarith
    have reach : (2 : ℚ) ^ (-(900 : Nat) : Int) ≤ 2 ^ (54 + place) := by
      rw [zpow_add₀ (by norm_num)]
      exact within.above.trans (mul_le_mul_of_nonneg_right (by exact_mod_cast most) (two_zpow_pos _).le)
    have := le_of_two_zpow_le reach
    omega
  have lowest : min (exponent - exponent')
      (max (totalExponent first exponent - totalExponent second exponent' - 53) (-1074)) = place := by
    rw [totalExponent, totalExponent, normal.log2_eq, normal'.log2_eq]
    omega
  have shift : (exponent - exponent' - place).toNat = 53 := by omega
  have divides : left / right = .ofModel (.pack (roundWithAccuracy Format.binary64 .positive ((first <<< 53) / second)
      place (accuracyOfFraction ((first <<< 53) % second) second))) := by
    change Float.ofModel (.pack (div Format.binary64 left.toModel.unpack right.toModel.unpack)) = _
    rw [normal.unpack, normal'.unpack, div, divCore, targetExponent_eq, lowest, shift]
    rfl
  rw [divides, Nat.shiftLeft_eq]
  refine close_roundWithAccuracy _ ?_ ?_ ?_ within
  · have most : 2 ^ 52 ≤ first * 2 ^ 53 / second := by
      rw [Nat.le_div_iff_mul_le normal'.positive]
      omega
    exact (Nat.le_log2 (by omega)).mpr most
  · refine mul_le_mul_of_nonneg_right ?_ (two_zpow_pos _).le
    rw [le_div_iff₀ some]
    exact_mod_cast Nat.div_mul_le_self (first * 2 ^ 53) second
  · refine mul_le_mul_of_nonneg_right ?_ (two_zpow_pos _).le
    rw [div_le_iff₀ some]
    exact_mod_cast ((Nat.div_lt_iff_lt_mul normal'.positive).mp (Nat.lt_succ_self (first * 2 ^ 53 / second))).le

end Normal

/-! ### Counting the roundings -/

namespace Close

variable {first second : Nat} {left right : Float} {number other : ℚ}

theorem zero_lt (close : Close first left number) : 0 < left := by
  obtain ⟨_, _, normal, _⟩ := close
  exact normal.zero_lt

theorem mono (some : 0 < number) (close : Close first left number) (more : first ≤ second) :
    Close second left number := by
  obtain ⟨_, _, normal, near⟩ := close
  exact ⟨_, _, normal, near.mono some more⟩

theorem trans (near : Near first number other) (close : Close second left other) :
    Close (first + second) left number := by
  obtain ⟨_, _, normal, near'⟩ := close
  exact ⟨_, _, normal, near.trans near'⟩

theorem zero_add (close : Close first left number) : Close first (0 + left) number := by
  obtain ⟨_, _, normal, near⟩ := close
  exact ⟨_, _, normal.zero_add, near⟩

theorem add_zero (close : Close first left number) : Close first (left + 0) number := by
  obtain ⟨_, _, normal, near⟩ := close
  exact ⟨_, _, normal.add_zero, near⟩

theorem add (close : Close first left number) (close' : Close first right other) (few : first ≤ 20)
    (within : Within 400 (number + other)) : Close (first + 1) (left + right) (number + other) := by
  obtain ⟨_, _, normal, near⟩ := close
  obtain ⟨_, _, normal', near'⟩ := close'
  have near := near.add near'
  exact trans near (normal.close_add normal' ((within.near near few).mono (by decide)))

theorem div (close : Close first left number) (close' : Close second right other) (few : first + second ≤ 20)
    (within : Within 400 number) (within' : Within 400 other) :
    Close (first + second + 1) (left / right) (number / other) := by
  obtain ⟨_, _, normal, near⟩ := close
  obtain ⟨_, _, normal', near'⟩ := close'
  have near := near.div within.positive within'.positive near'
  exact trans near (normal.close_div normal' (((within.div within').near near few).mono (by decide)))

end Close

end BlockImage.Double
