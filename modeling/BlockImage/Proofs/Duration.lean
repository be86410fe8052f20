import BlockImage.Proofs.Double

/-!
# Lengths of time as doubles

Seconds are a double that three roundings may have led to from the quotient of nanoseconds. Back from a double, what cannot
be told is whether a length of time whose seconds are next to the last one still fits.
-/
namespace BlockImage.Duration

open Double

variable {nanos significand roundings : Nat} {exponent : Int} {double : Float} {number : ℚ}

theorem normal_billion : Normal 1e9 (10 ^ 9 * 2 ^ 23) (-23) :=
  ⟨by decide, by decide, by decide, by decide, by decide⟩

theorem value_billion : value (10 ^ 9 * 2 ^ 23) (-23) = nanosPerSecond := by
  norm_num [value, nanosPerSecond]

/-- A billion is a double. -/
theorem close_billion : Close 0 1e9 nanosPerSecond :=
  ⟨_, _, normal_billion, value_billion ▸ Near.refl _⟩

theorem within_billion : Within 32 nanosPerSecond :=
  Within.natCast (by decide) (by decide)

/-- The nanoseconds of a second, as a double of seconds. -/
theorem close_fraction (some : 0 < nanos) (inside : nanos < nanosPerSecond) :
    Close 2 ((UInt64.ofNat nanos).toFloat / 1e9) (nanos / nanosPerSecond) := by
  have small : nanos < UInt64.size := Nat.lt_trans inside (by decide)
  have within : Within 32 nanos := Within.natCast some (Nat.le_trans inside.le (by decide))
  exact (close_toFloat some small).div close_billion (by decide) (within.mono (by decide))
    (within_billion.mono (by decide))

theorem within_seconds (some : 0 < nanos) (fits : nanos < UInt64.size * nanosPerSecond) :
    Within 128 (nanos / nanosPerSecond) := by
  have within : Within 96 nanos := Within.natCast some (Nat.le_trans fits.le (by decide))
  exact within.div within_billion

/-- Three roundings lead from nanoseconds to the double of their seconds: one for the whole seconds, two for the fraction at
the same time, and one for the sum. -/
theorem close_toSeconds (some : 0 < nanos) (fits : nanos < UInt64.size * nanosPerSecond) :
    Close 3 (toSeconds nanos) (nanos / nanosPerSecond) := by
  have within := within_seconds some fits
  have small : nanos / nanosPerSecond < UInt64.size := Nat.div_lt_of_lt_mul (Nat.mul_comm .. ▸ fits)
  have inside : nanos % nanosPerSecond < nanosPerSecond := Nat.mod_lt nanos (by decide)
  have unit : (nanosPerSecond : ℚ) ≠ 0 := within_billion.positive.ne'
  have split : (nanos / nanosPerSecond : ℚ) =
      (nanos / nanosPerSecond : Nat) + (nanos % nanosPerSecond : Nat) / nanosPerSecond := by
    rw [div_eq_iff unit, add_mul, div_mul_cancel₀ _ unit]
    exact_mod_cast (Nat.div_add_mod' nanos nanosPerSecond).symm
  rw [toSeconds]
  rw [split] at within ⊢
  -- A part that is zero is a double itself, and adding it rounds nothing.
  rcases Nat.eq_zero_or_pos (nanos % nanosPerSecond) with exact | part
  · have more : 0 < nanos / nanosPerSecond := by
      have := Nat.div_add_mod nanos nanosPerSecond
      rw [exact] at this
      exact Nat.div_pos (Nat.le_of_dvd some (Nat.dvd_of_mod_eq_zero exact)) (by decide)
    rw [exact, toFloat_zero, normal_billion.zero_div, Nat.cast_zero, zero_div, add_zero]
    exact (close_toFloat more small).add_zero.mono (by exact_mod_cast more) (by decide)
  have fraction := close_fraction part inside
  rcases Nat.eq_zero_or_pos (nanos / nanosPerSecond) with short | more
  · rw [short, toFloat_zero, Nat.cast_zero, zero_add]
    exact fraction.zero_add.mono (div_pos (by exact_mod_cast part) within_billion.positive) (by decide)
  · have seconds := (close_toFloat more small).mono (by exact_mod_cast more) (by decide : 1 ≤ 2)
    exact seconds.add fraction (by decide) (within.mono (by decide))

/-! ### Back to nanoseconds -/

/-- Rounding a quotient to a whole number changes it by less than one. -/
theorem roundQuotient_bounds (numerator : Nat) {denominator : Nat} (some : 0 < denominator) :
    Decimal.roundQuotient numerator denominator * denominator ≤ numerator + denominator ∧
      numerator < (Decimal.roundQuotient numerator denominator + 1) * denominator := by
  have rest := Nat.mod_lt numerator some
  have whole := Nat.div_add_mod' numerator denominator
  unfold Decimal.roundQuotient
  dsimp only
  split
  next up =>
    simp only [Nat.add_mul, Nat.one_mul]
    omega
  next down =>
    simp only [Nat.add_mul, Nat.one_mul]
    omega

/-- What a normal double of seconds is in nanoseconds. -/
theorem ofSeconds?_eq (normal : Normal double significand exponent) :
    ∃ nanos : Nat, nanos ≤ value significand exponent * nanosPerSecond + 1 ∧
      value significand exponent * nanosPerSecond < nanos + 1 ∧
      ofSeconds? double = if UInt64.size * nanosPerSecond ≤ nanos then none else some nanos := by
  rw [ofSeconds?, normal.binaryParts?_eq, Option.bind_eq_bind, Option.bind_some]
  -- Only at a negative exponent is anything cut off.
  cases exponent with
  | ofNat power =>
    have whole : value significand (.ofNat power) * nanosPerSecond =
        (significand * nanosPerSecond * 1 <<< power : Nat) := by
      rw [value, Int.ofNat_eq_natCast, zpow_natCast, Nat.one_shiftLeft]
      push_cast
      ring
    refine ⟨significand * nanosPerSecond * 1 <<< power, ?_, ?_, rfl⟩
    · rw [whole]
      exact (lt_add_one _).le
    · rw [whole]
      exact lt_add_one _
  | negSucc power =>
    have some : 0 < 1 <<< (power + 1) := by
      rw [Nat.one_shiftLeft]
      exact Nat.two_pow_pos _
    have unit : (0 : ℚ) < (1 <<< (power + 1) : Nat) := by exact_mod_cast some
    have quotient : value significand (.negSucc power) * nanosPerSecond =
        (significand * nanosPerSecond : Nat) / (1 <<< (power + 1) : Nat) := by
      rw [value, zpow_negSucc, Nat.one_shiftLeft]
      push_cast
      ring
    obtain ⟨above, below⟩ := roundQuotient_bounds (significand * nanosPerSecond) some
    refine ⟨Decimal.roundQuotient (significand * nanosPerSecond) (1 <<< (power + 1)), ?_, ?_, rfl⟩
    · rw [quotient, div_add_one unit.ne', le_div_iff₀ unit]
      exact_mod_cast above
    · rw [quotient, div_lt_iff₀ unit]
      exact_mod_cast below

/-- Seconds that even so many roundings cannot bring below the limit do not fit. -/
theorem ofSeconds?_of_large (close : Close roundings double number) (large : slack ^ roundings * UInt64.size ≤ number) :
    ofSeconds? double = none := by
  obtain ⟨significand, exponent, normal, near⟩ := close
  obtain ⟨nanos, -, below, eq⟩ := ofSeconds?_eq normal
  have reaches : (UInt64.size : ℚ) ≤ value significand exponent :=
    le_of_mul_le_mul_left (large.trans near.below) (slack_pow_pos roundings)
  have whole : UInt64.size * nanosPerSecond < nanos + 1 := by
    have := (mul_le_mul_of_nonneg_right reaches within_billion.positive.le).trans_lt below
    exact_mod_cast this
  rw [eq, if_pos (by omega)]

/-- Seconds that so many roundings leave one below the limit fit. -/
theorem ofSeconds?_of_small (close : Close roundings double number)
    (small : slack ^ roundings * number ≤ UInt64.size - 1) : ∃ nanos, ofSeconds? double = some nanos := by
  obtain ⟨significand, exponent, normal, near⟩ := close
  obtain ⟨nanos, above, -, eq⟩ := ofSeconds?_eq normal
  refine ⟨nanos, eq.trans (if_neg ?_)⟩
  have reaches := mul_le_mul_of_nonneg_right (near.above.trans small) within_billion.positive.le
  have whole : (nanos + nanosPerSecond : ℚ) ≤ UInt64.size * nanosPerSecond + 1 := by linarith
  have whole : nanos + nanosPerSecond ≤ UInt64.size * nanosPerSecond + 1 := by exact_mod_cast whole
  have : 1 < nanosPerSecond := by decide
  omega

end BlockImage.Duration
