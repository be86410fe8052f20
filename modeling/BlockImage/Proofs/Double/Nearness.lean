import Mathlib.Algebra.Order.Field.Power
import Mathlib.Data.Rat.Cast.Order
import Mathlib.Tactic.FieldSimp
import Mathlib.Tactic.Linarith
import Mathlib.Tactic.Positivity
import Mathlib.Tactic.Ring

/-!
# Numbers that are a few roundings apart

One rounding changes a positive number by no more than a factor. Sums and quotients of numbers that are so many roundings
apart are some more roundings apart, and none of this depends on how rounding is done.
-/
namespace BlockImage.Double

/-- One rounding changes a number by no more than this factor. -/
def slack : ℚ := 1 + 1 / 2 ^ 52

theorem one_le_slack : 1 ≤ slack := by norm_num [slack]

theorem slack_pow_pos (roundings : Nat) : 0 < slack ^ roundings := pow_pos (one_pos.trans_le one_le_slack) roundings

theorem slack_pow_le {roundings : Nat} (few : roundings ≤ 20) : slack ^ roundings ≤ 2 := by
  calc slack ^ roundings ≤ slack ^ 20 := pow_le_pow_right₀ one_le_slack few
    _ ≤ 2 := by norm_num [slack]

theorem two_zpow_pos (exponent : Int) : (0 : ℚ) < 2 ^ exponent := zpow_pos (by norm_num) exponent

theorem two_zpow_mono {low high : Int} (ordered : low ≤ high) : (2 : ℚ) ^ low ≤ 2 ^ high :=
  zpow_le_zpow_right₀ (by norm_num) ordered

theorem le_of_two_zpow_le {low high : Int} (ordered : (2 : ℚ) ^ low ≤ 2 ^ high) : low ≤ high :=
  (zpow_le_zpow_iff_right₀ (by norm_num : (1 : ℚ) < 2)).mp ordered

/-! ### Nearness -/

/-- Two numbers that so many roundings may lead from one to the other. -/
structure Near (roundings : Nat) (number other : ℚ) : Prop where
  below : number ≤ slack ^ roundings * other
  above : other ≤ slack ^ roundings * number

namespace Near

variable {first second : Nat} {number other number' other' : ℚ}

theorem refl (number : ℚ) : Near 0 number number := ⟨by rw [pow_zero, one_mul], by rw [pow_zero, one_mul]⟩

theorem symm (near : Near first number other) : Near first other number := ⟨near.above, near.below⟩

theorem trans (near : Near first number number') (near' : Near second number' other) :
    Near (first + second) number other := by
  constructor
  · calc number ≤ slack ^ first * number' := near.below
      _ ≤ slack ^ first * (slack ^ second * other) := mul_le_mul_of_nonneg_left near'.below (slack_pow_pos first).le
      _ = slack ^ (first + second) * other := by rw [pow_add, mul_assoc]
  · calc other ≤ slack ^ second * number' := near'.above
      _ ≤ slack ^ second * (slack ^ first * number) := mul_le_mul_of_nonneg_left near.above (slack_pow_pos second).le
      _ = slack ^ (first + second) * number := by rw [pow_add, mul_left_comm, mul_assoc]

theorem add (near : Near first number other) (near' : Near first number' other') :
    Near first (number + number') (other + other') := by
  constructor
  · rw [mul_add]
    exact add_le_add near.below near'.below
  · rw [mul_add]
    exact add_le_add near.above near'.above

/-- A quotient of two numbers is below the quotient of two others by as many roundings as there are in both. -/
theorem div_below (positive : 0 < other) (positive' : 0 < number') (positive'' : 0 < other')
    (near : Near first number other) (near' : Near second number' other') :
    number / number' ≤ slack ^ (first + second) * (other / other') := by
  rw [div_le_iff₀ positive', pow_add]
  calc number ≤ slack ^ first * other := near.below
    _ = slack ^ first * (other / other') * other' := by field_simp
    _ ≤ slack ^ first * (other / other') * (slack ^ second * number') := by
      refine mul_le_mul_of_nonneg_left near'.above (mul_nonneg (slack_pow_pos first).le ?_)
      exact (div_pos positive positive'').le
    _ = slack ^ first * slack ^ second * (other / other') * number' := by ring

theorem positive (near : Near first number other) (some : 0 < number) : 0 < other := by
  -- Otherwise the positive number would be bounded by one that is not.
  by_contra none
  have := near.below.trans (mul_nonpos_of_nonneg_of_nonpos (slack_pow_pos first).le (not_lt.mp none))
  exact absurd some (not_lt.mpr this)

theorem div (some : 0 < number) (some' : 0 < number') (near : Near first number other)
    (near' : Near second number' other') : Near (first + second) (number / number') (other / other') :=
  ⟨div_below (near.positive some) some' (near'.positive some') near near',
    div_below some (near'.positive some') some' near.symm near'.symm⟩

theorem mono (some : 0 < number) (near : Near first number other) (more : first ≤ second) :
    Near second number other := by
  have wider := pow_le_pow_right₀ one_le_slack more
  exact ⟨near.below.trans (mul_le_mul_of_nonneg_right wider (near.positive some).le),
    near.above.trans (mul_le_mul_of_nonneg_right wider some.le)⟩

end Near

/-! ### Ranges -/

/-- Numbers between two powers of two. -/
structure Within (bits : Nat) (number : ℚ) : Prop where
  above : (2 : ℚ) ^ (-bits : Int) ≤ number
  below : number ≤ 2 ^ (bits : Int)

namespace Within

variable {bits bits' : Nat} {number other : ℚ}

theorem positive (within : Within bits number) : 0 < number := (two_zpow_pos _).trans_le within.above

theorem mono (within : Within bits number) (wider : bits ≤ bits') : Within bits' number :=
  ⟨(two_zpow_mono (by omega)).trans within.above, within.below.trans (two_zpow_mono (by omega))⟩

theorem natCast {whole : Nat} (some : 0 < whole) (small : whole ≤ 2 ^ bits) : Within bits whole := by
  constructor
  · calc (2 : ℚ) ^ (-bits : Int) ≤ 2 ^ (0 : Int) := two_zpow_mono (by omega)
      _ ≤ whole := by rw [zpow_zero]; exact_mod_cast some
  · exact_mod_cast small

theorem div (within : Within bits number) (within' : Within bits' other) : Within (bits + bits') (number / other) := by
  have positive := within.positive
  have positive' := within'.positive
  constructor
  · rw [le_div_iff₀ positive']
    calc (2 : ℚ) ^ (-(bits + bits' : Nat) : Int) * other ≤ 2 ^ (-(bits + bits' : Nat) : Int) * 2 ^ (bits' : Int) :=
          mul_le_mul_of_nonneg_left within'.below (two_zpow_pos _).le
      _ = 2 ^ (-bits : Int) := by
        rw [← zpow_add₀ (by norm_num)]
        congr 1
        omega
      _ ≤ number := within.above
  · rw [div_le_iff₀ positive']
    calc number ≤ 2 ^ (bits : Int) := within.below
      _ = 2 ^ ((bits + bits' : Nat) : Int) * 2 ^ (-bits' : Int) := by
        rw [← zpow_add₀ (by norm_num)]
        congr 1
        omega
      _ ≤ 2 ^ ((bits + bits' : Nat) : Int) * other := mul_le_mul_of_nonneg_left within'.above (two_zpow_pos _).le

/-- What is a few roundings away from a number needs no more than one more bit. -/
theorem near {roundings : Nat} (within : Within bits number) (near : Near roundings number other)
    (few : roundings ≤ 20) : Within (bits + 1) other := by
  have twice := slack_pow_le few
  have below := near.below.trans (mul_le_mul_of_nonneg_right twice (near.positive within.positive).le)
  have above := near.above.trans (mul_le_mul_of_nonneg_right twice within.positive.le)
  constructor
  · have half : (2 : ℚ) ^ (-(bits + 1 : Nat) : Int) * 2 = 2 ^ (-bits : Int) := by
      rw [← zpow_add_one₀ (by norm_num)]
      congr 1
      omega
    have := within.above
    linarith
  · have twice : (2 : ℚ) ^ ((bits + 1 : Nat) : Int) = 2 ^ (bits : Int) * 2 := by
      rw [← zpow_add_one₀ (by norm_num)]
      congr 1
    have := within.below
    linarith

end Within

end BlockImage.Double
