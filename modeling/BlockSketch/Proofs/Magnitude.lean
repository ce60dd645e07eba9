import BlockSketch.Proofs.Radix
import Mathlib.Algebra.Order.Field.Power
import Mathlib.Data.Rat.Cast.Order

/-!
Which decimal numbers have a double near them. Rounding to 53 significant bits stays below a
power of two exactly if the number stays below the middle between that power and the double
before it: the middle itself is a tie, and goes to the power of two, which is even. So a number
is too large exactly from `2 ^ 1024 - 2 ^ 970` on (`Double.exists_ofDecimal?_iff`).
-/
namespace BlockSketch.Double

/-! ## Rounding below a bound -/

/-- Rounding stays below an even bound exactly if the fraction stays below the middle between
    the bound and its predecessor. -/
theorem roundDiv_lt_iff {numerator denominator bound : Nat} (positive : 0 < denominator)
    (even : bound % 2 = 0) :
    roundDiv numerator denominator < bound ↔ 2 * numerator + denominator < 2 * (denominator * bound) := by
  have split := Nat.div_add_mod numerator denominator
  have short := Nat.mod_lt numerator positive
  unfold roundDiv
  dsimp only
  generalize numerator / denominator = quotient at *
  generalize numerator % denominator = rest at *
  rcases Nat.lt_trichotomy (quotient + 1) bound with below | here | above
  · have room : denominator * (quotient + 2) ≤ denominator * bound := Nat.mul_le_mul_left _ below
    rw [Nat.mul_add] at room
    split_ifs <;> omega
  · subst here
    rw [Nat.mul_add]
    split_ifs <;> omega
  · have full : denominator * bound ≤ denominator * quotient := Nat.mul_le_mul_left _ (Nat.le_of_lt_succ above)
    split_ifs <;> omega

theorem div_le_roundDiv (numerator denominator : Nat) :
    numerator / denominator ≤ roundDiv numerator denominator := by
  unfold roundDiv
  dsimp only
  split_ifs <;> omega

/-- The same on a grid of multiples of a power of two. -/
theorem roundDiv_mul_lt_iff {numerator denominator spare top : Nat} (positive : 0 < denominator)
    (finer : spare < top) :
    roundDiv numerator (denominator * 2 ^ spare) * 2 ^ spare < 2 ^ top ↔
      2 * numerator + denominator * 2 ^ spare < 2 * (denominator * 2 ^ top) := by
  have parts : 2 ^ top = 2 ^ (top - spare) * 2 ^ spare := by
    rw [← Nat.pow_add, Nat.sub_add_cancel (Nat.le_of_lt finer)]
  have even : 2 ^ (top - spare) % 2 = 0 := by
    rw [← Nat.sub_add_cancel (Nat.sub_pos_of_lt finer), Nat.pow_succ]
    exact Nat.mul_mod_left _ 2
  have grid : 0 < denominator * 2 ^ spare := Nat.mul_pos positive (Nat.two_pow_pos spare)
  rw [parts, Nat.mul_lt_mul_right (Nat.two_pow_pos spare), roundDiv_lt_iff grid even]
  ring_nf

/-- Rounding to 53 significant bits stays below a power of two exactly if the fraction stays
    below the middle between that power and the last number before it. -/
theorem nearestUnits_lt_iff {numerator denominator top : Nat} (positive : 0 < denominator) (wide : 53 ≤ top) :
    nearestUnits numerator denominator < 2 ^ top ↔
      2 * numerator + denominator * 2 ^ (top - 53) < 2 * (denominator * 2 ^ top) := by
  change roundDiv numerator (denominator * 2 ^ ((numerator / denominator).log2 - 52)) *
    2 ^ ((numerator / denominator).log2 - 52) < 2 ^ top ↔ _
  have kept := div_le_roundDiv numerator (denominator * 2 ^ ((numerator / denominator).log2 - 52))
  rw [← Nat.div_div_eq_div_mul] at kept
  have least := Nat.mul_div_le numerator denominator
  have most := Nat.lt_mul_div_succ numerator positive
  generalize numerator / denominator = quotient at *
  have upper : quotient + 1 ≤ 2 ^ (quotient.log2 + 1) := Nat.lt_log2_self
  rcases Nat.lt_trichotomy (quotient.log2 + 1) top with shorter | same | longer
  · -- far below the power of two, and so is what it is rounded to
    have room : 2 * (quotient + 1) ≤ 2 ^ top := by
      calc 2 * (quotient + 1) ≤ 2 * 2 ^ (quotient.log2 + 1) := Nat.mul_le_mul_left 2 upper
        _ = 2 ^ (quotient.log2 + 2) := (Nat.pow_succ').symm
        _ ≤ 2 ^ top := Nat.pow_le_pow_right Nat.two_pos shorter
    have low : 2 * numerator < denominator * 2 ^ top := by
      calc 2 * numerator < 2 * (denominator * (quotient + 1)) := Nat.mul_lt_mul_of_pos_left most Nat.two_pos
        _ = denominator * (2 * (quotient + 1)) := Nat.mul_left_comm ..
        _ ≤ denominator * 2 ^ top := Nat.mul_le_mul_left _ room
    have small {exponent : Nat} (within : exponent ≤ top) :
        2 * numerator + denominator * 2 ^ exponent < 2 * (denominator * 2 ^ top) := by
      have step : denominator * 2 ^ exponent ≤ denominator * 2 ^ top :=
        Nat.mul_le_mul_left _ (Nat.pow_le_pow_right Nat.two_pos within)
      omega
    rw [roundDiv_mul_lt_iff positive (by omega)]
    exact iff_of_true (small (by omega)) (small (by omega))
  · rw [roundDiv_mul_lt_iff positive (by omega), ← same]
    rfl
  · -- at the power of two or above, and rounding does not bring it below
    have lower : 2 ^ quotient.log2 ≤ quotient := by
      refine Nat.log2_self_le ?_
      rintro rfl
      rw [Nat.log2_zero] at longer
      omega
    have high : 2 ^ top ≤ 2 ^ quotient.log2 := Nat.pow_le_pow_right Nat.two_pos (Nat.le_of_lt_succ longer)
    refine iff_of_false (Nat.not_lt.mpr ?_) (Nat.not_lt.mpr ?_)
    · have parts : 2 ^ quotient.log2 = 2 ^ 52 * 2 ^ (quotient.log2 - 52) := by
        rw [← Nat.pow_add, Nat.add_sub_cancel' (by omega)]
      have significant : 2 ^ 52 ≤ quotient / 2 ^ (quotient.log2 - 52) := by
        rw [Nat.le_div_iff_mul_le (Nat.two_pow_pos _), ← parts]
        exact lower
      calc 2 ^ top ≤ 2 ^ 52 * 2 ^ (quotient.log2 - 52) := parts ▸ high
        _ ≤ _ := Nat.mul_le_mul_right _ (Nat.le_trans significant kept)
    · have reached : denominator * 2 ^ top ≤ denominator * quotient :=
        Nat.mul_le_mul_left _ (Nat.le_trans high lower)
      omega

/-! ## Decimal numbers -/

/-- From here on a number is nearer to the first power of two that is too large than to any
    double, or as near. -/
def ceiling : ℚ :=
  2 ^ 1024 - 2 ^ 970

theorem fraction_lt_iff {numerator denominator : Nat} (positive : 0 < denominator) (unit gap top : Nat) :
    (numerator : ℚ) / denominator < 2 ^ top - 2 ^ gap ↔
      2 * (numerator * 2 ^ unit) + denominator * 2 ^ (gap + unit + 1) < 2 * (denominator * 2 ^ (top + unit)) := by
  have left : 2 * (numerator * 2 ^ unit) + denominator * 2 ^ (gap + unit + 1) =
      2 ^ (unit + 1) * (numerator + denominator * 2 ^ gap) := by ring
  have right : 2 * (denominator * 2 ^ (top + unit)) = 2 ^ (unit + 1) * (denominator * 2 ^ top) := by ring
  rw [left, right, Nat.mul_lt_mul_left (Nat.two_pow_pos _), div_lt_iff₀ (Nat.cast_pos.mpr positive), sub_mul,
    lt_sub_iff_add_lt, mul_comm (2 ^ gap), mul_comm (2 ^ top)]
  exact_mod_cast Iff.rfl

-- with numbers for exponents the powers would be computed, hence the variables

theorem one_eq : one = 2 ^ 1074 := by
  unfold one
  generalize 1074 = unit
  rfl

theorem limit_eq : limit = 2 ^ (1024 + 1074) := by
  unfold limit one
  generalize 1024 = top
  generalize 1074 = unit
  exact (Nat.pow_add 2 top unit).symm

theorem nearestUnits_lt_limit_iff {numerator denominator : Nat} (positive : 0 < denominator) :
    nearestUnits (numerator * one) denominator < limit ↔ (numerator : ℚ) / denominator < ceiling := by
  have gap : 1024 + 1074 - 53 = 970 + 1074 + 1 := rfl
  rw [limit_eq, one_eq, nearestUnits_lt_iff positive (by decide), gap, ceiling,
    fraction_lt_iff positive 1074 970 1024]

theorem one_lt_ceiling : 1 < ceiling := by
  have step : (2 : ℚ) ^ 970 + 2 ^ 970 ≤ 2 ^ 1024 := by
    rw [← mul_two, ← pow_succ]
    exact pow_le_pow_right₀ one_le_two (by decide)
  calc (1 : ℚ) < 2 ^ 970 := one_lt_pow₀ one_lt_two (by decide)
    _ ≤ ceiling := le_sub_iff_add_le.mpr step

theorem ceiling_lt_pow : ceiling < 10 ^ 401 := by
  calc ceiling < 2 ^ 1024 := sub_lt_self _ (by positivity)
    _ ≤ 2 ^ (3 * 401) := pow_le_pow_right₀ one_le_two (by decide)
    _ = (2 ^ 3) ^ 401 := pow_mul 2 3 401
    _ ≤ 10 ^ 401 := pow_le_pow_left₀ (by norm_num) (by norm_num) 401

/-- A number that is taken for zero is far below one. -/
theorem value_lt_one {digits : Nat} {exponent : Int} (tiny : exponent < -(401 + digits.log2 : Int)) :
    (digits : ℚ) * 10 ^ exponent < 1 := by
  have bits : digits < 10 ^ (digits.log2 + 1) :=
    Nat.lt_of_lt_of_le Nat.lt_log2_self (Nat.pow_le_pow_left (by decide) _)
  calc (digits : ℚ) * 10 ^ exponent
      < 10 ^ (digits.log2 + 1) * 10 ^ exponent := by
        refine mul_lt_mul_of_pos_right ?_ (by positivity)
        exact_mod_cast bits
    _ = 10 ^ ((digits.log2 + 1 : ℕ) + exponent) := by
        rw [zpow_add₀ (by norm_num), zpow_natCast]
    _ ≤ 1 := zpow_le_one_of_nonpos₀ (by norm_num) (by push_cast; omega)

theorem ceiling_lt_value {digits : Nat} {exponent : Int} (some : digits ≠ 0) (huge : 400 < exponent) :
    ceiling < digits * 10 ^ exponent := by
  calc ceiling < 10 ^ 401 := ceiling_lt_pow
    _ = 10 ^ (401 : ℤ) := (zpow_natCast 10 401).symm
    _ ≤ 10 ^ exponent := zpow_le_zpow_right₀ (by norm_num) huge
    _ ≤ digits * 10 ^ exponent := by
        refine le_mul_of_one_le_left (by positivity) ?_
        exact_mod_cast Nat.one_le_iff_ne_zero.mpr some

theorem exists_magnitude?_iff (digits : Nat) (exponent : Int) :
    (∃ units, magnitude? digits exponent = some units) ↔ (digits : ℚ) * 10 ^ exponent < ceiling := by
  unfold magnitude?
  by_cases zero : digits = 0
  · subst zero
    simp [lt_trans one_pos one_lt_ceiling]
  by_cases tiny : exponent < -(401 + digits.log2 : Int)
  · rw [if_pos (Bool.or_eq_true_iff.mpr (.inr (decide_eq_true tiny)))]
    exact iff_of_true ⟨0, rfl⟩ (lt_trans (value_lt_one tiny) one_lt_ceiling)
  have near : ¬(digits == 0 || decide (exponent < -(401 + digits.log2 : Int))) = true := by
    rw [Bool.or_eq_true_iff, beq_iff_eq, decide_eq_true_eq]
    exact not_or.mpr ⟨zero, tiny⟩
  rw [if_neg near]
  by_cases huge : 400 < exponent
  · rw [if_pos huge]
    exact iff_of_false nofun (not_lt.mpr (ceiling_lt_value zero huge).le)
  rw [if_neg huge]
  have given (units : Nat) :
      (∃ found, (if units < limit then some units else none) = some found) ↔ units < limit := by
    by_cases fits : units < limit
    · rw [if_pos fits]
      exact iff_of_true ⟨units, rfl⟩ fits
    · rw [if_neg fits]
      exact iff_of_false nofun fits
  rw [given]
  have tens (power : Nat) : ((Nat.pow 10 power : Nat) : ℚ) = 10 ^ power := Nat.cast_pow 10 power
  by_cases whole : 0 ≤ exponent
  · obtain ⟨power, rfl⟩ := Int.eq_ofNat_of_zero_le whole
    rw [if_pos whole, nearestUnits_lt_limit_iff Nat.one_pos, Int.toNat_natCast, Nat.cast_mul, tens, Nat.cast_one,
      div_one, zpow_natCast]
  · obtain ⟨power, rfl⟩ := Int.exists_eq_neg_ofNat (Int.le_of_lt (Int.not_le.mp whole))
    have positive : 0 < Nat.pow 10 power := Nat.pow_pos (by decide : 0 < 10)
    rw [if_neg whole, Int.neg_neg, Int.toNat_natCast, nearestUnits_lt_limit_iff positive, tens, zpow_neg,
      zpow_natCast, div_eq_mul_inv]

/-- A decimal number has a double near it exactly if it stays below the ceiling. -/
theorem exists_ofDecimal?_iff (number : Decimal) :
    (∃ double, ofDecimal? number = some double) ↔ |number.value| < ceiling := by
  have size : |number.value| = number.digits * 10 ^ number.exponent := by
    rw [Decimal.value, abs_mul, abs_of_nonneg (by positivity : (0 : ℚ) ≤ number.digits * 10 ^ number.exponent)]
    cases number.negative <;> simp
  rw [size, ← exists_magnitude?_iff]
  unfold ofDecimal?
  cases magnitude? number.digits number.exponent with
  | none => simp
  | some units => simp

end BlockSketch.Double
