import Checkout.Proofs.Decimal.Order
import Checkout.Proofs.Decimal.Rounding
import Mathlib.Algebra.Order.Field.Basic
import Mathlib.Algebra.Order.Field.Power
import Mathlib.Algebra.Order.Field.Rat
import Mathlib.Tactic.FieldSimp
import Mathlib.Tactic.Linarith
import Mathlib.Tactic.NormNum

/-!
# Decimal numbers as rational numbers

A finite number stands for a rational number, and finite numbers are compared as these are.  What
is to be exact, or to be rounded only once, can so be said without digits and powers of ten:
rounding half to even is described by distances, and the quotient and remainder that it is worked
out with do just that.
-/

namespace Checkout.Decimal

open Text.Numeral (tenTo)

/-! ## The value of a number -/

/-- The rational number that a finite number stands for; zero for what is not finite. -/
def toRat : Decimal → ℚ
  | .finite negative coefficient exponent => signed negative coefficient * (10 : ℚ) ^ exponent
  | _ => 0

theorem toRat_finite (negative : Bool) (coefficient : Nat) (exponent : Int) :
    (finite negative coefficient exponent).toRat =
      signed negative coefficient * (10 : ℚ) ^ exponent :=
  rfl

theorem cast_tenTo (count : Nat) : (tenTo count : ℚ) = 10 ^ count :=
  Nat.cast_pow 10 count

theorem signed_mul (negative : Bool) (first second : Nat) :
    signed negative (first * second) = signed negative first * second := by
  cases negative <;> simp [signed]

/-- The value of a number is read off it as a multiple of any smaller power of ten. -/
theorem toRat_eq_multiple (negative : Bool) (coefficient : Nat) {exponent common : Int}
    (le : common ≤ exponent) :
    (finite negative coefficient exponent).toRat =
      multiple negative coefficient exponent common * (10 : ℚ) ^ common := by
  obtain ⟨shift, rfl⟩ := Int.le.dest le
  have ten : (10 : ℚ) ≠ 0 := by norm_num
  have scaled : (common + shift - common).toNat = shift := by omega
  rw [toRat_finite, multiple, scaled, signed_mul, Int.cast_mul, Int.cast_natCast, cast_tenTo,
    zpow_add₀ ten, zpow_natCast]
  ring

/-- Finite numbers are compared as the rational numbers that they stand for. -/
theorem compare?_eq_compare_toRat (firstNegative : Bool) (first : Nat) (firstExponent : Int)
    (secondNegative : Bool) (second : Nat) (secondExponent : Int) :
    compare? (.finite firstNegative first firstExponent)
        (.finite secondNegative second secondExponent) =
      some (compare (finite firstNegative first firstExponent).toRat
        (finite secondNegative second secondExponent).toRat) := by
  have positive : (0 : ℚ) < 10 ^ min firstExponent secondExponent := zpow_pos (by norm_num) _
  rw [compare?_finite, toRat_eq_multiple _ _ (Int.min_le_left firstExponent secondExponent),
    toRat_eq_multiple _ _ (Int.min_le_right firstExponent secondExponent)]
  generalize multiple firstNegative first firstExponent _ = firstMultiple
  generalize multiple secondNegative second secondExponent _ = secondMultiple
  apply congrArg some
  cases order : compare firstMultiple secondMultiple with
  | lt =>
    symm
    rw [compare_lt_iff_lt] at order ⊢
    exact mul_lt_mul_of_pos_right (Int.cast_lt.mpr order) positive
  | eq =>
    symm
    rw [compare_eq_iff_eq] at order ⊢
    rw [order]
  | gt =>
    symm
    rw [compare_gt_iff_gt] at order ⊢
    exact mul_lt_mul_of_pos_right (Int.cast_lt.mpr order) positive

/-! ## Rounding half to even -/

/-- A whole number is a number rounded half to even: none is nearer to it, and of two that are
equally near it is the even one. -/
structure IsHalfEven (exact : ℚ) (whole : ℤ) : Prop where
  near : |whole - exact| ≤ 1 / 2
  even : |whole - exact| = 1 / 2 → Even whole

theorem IsHalfEven.le {exact : ℚ} {first second : ℤ} (isFirst : IsHalfEven exact first)
    (isSecond : IsHalfEven exact second) : second ≤ first := by
  by_contra less
  rw [not_le] at less
  have apart : (first : ℚ) + 1 ≤ second := by exact_mod_cast less
  have firstNear := (abs_le.mp isFirst.near).1
  have secondNear := (abs_le.mp isSecond.near).2
  -- Both are half away, and neighbours are not both even.
  have firstHalf : |(first : ℚ) - exact| = 1 / 2 := by
    rw [abs_of_nonpos (by linarith)]
    linarith
  have secondHalf : |(second : ℚ) - exact| = 1 / 2 := by
    rw [abs_of_nonneg (by linarith)]
    linarith
  have next : (second : ℚ) = first + 1 := by linarith
  have nextWhole : second = first + 1 := by exact_mod_cast next
  obtain ⟨half, firstEven⟩ := isFirst.even firstHalf
  obtain ⟨other, secondEven⟩ := isSecond.even secondHalf
  omega

/-- There is only one way to round half to even. -/
theorem IsHalfEven.unique {exact : ℚ} {first second : ℤ} (isFirst : IsHalfEven exact first)
    (isSecond : IsHalfEven exact second) : first = second :=
  le_antisymm (isSecond.le isFirst) (isFirst.le isSecond)

/-- Rounding a quotient, without fractions. -/
theorem isHalfEven_div_iff {numerator denominator : Nat} (positive : 0 < denominator) {whole : ℤ} :
    IsHalfEven ((numerator : ℚ) / denominator) whole ↔
      2 * |whole * denominator - numerator| ≤ denominator ∧
        (2 * |whole * denominator - numerator| = (denominator : ℤ) → Even whole) := by
  have scale : (0 : ℚ) < denominator := Nat.cast_pos.mpr positive
  have distance : |(whole : ℚ) - numerator / denominator| =
      ((|whole * denominator - numerator| : ℤ) : ℚ) / denominator := by
    have common : (whole : ℚ) - numerator / denominator =
        (whole * denominator - numerator) / denominator := by
      field_simp
    rw [common, abs_div, abs_of_pos scale]
    push_cast
    rfl
  have near : |(whole : ℚ) - numerator / denominator| ≤ 1 / 2 ↔
      2 * |whole * denominator - numerator| ≤ (denominator : ℤ) := by
    rw [distance, div_le_div_iff₀ scale two_pos, one_mul, mul_comm]
    exact_mod_cast Iff.rfl
  have half : |(whole : ℚ) - numerator / denominator| = 1 / 2 ↔
      2 * |whole * denominator - numerator| = (denominator : ℤ) := by
    rw [distance, div_eq_div_iff scale.ne' two_ne_zero, one_mul, mul_comm]
    exact_mod_cast Iff.rfl
  constructor
  · rintro ⟨isNear, isEven⟩
    exact ⟨near.mp isNear, fun tie => isEven (half.mpr tie)⟩
  · rintro ⟨isNear, isEven⟩
    exact ⟨near.mpr isNear, fun tie => isEven (half.mp tie)⟩

theorem isHalfEven_nearest (numerator : Nat) {denominator : Nat} (positive : 0 < denominator) :
    IsHalfEven ((numerator : ℚ) / denominator) (nearest numerator denominator : Nat) := by
  rw [isHalfEven_div_iff positive]
  have parts : (numerator : ℤ) =
      (numerator / denominator : Nat) * denominator + (numerator % denominator : Nat) := by
    exact_mod_cast (Nat.div_add_mod' numerator denominator).symm
  have less := Nat.mod_lt numerator positive
  simp only [nearest]
  generalize numerator / denominator = quotient at *
  generalize numerator % denominator = remainder at *
  have below : (quotient : ℤ) * denominator - numerator = -(remainder : ℤ) := by omega
  have above : ((quotient + 1 : Nat) : ℤ) * denominator - numerator = denominator - remainder := by
    push_cast
    rw [add_mul, one_mul]
    omega
  split
  · rw [below, abs_neg, Nat.abs_cast]
    exact ⟨by omega, fun tie => by omega⟩
  · split
    · rw [above, abs_of_nonneg (by omega)]
      exact ⟨by omega, fun tie => by omega⟩
    · rcases Nat.mod_two_eq_zero_or_one quotient with even | odd
      · rw [even, Nat.add_zero, below, abs_neg, Nat.abs_cast]
        exact ⟨by omega, fun _ => Int.even_iff.mpr (by omega)⟩
      · rw [odd, above, abs_of_nonneg (by omega)]
        exact ⟨by omega, fun _ => Int.even_iff.mpr (by omega)⟩

/-- The nearest neighbour of a quotient is the quotient rounded half to even, and nothing else
is. -/
theorem isHalfEven_iff_eq_nearest {numerator denominator : Nat} (positive : 0 < denominator)
    {whole : ℤ} :
    IsHalfEven ((numerator : ℚ) / denominator) whole ↔ whole = nearest numerator denominator := by
  constructor
  · exact fun isHalfEven => isHalfEven.unique (isHalfEven_nearest numerator positive)
  · rintro rfl
    exact isHalfEven_nearest numerator positive

end Checkout.Decimal
