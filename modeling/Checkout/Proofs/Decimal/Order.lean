import Checkout.Decimal.Arithmetic
import Checkout.Decimal.Order
import Checkout.Proofs.Decimal.Digits

/-!
# Numbers are compared by value

Numbers whose first digits stand for different powers of ten are compared without being written
out.  The main statement is that this is only a short cut: finite numbers are always ordered like
the whole numbers that they are multiples of one common power of ten by.
-/

namespace Checkout.Decimal

open Text.Numeral (tenTo tenTo_pos length length_le_length length_mul_tenTo)

/-- A finite number as a multiple of a power of ten that is not above its own. -/
def multiple (negative : Bool) (coefficient : Nat) (exponent common : Int) : Int :=
  signed negative (coefficient * tenTo (exponent - common).toNat)

theorem signed_nonneg_iff {negative : Bool} {coefficient : Nat} :
    0 ≤ signed negative coefficient ↔ (negative && coefficient != 0) = false := by
  cases negative <;> simp [signed]

/-- The first digit of a number stays in its place when zeros are put behind the last one. -/
theorem adjusted_scaled {coefficient : Nat} {exponent common : Int} (positive : 0 < coefficient)
    (le : common ≤ exponent) :
    (length (coefficient * tenTo (exponent - common).toNat) : Int) =
      adjusted coefficient exponent - common + 1 := by
  rw [length_mul_tenTo positive]
  simp only [adjusted]
  omega

/-- A first digit for a smaller power of ten makes the smaller number. -/
theorem lt_of_adjusted_lt {first second : Nat} {firstExponent secondExponent common : Int}
    (firstPositive : 0 < first) (secondPositive : 0 < second) (firstLe : common ≤ firstExponent)
    (secondLe : common ≤ secondExponent)
    (less : adjusted first firstExponent < adjusted second secondExponent) :
    first * tenTo (firstExponent - common).toNat <
      second * tenTo (secondExponent - common).toNat := by
  by_contra notLess
  have lengths := length_le_length (Nat.not_lt.mp notLess)
  have firstLength := adjusted_scaled firstPositive firstLe
  have secondLength := adjusted_scaled secondPositive secondLe
  omega

/-- Coefficients are compared as multiples of the smaller power of ten. -/
theorem compareMagnitude_eq (first second : Nat) (firstExponent secondExponent : Int) :
    compareMagnitude first firstExponent second secondExponent =
      compare (first * tenTo (firstExponent - min firstExponent secondExponent).toNat)
        (second * tenTo (secondExponent - min firstExponent secondExponent).toNat) := by
  have firstLe : min firstExponent secondExponent ≤ firstExponent := Int.min_le_left _ _
  have secondLe : min firstExponent secondExponent ≤ secondExponent := Int.min_le_right _ _
  rw [compareMagnitude]
  split
  · rename_i zero
    rcases zero with rfl | rfl
    · rcases Nat.eq_zero_or_pos second with rfl | positive
      · simp
      · have scaled := Nat.mul_pos positive
          (tenTo_pos (secondExponent - min firstExponent secondExponent).toNat)
        rw [Nat.zero_mul, Nat.compare_eq_lt.mpr positive, Nat.compare_eq_lt.mpr scaled]
    · rcases Nat.eq_zero_or_pos first with rfl | positive
      · simp
      · have scaled := Nat.mul_pos positive
          (tenTo_pos (firstExponent - min firstExponent secondExponent).toNat)
        rw [Nat.zero_mul, Nat.compare_eq_gt.mpr positive, Nat.compare_eq_gt.mpr scaled]
  · rename_i nonzero
    rw [not_or] at nonzero
    have firstPositive : 0 < first := Nat.pos_of_ne_zero nonzero.1
    have secondPositive : 0 < second := Nat.pos_of_ne_zero nonzero.2
    cases order : compare (adjusted first firstExponent) (adjusted second secondExponent) with
    | lt =>
      have less := lt_of_adjusted_lt firstPositive secondPositive firstLe secondLe
        (Int.compare_eq_lt.mp order)
      exact (Nat.compare_eq_lt.mpr less).symm
    | eq => rfl
    | gt =>
      have less := lt_of_adjusted_lt secondPositive firstPositive secondLe firstLe
        (Int.compare_eq_gt.mp order)
      exact (Nat.compare_eq_gt.mpr less).symm

/-! ## With signs -/

/-- A multiple is below zero exactly if the number is. -/
theorem multiple_neg_iff {negative : Bool} {coefficient : Nat} {exponent common : Int} :
    multiple negative coefficient exponent common < 0 ↔ (negative && coefficient != 0) = true := by
  have positive := tenTo_pos (exponent - common).toNat
  rw [multiple, ← Int.not_le, signed_nonneg_iff, Bool.not_eq_false]
  simp [positive.ne']

theorem multiple_nonneg_iff {negative : Bool} {coefficient : Nat} {exponent common : Int} :
    0 ≤ multiple negative coefficient exponent common ↔
      (negative && coefficient != 0) = false := by
  rw [← Int.not_lt, multiple_neg_iff, Bool.not_eq_true]

theorem multiple_of_nonneg {negative : Bool} {coefficient : Nat} {exponent common : Int}
    (sign : (negative && coefficient != 0) = false) :
    multiple negative coefficient exponent common =
      (coefficient * tenTo (exponent - common).toNat : Nat) := by
  cases negative with
  | false => rfl
  | true =>
    have zero : coefficient = 0 := by simpa using sign
    simp [multiple, signed, zero]

theorem compare_natCast (first second : Nat) :
    compare (first : Int) (second : Int) = compare first second := by
  cases order : compare first second with
  | lt => exact Int.compare_eq_lt.mpr (Int.ofNat_lt.mpr (Nat.compare_eq_lt.mp order))
  | eq => exact Int.compare_eq_eq.mpr (congrArg _ (Nat.compare_eq_eq.mp order))
  | gt => exact Int.compare_eq_gt.mpr (Int.ofNat_lt.mpr (Nat.compare_eq_gt.mp order))

theorem compare_neg (first second : Int) : compare (-first) (-second) = compare second first := by
  cases order : compare second first with
  | lt => exact Int.compare_eq_lt.mpr (Int.neg_lt_neg (Int.compare_eq_lt.mp order))
  | eq => exact Int.compare_eq_eq.mpr (congrArg _ (Int.compare_eq_eq.mp order).symm)
  | gt => exact Int.compare_eq_gt.mpr (Int.neg_lt_neg (Int.compare_eq_gt.mp order))

/-- Finite numbers are compared as multiples of their smaller power of ten. -/
theorem compare?_finite (firstNegative : Bool) (first : Nat) (firstExponent : Int)
    (secondNegative : Bool) (second : Nat) (secondExponent : Int) :
    compare? (.finite firstNegative first firstExponent)
        (.finite secondNegative second secondExponent) =
      some (compare
        (multiple firstNegative first firstExponent (min firstExponent secondExponent))
        (multiple secondNegative second secondExponent (min firstExponent secondExponent))) := by
  by_cases zeros : first = 0 ∧ second = 0
  · rcases zeros with ⟨rfl, rfl⟩
    simp [compare?, multiple, signed]
  · rw [compare?, if_neg zeros]
    cases firstSign : firstNegative && first != 0 with
    | false =>
      cases secondSign : secondNegative && second != 0 with
      | false =>
        rw [multiple_of_nonneg firstSign, multiple_of_nonneg secondSign, compare_natCast]
        exact congrArg some (compareMagnitude_eq _ _ _ _)
      | true =>
        apply congrArg some
        symm
        apply Int.compare_eq_gt.mpr
        exact Int.lt_of_lt_of_le (multiple_neg_iff.mpr secondSign)
          (multiple_nonneg_iff.mpr firstSign)
    | true =>
      cases secondSign : secondNegative && second != 0 with
      | false =>
        apply congrArg some
        symm
        apply Int.compare_eq_lt.mpr
        exact Int.lt_of_lt_of_le (multiple_neg_iff.mpr firstSign)
          (multiple_nonneg_iff.mpr secondSign)
      | true =>
        rw [Bool.and_eq_true] at firstSign secondSign
        rw [firstSign.1, secondSign.1, multiple, multiple, signed, signed, if_pos rfl, if_pos rfl,
          compare_neg, compare_natCast, Int.min_comm]
        exact congrArg some (compareMagnitude_eq _ _ _ _)

/-- Being less, as finite numbers are. -/
theorem less_finite (firstNegative : Bool) (first : Nat) (firstExponent : Int)
    (secondNegative : Bool) (second : Nat) (secondExponent : Int) :
    less (.finite firstNegative first firstExponent)
        (.finite secondNegative second secondExponent) =
      .ok (decide (multiple firstNegative first firstExponent (min firstExponent secondExponent) <
        multiple secondNegative second secondExponent (min firstExponent secondExponent))) := by
  rw [less, compare?_finite]
  apply congrArg Except.ok
  rw [Bool.eq_iff_iff, beq_iff_eq, decide_eq_true_iff]
  exact Int.compare_eq_lt

/-- The larger of a finite number and zero is the number, unless that is below zero. -/
theorem larger_zeroCents (negative : Bool) (coefficient : Nat) (exponent : Int) :
    larger (.finite negative coefficient exponent) zeroCents =
      .ok (if (negative && coefficient != 0) = true then zeroCents
        else .finite negative coefficient exponent) := by
  have zero : zeroCents = .finite false 0 (-2) := rfl
  have below : (multiple negative coefficient exponent (min exponent (-2)) <
      multiple false 0 (-2) (min exponent (-2))) ↔ (negative && coefficient != 0) = true := by
    have nonzero : (negative && coefficient != 0) = true ↔
        multiple negative coefficient exponent (min exponent (-2)) < 0 := multiple_neg_iff.symm
    rw [nonzero]
    simp [multiple, signed]
  rw [larger, zero, less_finite]
  by_cases sign : (negative && coefficient != 0) = true
  · rw [decide_eq_true (below.mpr sign), if_pos sign]
    rfl
  · rw [decide_eq_false (mt below.mp sign), if_neg sign]
    rfl

end Checkout.Decimal
