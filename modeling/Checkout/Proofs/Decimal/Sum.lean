import Checkout.Decimal.Arithmetic
import Checkout.Proofs.Decimal.Rounding

/-!
# Sums are exact sums, rounded once

A summand that lies out of reach of the other is replaced before the two are added.  The main
statement is that this never shows: the sum of two finite numbers is always their exact sum, fitted
into the working range.  Bounds and signs of sums can therefore be read off exact whole numbers.
-/

namespace Checkout.Decimal

open Text.Numeral (tenTo tenTo_zero tenTo_succ tenTo_add tenTo_pos tenTo_le_tenTo_iff length
  length_pos lt_length_iff length_le_length length_mul_tenTo length_mul_tenTo_add lt_tenTo_length)

/-! ## Digits out of reach -/

/-- Rounding by quotient and remainder. -/
theorem nearest_of_parts {quotient remainder denominator : Nat} (less : remainder < denominator) :
    nearest (quotient * denominator + remainder) denominator =
      if 2 * remainder < denominator then quotient
      else if denominator < 2 * remainder then quotient + 1
      else quotient + quotient % 2 := by
  have positive : 0 < denominator := Nat.lt_of_le_of_lt (Nat.zero_le _) less
  have division : (quotient * denominator + remainder) / denominator = quotient := by
    rw [Nat.mul_comm, Nat.mul_add_div positive, Nat.div_eq_of_lt less, Nat.add_zero]
  simp only [nearest, division, Nat.mul_add_mod_of_lt less]

/-- Two remainders on the same side of half their denominators round the same quotient alike. -/
theorem nearest_congr {quotient first firstUnit second secondUnit : Nat}
    (firstLess : first < firstUnit) (secondLess : second < secondUnit)
    (below : 2 * first < firstUnit ↔ 2 * second < secondUnit)
    (above : firstUnit < 2 * first ↔ secondUnit < 2 * second) :
    nearest (quotient * firstUnit + first) firstUnit =
      nearest (quotient * secondUnit + second) secondUnit := by
  rw [nearest_of_parts firstLess, nearest_of_parts secondLess]
  simp only [below, above]

/-- Something added far behind the last digit is as good as a one in the next place, where the last
digit is a zero and is itself rounded off. -/
theorem nearest_add_tiny {numerator count shift tiny : Nat} (round : 10 ∣ numerator)
    (dropped : 2 ≤ count) (less : tiny < tenTo shift) :
    nearest (numerator * tenTo shift + tiny) (tenTo (count + shift)) =
      nearest (numerator + min tiny 1) (tenTo count) := by
  rcases Nat.exists_eq_add_of_le dropped with ⟨more, rfl⟩
  have scale : tenTo (2 + more) = 20 * (5 * tenTo more) := by
    rw [tenTo_add, ← Nat.mul_assoc]
    rfl
  have halfPositive : 0 < 5 * tenTo more := Nat.mul_pos (by decide) (tenTo_pos more)
  rw [tenTo_add, scale]
  generalize 5 * tenTo more = half at halfPositive
  generalize tenTo shift = unit at less
  rcases round with ⟨tens, rfl⟩
  have parts : tens = tens / (2 * half) * (2 * half) + tens % (2 * half) :=
    (Nat.div_add_mod' tens (2 * half)).symm
  have remainderLess : tens % (2 * half) < 2 * half := Nat.mod_lt _ (by omega)
  generalize tens / (2 * half) = quotient at parts
  generalize tens % (2 * half) = remainder at parts remainderLess
  subst parts
  have fineParts : 10 * (quotient * (2 * half) + remainder) * unit + tiny =
      quotient * (20 * (half * unit)) + (10 * (remainder * unit) + tiny) := by
    ring
  have coarseParts : 10 * (quotient * (2 * half) + remainder) + min tiny 1 =
      quotient * (20 * half) + (10 * remainder + min tiny 1) := by
    ring
  have scaledLess : remainder * unit + unit ≤ 2 * (half * unit) := by
    rw [← Nat.succ_mul, ← Nat.mul_assoc]
    exact Nat.mul_le_mul_right unit remainderLess
  have ordered : remainder < half ∧ remainder * unit + unit ≤ half * unit ∨
      remainder = half ∧ remainder * unit = half * unit ∨
      half < remainder ∧ half * unit + unit ≤ remainder * unit := by
    simp only [← Nat.succ_mul]
    rcases Nat.lt_trichotomy remainder half with lower | equal | upper
    · exact .inl ⟨lower, Nat.mul_le_mul_right unit lower⟩
    · exact .inr (.inl ⟨equal, congrArg (· * unit) equal⟩)
    · exact .inr (.inr ⟨upper, Nat.mul_le_mul_right unit upper⟩)
  rw [fineParts, coarseParts, Nat.mul_assoc 20 half unit]
  generalize remainder * unit = remainderUnits at *
  generalize half * unit = halfUnits at *
  apply nearest_congr <;> omega

/-- Something taken away far behind the last digit is as good as a one in its place, where that
digit is a zero and is itself rounded off. -/
theorem nearest_sub_tiny {numerator count shift tiny : Nat} (round : 10 ∣ numerator)
    (positive : 0 < numerator) (dropped : 1 ≤ count) (some : 0 < tiny) (less : tiny < tenTo shift) :
    nearest (numerator * tenTo shift - tiny) (tenTo (count + shift)) =
      nearest (numerator - 1) (tenTo count) := by
  rcases Nat.exists_eq_add_of_le' dropped with ⟨more, rfl⟩
  have wholePositive : 0 < tenTo more := tenTo_pos more
  -- half the denominator has no nine as its last digit
  have uneven : tenTo more = 1 ∨ ∃ tenth, tenTo more = 10 * tenth := by
    cases more with
    | zero => exact .inl rfl
    | succ count => exact .inr ⟨tenTo count, Nat.mul_comm _ _⟩
  rw [tenTo_add, tenTo_succ]
  generalize tenTo more = whole at wholePositive uneven
  generalize tenTo shift = unit at less
  rcases round with ⟨tens, rfl⟩
  have parts : tens - 1 = (tens - 1) / whole * whole + (tens - 1) % whole :=
    (Nat.div_add_mod' (tens - 1) whole).symm
  have remainderLess : (tens - 1) % whole < whole := Nat.mod_lt _ wholePositive
  generalize (tens - 1) / whole = quotient at parts
  generalize (tens - 1) % whole = remainder at parts remainderLess
  have tensEq : tens = quotient * whole + remainder + 1 := by omega
  subst tensEq
  have fineParts : 10 * (quotient * whole + remainder + 1) * unit - tiny =
      quotient * (10 * (whole * unit)) + (10 * (remainder * unit) + 10 * unit - tiny) := by
    have expanded : 10 * (quotient * whole + remainder + 1) * unit =
        quotient * (10 * (whole * unit)) + (10 * (remainder * unit) + 10 * unit) := by
      ring
    omega
  have coarseParts : 10 * (quotient * whole + remainder + 1) - 1 =
      quotient * (10 * whole) + (10 * remainder + 9) := by
    have expanded : 10 * (quotient * whole + remainder + 1) =
        quotient * (10 * whole) + (10 * remainder + 10) := by
      ring
    omega
  have scaledLess : remainder * unit + unit ≤ whole * unit := by
    rw [← Nat.succ_mul]
    exact Nat.mul_le_mul_right unit remainderLess
  have ordered : 2 * remainder + 2 ≤ whole ∧ 2 * (remainder * unit) + 2 * unit ≤ whole * unit ∨
      whole ≤ 2 * remainder + 1 ∧ whole * unit ≤ 2 * (remainder * unit) + unit := by
    have even : 2 * (remainder * unit) + 2 * unit = (2 * remainder + 2) * unit := by ring
    have odd : 2 * (remainder * unit) + unit = (2 * remainder + 1) * unit := by ring
    rw [even, odd]
    rcases Nat.lt_or_ge (2 * remainder + 1) whole with lower | upper
    · exact .inl ⟨lower, Nat.mul_le_mul_right unit lower⟩
    · exact .inr ⟨upper, Nat.mul_le_mul_right unit upper⟩
  rw [fineParts, coarseParts, Nat.mul_comm whole 10, Nat.mul_assoc 10 whole unit]
  generalize remainder * unit = remainderUnits at *
  generalize whole * unit = wholeUnits at *
  apply nearest_congr <;> omega

/-- Two coefficients that fill the precision and are rounded alike fit alike. -/
theorem fit_congr {first second shift : Nat} {exponent : Int} (negative : Bool)
    (full : precision < length second) (longer : length first = length second + shift)
    (same : nearest first (tenTo (excessDigits second exponent + shift)) =
      nearest second (tenTo (excessDigits second exponent))) :
    fit negative first (exponent - shift) = fit negative second exponent := by
  have firstNonzero : first ≠ 0 := by
    rintro rfl
    have : length 0 = 1 := rfl
    rw [precision] at full
    omega
  have secondNonzero : second ≠ 0 := by
    rintro rfl
    exact absurd full (by decide)
  have excess : excessDigits first (exponent - shift) = excessDigits second exponent + shift := by
    simp only [excessDigits, longer]
    omega
  have some : excessDigits second exponent ≠ 0 := by
    simp only [excessDigits]
    omega
  have place : exponent - shift + ((excessDigits second exponent + shift : Nat) : Int) =
      exponent + excessDigits second exponent := by
    omega
  simp only [fit, firstNonzero, secondNonzero, if_false, excess, dropDigits_eq_nearest, some,
    Nat.add_eq_zero_iff, false_and, same, place]

/-- What is added behind the reach of a number does not change the number that it fits to. -/
theorem fit_add_tiny {coefficient shift tiny : Nat} {exponent : Int} (negative : Bool)
    (round : 10 ∣ coefficient) (full : precision + 2 ≤ length coefficient)
    (less : tiny < tenTo shift) :
    fit negative (coefficient * tenTo shift + tiny) (exponent - shift) =
      fit negative (coefficient + min tiny 1) exponent := by
  have positive : 0 < coefficient := by
    rcases Nat.eq_zero_or_pos coefficient with rfl | positive
    · exact absurd full (by decide)
    · exact positive
  have lastDigit : length (coefficient + min tiny 1) = length coefficient := by
    rcases round with ⟨tens, rfl⟩
    have tensPositive : 0 < tens := Nat.pos_of_mul_pos_left positive
    have small : min tiny 1 < tenTo 1 :=
      Nat.lt_of_le_of_lt (Nat.min_le_right _ _) (by decide)
    have ten : 10 * tens = tens * tenTo 1 := Nat.mul_comm _ _
    rw [ten, length_mul_tenTo_add tensPositive small, length_mul_tenTo tensPositive]
  apply fit_congr negative
  · omega
  · rw [length_mul_tenTo_add positive less, lastDigit]
  · apply nearest_add_tiny round _ less
    simp only [excessDigits, lastDigit]
    omega

/-- What is taken away behind the reach of a number does not change the number that it fits to. -/
theorem fit_sub_tiny {coefficient shift tiny : Nat} {exponent : Int} (negative : Bool)
    (round : 10 ∣ coefficient) (full : precision + 2 ≤ length coefficient)
    (some : 0 < tiny) (less : tiny < tenTo shift) :
    fit negative (coefficient * tenTo shift - tiny) (exponent - shift) =
      fit negative (coefficient - 1) exponent := by
  have positive : 0 < coefficient := by
    rcases Nat.eq_zero_or_pos coefficient with rfl | positive
    · exact absurd full (by decide)
    · exact positive
  have large : tenTo (precision + 1) ≤ coefficient := (lt_length_iff positive).mp full
  have step : tenTo precision < tenTo (precision + 1) := by decide
  have restPositive : 0 < coefficient - 1 := by
    have := tenTo_pos precision
    omega
  have restFull : precision < length (coefficient - 1) :=
    (lt_length_iff restPositive).mpr (by omega)
  have borrowed : coefficient * tenTo shift - tiny =
      (coefficient - 1) * tenTo shift + (tenTo shift - tiny) := by
    have whole : coefficient * tenTo shift = (coefficient - 1) * tenTo shift + tenTo shift := by
      rw [← Nat.succ_mul, Nat.succ_eq_add_one, Nat.sub_add_cancel positive]
    omega
  apply fit_congr negative restFull
  · rw [borrowed]
    exact length_mul_tenTo_add restPositive (by omega)
  · apply nearest_sub_tiny round positive _ some less
    simp only [excessDigits]
    omega

/-! ## The exact sum -/

/-- The exact sum does not depend on the order. -/
theorem exactSum_comm (firstNegative : Bool) (first : Nat) (firstExponent : Int)
    (secondNegative : Bool) (second : Nat) (secondExponent : Int) :
    exactSum firstNegative first firstExponent secondNegative second secondExponent =
      exactSum secondNegative second secondExponent firstNegative first firstExponent := by
  simp only [exactSum, Int.min_comm firstExponent secondExponent, Bool.and_comm firstNegative]
  rw [Int.add_comm]

/-- The exact sum where the first number is the larger one. -/
theorem exactSum_of_lt {first second : Nat} {firstExponent secondExponent : Int}
    (firstNegative secondNegative : Bool) (le : secondExponent ≤ firstExponent)
    (less : second < first * tenTo (firstExponent - secondExponent).toNat) :
    exactSum firstNegative first firstExponent secondNegative second secondExponent =
      (firstNegative,
        if firstNegative = secondNegative then
          first * tenTo (firstExponent - secondExponent).toNat + second
        else first * tenTo (firstExponent - secondExponent).toNat - second,
        secondExponent) := by
  have least : min firstExponent secondExponent = secondExponent := Int.min_eq_right le
  have aligned : (secondExponent - secondExponent).toNat = 0 := by simp
  simp only [exactSum, least, aligned, tenTo_zero, Nat.mul_one]
  generalize first * tenTo (firstExponent - secondExponent).toNat = scaled at less
  cases firstNegative <;> cases secondNegative <;>
    simp only [signed, Bool.false_eq_true, if_false, if_true, Prod.mk.injEq, and_true,
      reduceCtorEq] <;>
    refine ⟨?_, by omega⟩ <;>
    rw [if_neg (by omega)] <;> simp <;> omega

/-- The exact sum where the first number is a zero. -/
theorem exactSum_zero_left {second : Nat} {firstExponent secondExponent : Int}
    (firstNegative secondNegative : Bool) (le : secondExponent ≤ firstExponent) :
    exactSum firstNegative 0 firstExponent secondNegative second secondExponent =
      (if second = 0 then firstNegative && secondNegative else secondNegative, second,
        secondExponent) := by
  have least : min firstExponent secondExponent = secondExponent := Int.min_eq_right le
  simp only [exactSum, least, Int.sub_self, Int.toNat_zero, tenTo_zero, Nat.mul_one, Nat.zero_mul]
  cases firstNegative <;> cases secondNegative <;> simp [signed] <;> omega

/-- The reach of a number lies below its last digit, and its digits down to there are more than the
precision holds. -/
theorem exists_reach (coefficient : Nat) (exponent : Int) :
    ∃ gap : Nat, reach coefficient exponent = exponent - gap ∧ 1 ≤ gap ∧
      precision + 2 ≤ length coefficient + gap := by
  refine ⟨(exponent - reach coefficient exponent).toNat, ?_⟩
  rcases Nat.lt_or_ge precision (length coefficient) with long | short
  · simp only [reach, if_pos long]
    omega
  · simp only [reach, if_neg (Nat.not_lt.mpr short)]
    rw [precision] at short ⊢
    omega

/-- Putting something smaller in the place of a second number out of reach does not show in the
sum. -/
theorem addAligned_eq_fit {first second : Nat} {firstExponent secondExponent : Int}
    (firstNegative secondNegative : Bool) (lower : secondExponent < firstExponent) :
    addAligned firstNegative first firstExponent secondNegative second secondExponent =
      let (negative, coefficient, exponent) :=
        exactSum firstNegative first firstExponent secondNegative second secondExponent
      fit negative coefficient exponent := by
  rcases Nat.eq_zero_or_pos first with rfl | positive
  · rw [exactSum_zero_left _ _ lower.le]
    rfl
  · rw [addAligned, if_neg positive.ne']
    by_cases far : adjusted second secondExponent < reach first firstExponent
    · obtain ⟨gap, reachEq, gapPositive, full⟩ := exists_reach first firstExponent
      rw [if_pos far]
      rw [reachEq] at far ⊢
      rcases Int.eq_ofNat_of_zero_le (a := firstExponent - gap - secondExponent) (by
        have := length_pos second
        simp only [adjusted] at far
        omega) with ⟨shift, shiftEq⟩
      have less : second < tenTo shift := by
        refine Nat.lt_of_lt_of_le (lt_tenTo_length second) (tenTo_le_tenTo_iff.mpr ?_)
        simp only [adjusted] at far
        omega
      have round : 10 ∣ first * tenTo gap := by
        rcases Nat.exists_eq_add_of_le' gapPositive with ⟨more, rfl⟩
        rw [tenTo_succ, ← Nat.mul_assoc]
        exact Nat.dvd_mul_left _ _
      have scaledFull : precision + 2 ≤ length (first * tenTo gap) := by
        rw [length_mul_tenTo positive]
        exact full
      have scaledPositive : 0 < first * tenTo gap := Nat.mul_pos positive (tenTo_pos gap)
      have firstGap : (firstExponent - (firstExponent - gap)).toNat = gap := by omega
      have wholeGap : (firstExponent - secondExponent).toNat = gap + shift := by omega
      have place : secondExponent = firstExponent - gap - shift := by omega
      have replaced :
          min second 1 < first * tenTo (firstExponent - (firstExponent - gap)).toNat := by
        have ten : 10 ≤ first * tenTo gap := Nat.le_of_dvd scaledPositive round
        rw [firstGap]
        omega
      have original : second < first * tenTo (firstExponent - secondExponent).toNat := by
        rw [wholeGap, tenTo_add, ← Nat.mul_assoc]
        exact Nat.lt_of_lt_of_le less (Nat.le_mul_of_pos_left _ scaledPositive)
      dsimp only
      rw [exactSum_of_lt _ _ (by omega) replaced, exactSum_of_lt _ _ lower.le original, firstGap,
        wholeGap, tenTo_add, ← Nat.mul_assoc]
      dsimp only
      rw [place]
      by_cases sameSign : firstNegative = secondNegative
      · rw [if_pos sameSign, if_pos sameSign]
        exact (fit_add_tiny firstNegative round scaledFull less).symm
      · rw [if_neg sameSign, if_neg sameSign]
        rcases Nat.eq_zero_or_pos second with rfl | some
        · exact (fit_add_tiny firstNegative round scaledFull less).symm
        · rw [Nat.min_eq_right some]
          exact (fit_sub_tiny firstNegative round scaledFull some less).symm
    · rw [if_neg far]

/-- The sum of two finite numbers is their exact sum, fitted into the working range. -/
theorem addFinite_eq_fit (firstNegative : Bool) (first : Nat) (firstExponent : Int)
    (secondNegative : Bool) (second : Nat) (secondExponent : Int) :
    addFinite firstNegative first firstExponent secondNegative second secondExponent =
      let (negative, coefficient, exponent) :=
        exactSum firstNegative first firstExponent secondNegative second secondExponent
      fit negative coefficient exponent := by
  unfold addFinite
  split
  · rfl
  · split
    · rename_i lower
      exact addAligned_eq_fit firstNegative secondNegative lower
    · rename_i different notLower
      rw [addAligned_eq_fit secondNegative firstNegative (by omega), exactSum_comm]

end Checkout.Decimal
