import Checkout.Decimal.Rounding
import Checkout.Proofs.Decimal.Digits

/-!
# What rounding keeps

Rounding to the nearest neighbour is monotone and leaves alone what needs no rounding.  A result
that is fitted into the working range therefore stays on its side of every number that the
precision can hold: it never falls below a power of ten that the exact result reaches, and it never
climbs above a short number that bounds the exact result.
-/

namespace Checkout.Decimal

open Text.Numeral (tenTo tenTo_zero tenTo_add tenTo_pos tenTo_le_tenTo_iff exists_tenTo_eq_mul
  length length_pos length_le_iff lt_length_iff length_le_length length_mul_tenTo lt_tenTo_length)

/-! ## The nearest neighbour -/

theorem nearest_cases (numerator denominator : Nat) :
    nearest numerator denominator = numerator / denominator ∨
      nearest numerator denominator = numerator / denominator + 1 ∧
        denominator ≤ 2 * (numerator % denominator) := by
  simp only [nearest]
  split
  · exact .inl rfl
  · split
    · exact .inr ⟨rfl, by omega⟩
    · rcases Nat.mod_two_eq_zero_or_one (numerator / denominator) with even | odd
      · exact .inl (by rw [even, Nat.add_zero])
      · exact .inr ⟨by rw [odd], by omega⟩

/-- A multiple of the denominator needs no rounding. -/
theorem nearest_mul {denominator : Nat} (positive : 0 < denominator) (multiple : Nat) :
    nearest (multiple * denominator) denominator = multiple := by
  simp [nearest, Nat.mul_div_cancel _ positive, positive]

theorem nearest_one (n : Nat) : nearest n 1 = n := by
  simpa using nearest_mul Nat.one_pos n

/-- A common factor does not matter for the quotient that is rounded. -/
theorem nearest_mul_mul (numerator denominator : Nat) {factor : Nat} (positive : 0 < factor) :
    nearest (numerator * factor) (denominator * factor) = nearest numerator denominator := by
  have quotient := Nat.mul_div_mul_right numerator denominator positive
  have remainder := Nat.mul_mod_mul_right factor numerator denominator
  simp only [nearest, quotient, remainder, ← Nat.mul_assoc, Nat.mul_lt_mul_right positive]

/-- Rounding does not change the order. -/
theorem nearest_le_nearest {first second : Nat} (denominator : Nat) (le : first ≤ second) :
    nearest first denominator ≤ nearest second denominator := by
  have quotients : first / denominator ≤ second / denominator := Nat.div_le_div_right le
  have firstParts := Nat.div_add_mod first denominator
  have secondParts := Nat.div_add_mod second denominator
  rcases Nat.lt_or_eq_of_le quotients with less | equal
  · have upper : nearest first denominator ≤ first / denominator + 1 := by
      rcases nearest_cases first denominator with h | ⟨h, _⟩ <;> omega
    have lower : second / denominator ≤ nearest second denominator := by
      rcases nearest_cases second denominator with h | ⟨h, _⟩ <;> omega
    omega
  · have remainders : first % denominator ≤ second % denominator := by
      rw [equal] at firstParts
      omega
    simp only [nearest, equal]
    repeat' split
    all_goals omega

/-- What is at most a multiple of the denominator is not rounded above it. -/
theorem nearest_le {numerator denominator multiple : Nat} (positive : 0 < denominator)
    (le : numerator ≤ multiple * denominator) : nearest numerator denominator ≤ multiple := by
  rw [← nearest_mul positive multiple]
  exact nearest_le_nearest denominator le

/-- What is at least a multiple of the denominator is not rounded below it. -/
theorem le_nearest {numerator denominator multiple : Nat} (positive : 0 < denominator)
    (le : multiple * denominator ≤ numerator) : multiple ≤ nearest numerator denominator := by
  rw [← nearest_mul positive multiple]
  exact nearest_le_nearest denominator le

/-- Rounding moves a number by no more than its distance to any multiple of the denominator below
it. -/
theorem nearest_mul_add_le {numerator denominator multiple : Nat}
    (le : multiple * denominator ≤ numerator) :
    nearest numerator denominator * denominator + multiple * denominator ≤ 2 * numerator := by
  have parts := Nat.div_add_mod' numerator denominator
  rcases Nat.eq_zero_or_pos denominator with zero | positive
  · simp [zero]
  · have quotient : multiple ≤ numerator / denominator := (Nat.le_div_iff_mul_le positive).mpr le
    have scaled : multiple * denominator ≤ numerator / denominator * denominator :=
      Nat.mul_le_mul_right _ quotient
    rcases nearest_cases numerator denominator with down | ⟨up, half⟩
    · rw [down]
      omega
    · rw [up, Nat.add_mul, Nat.one_mul]
      omega

/-! ## The digits that the precision keeps -/

/-- How many digits of a coefficient are beyond the precision. -/
def beyond (coefficient : Nat) : Nat :=
  length coefficient - precision

/-- The coefficient rounded to the precision, with zeros for the digits that are lost. -/
def kept (coefficient : Nat) : Nat :=
  nearest coefficient (tenTo (beyond coefficient)) * tenTo (beyond coefficient)

/-- A coefficient within the precision is kept as it is. -/
theorem kept_of_short {coefficient : Nat} (short : length coefficient ≤ precision) :
    kept coefficient = coefficient := by
  have none : beyond coefficient = 0 := Nat.sub_eq_zero_of_le short
  rw [kept, none, tenTo_zero, nearest_one, Nat.mul_one]

/-- Where a number with few digits in front of its zeros lies above a coefficient, its zeros cover
what is lost of the coefficient. -/
theorem beyond_le {coefficient digits zeros : Nat} (positive : 0 < digits)
    (short : length digits ≤ precision) (le : length coefficient ≤ length (digits * tenTo zeros)) :
    beyond coefficient ≤ zeros := by
  rw [length_mul_tenTo positive] at le
  unfold beyond
  omega

/-- A number that the precision can hold is an upper bound of what is kept if it is one of the
exact coefficient. -/
theorem kept_le {coefficient digits zeros : Nat} (short : length digits ≤ precision)
    (le : coefficient ≤ digits * tenTo zeros) : kept coefficient ≤ digits * tenTo zeros := by
  rcases Nat.eq_zero_or_pos digits with zero | positive
  · have coefficientZero : coefficient = 0 := by simpa [zero] using le
    subst coefficientZero
    rw [kept_of_short (by decide)]
    exact Nat.zero_le _
  · obtain ⟨factor, split⟩ := exists_tenTo_eq_mul (beyond_le positive short (length_le_length le))
    rw [split, ← Nat.mul_assoc] at le ⊢
    exact Nat.mul_le_mul_right _ (nearest_le (tenTo_pos _) le)

/-- The power of ten of the first digit is a multiple of the last one that is kept. -/
theorem exists_leading (coefficient : Nat) :
    ∃ factor, tenTo (length coefficient - 1) = factor * tenTo (beyond coefficient) :=
  exists_tenTo_eq_mul (Nat.sub_le_sub_left (by decide) _)

/-- What is kept reaches every power of ten that the coefficient reaches. -/
theorem tenTo_le_kept {coefficient count : Nat} (le : tenTo count ≤ coefficient) :
    tenTo count ≤ kept coefficient := by
  have positive : 0 < coefficient := Nat.lt_of_lt_of_le (tenTo_pos count) le
  have digits : count < length coefficient := (lt_length_iff positive).mpr le
  have leading : tenTo (length coefficient - 1) ≤ coefficient :=
    (lt_length_iff positive).mp (Nat.sub_lt (length_pos _) Nat.one_pos)
  obtain ⟨factor, split⟩ := exists_leading coefficient
  calc
    tenTo count ≤ tenTo (length coefficient - 1) := tenTo_le_tenTo_iff.mpr (by omega)
    _ = factor * tenTo (beyond coefficient) := split
    _ ≤ kept coefficient :=
      Nat.mul_le_mul_right _ (le_nearest (tenTo_pos _) (by rw [← split]; exact leading))

/-- Rounding to the precision does not change the order. -/
theorem kept_le_kept {first second : Nat} (le : first ≤ second) : kept first ≤ kept second := by
  rcases Nat.lt_or_eq_of_le (length_le_length le) with shorter | same
  · -- the power of ten of the first digit of the second lies between the two
    have positive : 0 < second := by
      apply Nat.pos_of_ne_zero
      rintro rfl
      rw [Nat.le_zero.mp le] at shorter
      exact Nat.lt_irrefl _ shorter
    have below : first ≤ 1 * tenTo (length first) := by
      rw [Nat.one_mul]
      exact (lt_tenTo_length first).le
    calc
      kept first ≤ 1 * tenTo (length first) := kept_le (by decide) below
      _ = tenTo (length first) := Nat.one_mul _
      _ ≤ kept second := tenTo_le_kept ((lt_length_iff positive).mp shorter)
  · have sameBeyond : beyond first = beyond second := by rw [beyond, beyond, same]
    rw [kept, kept, sameBeyond]
    exact Nat.mul_le_mul_right _ (nearest_le_nearest _ le)

theorem kept_pos {coefficient : Nat} (positive : 0 < coefficient) : 0 < kept coefficient := by
  have reached : tenTo 0 ≤ coefficient := positive
  exact tenTo_le_kept reached

theorem pos_of_mul_eq_kept {coefficient digits zeros : Nat} (positive : 0 < coefficient)
    (value : digits * tenTo zeros = kept coefficient) : 0 < digits := by
  have keptPositive := kept_pos positive
  rw [← value] at keptPositive
  exact Nat.pos_of_mul_pos_right keptPositive

/-- Rounding to the precision moves a coefficient by no more than its distance to any number below
it that the precision can hold. -/
theorem kept_add_le {coefficient digits zeros : Nat} (short : length digits ≤ precision)
    (le : digits * tenTo zeros ≤ coefficient) :
    kept coefficient + digits * tenTo zeros ≤ 2 * coefficient := by
  rcases Nat.eq_zero_or_pos digits with zero | positive
  · subst zero
    have fromZero : kept coefficient + 0 * tenTo (beyond coefficient) ≤ 2 * coefficient :=
      nearest_mul_add_le (by simp)
    simpa using fromZero
  · rcases Nat.lt_or_ge (length (digits * tenTo zeros)) (length coefficient) with shorter | aligned
    · -- the power of ten of the first digit lies between the two
      have coefficientPositive : 0 < coefficient :=
        Nat.lt_of_lt_of_le (Nat.mul_pos positive (tenTo_pos zeros)) le
      have leading : tenTo (length coefficient - 1) ≤ coefficient :=
        (lt_length_iff coefficientPositive).mp (Nat.sub_lt (length_pos _) Nat.one_pos)
      have below : digits * tenTo zeros < tenTo (length coefficient - 1) :=
        Nat.lt_of_lt_of_le (lt_tenTo_length _) (tenTo_le_tenTo_iff.mpr (by omega))
      obtain ⟨factor, split⟩ := exists_leading coefficient
      rw [split] at leading below
      have moved := nearest_mul_add_le leading
      rw [← kept] at moved
      omega
    · obtain ⟨factor, split⟩ := exists_tenTo_eq_mul (beyond_le positive short aligned)
      rw [split, ← Nat.mul_assoc] at le ⊢
      exact nearest_mul_add_le le

/-! ## Fitting into the working range -/

/-- Above the least power of ten only the precision takes digits away. -/
theorem excessDigits_eq_beyond {coefficient : Nat} {exponent : Int}
    (settled : leastExponent ≤ exponent) :
    excessDigits coefficient exponent = beyond coefficient := by
  have none : (leastExponent - exponent).toNat = 0 := by omega
  rw [excessDigits, none, Nat.max_zero, beyond]

theorem fit_zero (negative : Bool) (exponent : Int) :
    fit negative 0 exponent =
      .ok (.finite negative 0 (max leastExponent (min topExponent exponent))) :=
  rfl

/-- A result within the precision is not changed, unless it is too large for the range. -/
theorem fit_of_short {coefficient : Nat} {exponent : Int} (negative : Bool)
    (positive : 0 < coefficient) (short : length coefficient ≤ precision)
    (settled : leastExponent ≤ exponent) :
    fit negative coefficient exponent =
      if topExponent < adjusted coefficient exponent then .error .overflow
      else .ok (.finite negative coefficient exponent) := by
  have excess : excessDigits coefficient exponent = 0 := by
    rw [excessDigits_eq_beyond settled]
    exact Nat.sub_eq_zero_of_le short
  simp [fit, excess, positive.ne', Nat.not_lt.mpr short]

/-- A result that gives up digits is rounded, and gives up one more if that gains a digit. -/
theorem fit_of_excess {coefficient : Nat} {exponent : Int} (negative : Bool)
    (positive : 0 < coefficient) (some : excessDigits coefficient exponent ≠ 0) :
    fit negative coefficient exponent =
      if precision < length (nearest coefficient (tenTo (excessDigits coefficient exponent))) then
        if nearest coefficient (tenTo (excessDigits coefficient exponent)) / 10 ≠ 0 ∧
            topExponent <
              adjusted (nearest coefficient (tenTo (excessDigits coefficient exponent)) / 10)
                (exponent + excessDigits coefficient exponent + 1) then .error .overflow
        else
          .ok (.finite negative
            (nearest coefficient (tenTo (excessDigits coefficient exponent)) / 10)
            (exponent + excessDigits coefficient exponent + 1))
      else if nearest coefficient (tenTo (excessDigits coefficient exponent)) ≠ 0 ∧
          topExponent <
            adjusted (nearest coefficient (tenTo (excessDigits coefficient exponent)))
              (exponent + excessDigits coefficient exponent) then .error .overflow
      else
        .ok (.finite negative (nearest coefficient (tenTo (excessDigits coefficient exponent)))
          (exponent + excessDigits coefficient exponent)) := by
  simp only [fit, positive.ne', if_false, some, dropDigits_eq_nearest]
  split
  · rfl
  · rfl

/-- A fitted result has at most as many digits as the precision, and has the value that rounding
to the precision keeps. -/
theorem fit_eq {coefficient : Nat} {exponent : Int} (negative : Bool) (positive : 0 < coefficient)
    (settled : leastExponent ≤ exponent) :
    ∃ digits gap : Nat, digits * tenTo gap = kept coefficient ∧ length digits ≤ precision ∧
      fit negative coefficient exponent =
        if topExponent < adjusted digits (exponent + gap) then .error .overflow
        else .ok (.finite negative digits (exponent + gap)) := by
  rcases Nat.lt_or_ge precision (length coefficient) with long | short
  · have excess : excessDigits coefficient exponent = beyond coefficient :=
      excessDigits_eq_beyond settled
    have some : beyond coefficient ≠ 0 := Nat.sub_ne_zero_of_lt long
    have roundedPositive : 0 < nearest coefficient (tenTo (beyond coefficient)) :=
      Nat.pos_of_mul_pos_right (kept_pos positive)
    have rounds := fit_of_excess negative positive (excess ▸ some)
    rw [excess] at rounds
    rcases Nat.lt_or_ge precision (length (nearest coefficient (tenTo (beyond coefficient)))) with
      gained | within
    · -- rounding up to the next power of ten gains a digit, which is a zero
      have upper : nearest coefficient (tenTo (beyond coefficient)) ≤ tenTo precision := by
        apply nearest_le (tenTo_pos _)
        rw [← tenTo_add, beyond, Nat.add_sub_cancel' long.le]
        exact (lt_tenTo_length coefficient).le
      have power : nearest coefficient (tenTo (beyond coefficient)) = tenTo precision :=
        Nat.le_antisymm upper ((lt_length_iff roundedPositive).mp gained)
      refine ⟨tenTo (precision - 1), beyond coefficient + 1, ?_, by decide, ?_⟩
      · rw [kept, power, ← tenTo_add, ← tenTo_add, precision]
        congr 1
        omega
      · have shorter : tenTo precision / 10 = tenTo (precision - 1) := by decide
        have nonzero : tenTo (precision - 1) ≠ 0 := by decide
        rw [rounds, if_pos gained, power, shorter]
        simp only [nonzero, ne_eq, not_false_eq_true, true_and, Nat.cast_add, Nat.cast_one,
          Int.add_assoc]
    · refine ⟨nearest coefficient (tenTo (beyond coefficient)), beyond coefficient, rfl, within, ?_⟩
      rw [rounds, if_neg (Nat.not_lt.mpr within)]
      simp only [roundedPositive.ne', ne_eq, not_false_eq_true, true_and]
  · refine ⟨coefficient, 0, ?_, short, ?_⟩
    · rw [tenTo_zero, Nat.mul_one, kept_of_short short]
    · rw [fit_of_short negative positive short settled]
      simp

end Checkout.Decimal
