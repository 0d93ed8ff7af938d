import Checkout.Proofs.Decimal.Value
import Mathlib.Data.Int.Order.Lemmas
import Mathlib.Data.Nat.ModEq

/-!
# Numbers of equal value share their residue

A table files a number under its residue modulo a prime.  Ten has an inverse there, so a power of
ten has a residue whatever its exponent is, and a zero behind a coefficient counts as much as a
power of ten more.  Numbers of equal value are the same multiple of the smaller one of their powers
of ten, and the residue is that of the multiple.
-/

namespace Checkout.Decimal

open Text.Numeral (tenTo tenTo_pos)

/-! ## Powers -/

theorem modEq_pow_two_mul {base power half : Nat}
    (squared : power ≡ (base * base % modulus) ^ half [MOD modulus]) :
    power ≡ base ^ (2 * half) [MOD modulus] := by
  rw [pow_mul, pow_two]
  exact squared.trans ((Nat.mod_modEq _ _).pow half)

theorem powerModulo_modEq (base exponent : Nat) :
    powerModulo base exponent ≡ base ^ exponent [MOD modulus] := by
  induction base, exponent using powerModulo.induct with
  | case1 base =>
    rw [powerModulo, pow_zero]
  | case2 base exponent even ih =>
    have halved : 2 * ((exponent + 1) / 2) = exponent + 1 := by omega
    have power := modEq_pow_two_mul ih
    rw [powerModulo, if_pos even]
    rwa [halved] at power
  | case3 base exponent odd ih =>
    have halved : 2 * ((exponent + 1) / 2) = exponent := by omega
    have power := modEq_pow_two_mul ih
    rw [powerModulo, if_neg odd, Nat.succ_eq_add_one, pow_succ']
    rw [halved] at power
    exact (Nat.mod_modEq _ _).trans (power.mul_left base)

theorem ten_mul_inverseOfTen : 10 * inverseOfTen ≡ 1 [MOD modulus] := by
  decide

/-- The residue of a power of ten. -/
def tenPower (exponent : Int) : Nat :=
  powerModulo (if 0 ≤ exponent then 10 else inverseOfTen) exponent.natAbs

theorem tenPower_natCast (exponent : Nat) : tenPower exponent ≡ 10 ^ exponent [MOD modulus] :=
  powerModulo_modEq 10 exponent

theorem tenPower_neg (exponent : Nat) :
    tenPower (-exponent) ≡ inverseOfTen ^ exponent [MOD modulus] := by
  cases exponent with
  | zero => exact tenPower_natCast 0
  | succ exponent => exact powerModulo_modEq inverseOfTen (exponent + 1)

theorem tenPower_succ (exponent : Int) :
    tenPower (exponent + 1) ≡ 10 * tenPower exponent [MOD modulus] := by
  rcases Int.le_total 0 exponent with nonneg | negative
  · obtain ⟨exponent, rfl⟩ := Int.eq_ofNat_of_zero_le nonneg
    calc tenPower (exponent + 1)
      _ ≡ 10 ^ (exponent + 1) [MOD modulus] := tenPower_natCast (exponent + 1)
      _ = 10 * 10 ^ exponent := pow_succ' 10 exponent
      _ ≡ 10 * tenPower exponent [MOD modulus] := (tenPower_natCast exponent).symm.mul_left 10
  · obtain ⟨count, rfl⟩ : ∃ count : Nat, exponent = -count := ⟨exponent.natAbs, by omega⟩
    cases count with
    | zero => exact (tenPower_natCast 1).trans ((tenPower_natCast 0).symm.mul_left 10)
    | succ count =>
      have next : (-((count + 1 : Nat) : Int)) + 1 = -count := by omega
      rw [next]
      calc tenPower (-count)
        _ ≡ 1 * inverseOfTen ^ count [MOD modulus] := by
          rw [one_mul]
          exact tenPower_neg count
        _ ≡ 10 * inverseOfTen * inverseOfTen ^ count [MOD modulus] :=
          ten_mul_inverseOfTen.symm.mul_right _
        _ = 10 * inverseOfTen ^ (count + 1) := by rw [pow_succ', mul_assoc]
        _ ≡ 10 * tenPower (-(count + 1 : Nat)) [MOD modulus] :=
          (tenPower_neg (count + 1)).symm.mul_left 10

theorem tenPower_add (exponent : Int) (count : Nat) :
    tenPower (exponent + count) ≡ tenTo count * tenPower exponent [MOD modulus] := by
  induction count with
  | zero => simp [tenTo, Nat.ModEq]
  | succ count ih =>
    calc tenPower (exponent + (count + 1 : Nat))
      _ = tenPower (exponent + count + 1) := by rw [Nat.cast_succ, add_assoc]
      _ ≡ 10 * tenPower (exponent + count) [MOD modulus] := tenPower_succ _
      _ ≡ 10 * (tenTo count * tenPower exponent) [MOD modulus] := ih.mul_left 10
      _ = tenTo (count + 1) * tenPower exponent := by
        rw [Text.Numeral.tenTo_succ]
        ring

/-! ## Residues -/

/-- The residue of a multiple of a power of ten, except that minus one is not in use. -/
def residueOf (number exponent : Int) : Int :=
  let residue := number.sign * (number.natAbs * tenPower exponent % modulus : Nat)
  if residue = -1 then -2 else residue

theorem residue?_eq_residueOf (negative : Bool) (coefficient : Nat) {exponent common : Int}
    (le : common ≤ exponent) :
    residue? (.finite negative coefficient exponent) =
      some (residueOf (multiple negative coefficient exponent common) common) := by
  obtain ⟨count, rfl⟩ := Int.le.dest le
  have scaled : (common + count - common).toNat = count := by omega
  have moved : coefficient * tenPower (common + count) % modulus =
      coefficient * tenTo count * tenPower common % modulus := by
    rw [mul_assoc]
    exact (tenPower_add common count).mul_left coefficient
  have shape : residue? (.finite negative coefficient (common + count)) =
      some (if signed negative (coefficient * tenPower (common + count) % modulus) = -1 then -2
        else signed negative (coefficient * tenPower (common + count) % modulus)) := rfl
  rw [shape, moved, residueOf, multiple, scaled]
  generalize coefficient * tenTo count = number
  have parts : signed negative (number * tenPower common % modulus) =
      (signed negative number).sign *
        ((signed negative number).natAbs * tenPower common % modulus : Nat) := by
    rcases Nat.eq_zero_or_pos number with rfl | positive
    · cases negative <;> simp [signed]
    · have sign : (number : Int).sign = 1 := Int.sign_eq_one_of_pos (by exact_mod_cast positive)
      cases negative <;> simp [signed, sign]
  rw [parts]

/-- Finite numbers of equal value share their residue. -/
theorem residue?_eq_of_toRat_eq {firstNegative secondNegative : Bool} {first second : Nat}
    {firstExponent secondExponent : Int}
    (same : (finite firstNegative first firstExponent).toRat =
      (finite secondNegative second secondExponent).toRat) :
    residue? (.finite firstNegative first firstExponent) =
      residue? (.finite secondNegative second secondExponent) := by
  have firstLe := Int.min_le_left firstExponent secondExponent
  have secondLe := Int.min_le_right firstExponent secondExponent
  have power : (10 : ℚ) ^ min firstExponent secondExponent ≠ 0 := by positivity
  rw [toRat_eq_multiple _ _ firstLe, toRat_eq_multiple _ _ secondLe,
    mul_left_inj' power, Int.cast_inj] at same
  rw [residue?_eq_residueOf _ _ firstLe, residue?_eq_residueOf _ _ secondLe, same]

end Checkout.Decimal
