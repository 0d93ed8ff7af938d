import Checkout.Proofs.Basket.Worth
import Checkout.Proofs.Decimal.Value

/-!
# The value of an amount

An amount of money stands for a hundredth of its minor units.  So an amount is a number rounded
half to even to two decimals exactly if its minor units are a hundred times that number rounded half
to even, and the amounts that can be held are those of a value below ten to the twenty-sixth.
-/

namespace Checkout.Money

open Decimal (signed nearest IsHalfEven)

theorem toRat_place (negative : Bool) (units : Nat) :
    (Decimal.finite negative units place).toRat = signed negative units / 100 := by
  rw [Decimal.toRat_finite, place]
  norm_num
  ring

theorem toRat_ofUnits (units : Nat) : (ofUnits units).toRat = units / 100 :=
  toRat_place false units

theorem abs_signed (negative : Bool) (units : Nat) : |(signed negative units : ℚ)| = units := by
  cases negative <;> simp [signed]

/-- Amounts of one sign have one value only if they have the same minor units. -/
theorem units_eq_of_toRat_eq {negative : Bool} {first second : Nat}
    (same : (Decimal.finite negative first place).toRat =
      (Decimal.finite negative second place).toRat) : first = second := by
  rw [toRat_place, toRat_place, div_left_inj' (by norm_num)] at same
  have magnitudes := congrArg abs same
  rw [abs_signed, abs_signed] at magnitudes
  exact_mod_cast magnitudes

/-- Amounts without a sign are equal only if they have the same minor units. -/
theorem same_ofUnits_iff {first second : Nat} :
    Amount.same (.decimal (ofUnits first)) (.decimal (ofUnits second)) = .ok true ↔
      first = second := by
  have byValue : Amount.same (.decimal (ofUnits first)) (.decimal (ofUnits second)) =
      .ok (Decimal.compare? (ofUnits first) (ofUnits second) == some .eq) := rfl
  rw [byValue, Except.ok.injEq, beq_iff_eq, ofUnits, ofUnits, Decimal.compare?_eq_compare_toRat,
    Option.some.injEq, compare_eq_iff_eq]
  exact ⟨units_eq_of_toRat_eq, fun same => by rw [same]⟩

/-- An amount of either sign is equal to itself. -/
theorem same_place (negative : Bool) (units : Nat) :
    Amount.same (.decimal (.finite negative units place))
      (.decimal (.finite negative units place)) = .ok true := by
  have byValue : Amount.same (.decimal (.finite negative units place))
      (.decimal (.finite negative units place)) =
      .ok (Decimal.compare? (.finite negative units place) (.finite negative units place) ==
        some .eq) := rfl
  rw [byValue, Decimal.compare?_eq_compare_toRat, compare_eq_iff_eq.mpr rfl, beq_self_eq_true]

theorem same_ofUnits (units : Nat) :
    Amount.same (.decimal (ofUnits units)) (.decimal (ofUnits units)) = .ok true :=
  same_place false units

theorem cast_limit : (limit : ℚ) = 10 ^ 28 :=
  Decimal.cast_tenTo 28

/-! ## Amounts that are not below zero -/

variable {x : Decimal}

theorem isMoney_of_isPrice (isPrice : Catalog.isPrice x = true) : isMoney x = true := by
  rw [Catalog.isPrice, Bool.and_eq_true] at isPrice
  exact isPrice.1

theorem toRat_of_isPrice (isPrice : Catalog.isPrice x = true) : x.toRat = units x / 100 := by
  obtain ⟨negative, shape, sign⟩ := isPrice_iff.mp isPrice
  rw [shape, toRat_place, ← shape]
  cases negative with
  | false => rfl
  | true => simp [signed, sign rfl]

theorem toRat_nonneg_of_isPrice (isPrice : Catalog.isPrice x = true) : 0 ≤ x.toRat := by
  rw [toRat_of_isPrice isPrice]
  positivity

/-- The minor units of an amount are at least those of another exactly if its value is. -/
theorem toRat_le_toRat_iff {y : Decimal} (isPrice : Catalog.isPrice x = true)
    (isOther : Catalog.isPrice y = true) : x.toRat ≤ y.toRat ↔ units x ≤ units y := by
  rw [toRat_of_isPrice isPrice, toRat_of_isPrice isOther, div_le_div_iff_of_pos_right (by norm_num)]
  exact Nat.cast_le

/-! ## Rounding to two decimals -/

/-- An amount is a number rounded half to even to two decimals. -/
structure IsRounded (exact : ℚ) (amount : Decimal) : Prop where
  isMoney : isMoney amount = true
  halfEven : ∃ units : ℤ, amount.toRat = units / 100 ∧ IsHalfEven (exact * 100) units

/-- A hundredth of some minor units is rounded to an amount exactly if the quotient by a hundred is
rounded to its minor units. -/
theorem isRounded_iff (isPrice : Catalog.isPrice x = true) (product : Nat) :
    IsRounded ((product : ℚ) / 100 / 100) x ↔ units x = nearest product 100 := by
  have hundredth : (product : ℚ) / 100 / 100 * 100 = product / (100 : Nat) := by
    push_cast
    ring
  constructor
  · rintro ⟨_, rounded, value, isHalfEven⟩
    rw [hundredth, Decimal.isHalfEven_iff_eq_nearest (by decide)] at isHalfEven
    rw [toRat_of_isPrice isPrice, div_left_inj' (by norm_num), isHalfEven] at value
    exact_mod_cast value
  · intro same
    refine ⟨isMoney_of_isPrice isPrice, units x, toRat_of_isPrice isPrice, ?_⟩
    rw [hundredth, Decimal.isHalfEven_iff_eq_nearest (by decide), same]

end Checkout.Money
