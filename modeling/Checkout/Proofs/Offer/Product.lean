import Checkout.Proofs.Money.Value
import Checkout.Proofs.Offer.Granted

/-!
# Amounts off some units as products

What a rule takes off some units is the product of an amount and their number.  It is rounded
twice, to the precision and to two decimals, and still nothing inexact is ever taken off: a product
that can be held with two decimals is exact, and any other one is a failure of the arithmetic.
-/

namespace Checkout.Discount

open Money (limit)

/-- An outcome is so many units of an amount: their exact value if an amount can have it, and a
failure of the arithmetic if not. -/
structure IsProduct (part : Decimal) (count : ℤ) (outcome : Except Fault Decimal) : Prop where
  exact : part.toRat * count < 10 ^ 26 →
    ∃ amount, outcome = .ok amount ∧ Money.isMoney amount = true ∧
      amount.toRat = part.toRat * count
  fails_iff : (∃ failure, outcome = .error (.arithmetic failure)) ↔ 10 ^ 26 ≤ part.toRat * count

variable {part : Decimal} {count : ℤ}

/-- The value of a product is below that of the first amount that can not be held exactly if its
minor units are. -/
theorem product_lt_iff (isPrice : Catalog.isPrice part = true) (count : Nat) :
    part.toRat * count < 10 ^ 26 ↔ Money.units part * count < limit := by
  have scaled : part.toRat * count = (Money.units part * count : Nat) / 100 := by
    rw [Money.toRat_of_isPrice isPrice]
    push_cast
    ring
  have top : (10 : ℚ) ^ 26 = limit / 100 := by
    rw [Money.cast_limit]
    norm_num
  rw [scaled, top, div_lt_div_iff_of_pos_right (by norm_num), Nat.cast_lt]

/-- Taking an amount off so many units is working out their product. -/
theorem isProduct_timesQuantity (isPrice : Catalog.isPrice part = true) (notNegative : 0 ≤ count) :
    IsProduct part count (timesQuantity (.decimal part) count) := by
  obtain ⟨count, rfl⟩ := Int.eq_ofNat_of_zero_le notNegative
  have below := product_lt_iff isPrice count
  rw [← Int.cast_natCast] at below
  rcases timesQuantity_cases isPrice count with
    ⟨small, amount, exact, isAmount, units⟩ | ⟨failure, failed, large⟩
  · have value : amount.toRat = part.toRat * (count : ℤ) := by
      rw [Money.toRat_of_isPrice isAmount, Money.toRat_of_isPrice isPrice, units]
      push_cast
      ring
    refine ⟨fun _ => ⟨amount, exact, Money.isMoney_of_isPrice isAmount, value⟩, ?_⟩
    constructor
    · rintro ⟨failure, failed⟩
      rw [exact] at failed
      cases failed
    · intro beyond
      exact absurd (below.mpr small) (not_lt.mpr beyond)
  · have beyond : ¬ part.toRat * (count : ℤ) < 10 ^ 26 := fun less =>
      absurd (below.mp less) (Nat.not_lt.mpr large)
    refine ⟨fun less => absurd less beyond, ?_⟩
    constructor
    · exact fun _ => not_lt.mp beyond
    · exact fun _ => ⟨failure, failed⟩

/-- What is taken off has the value of the product. -/
theorem IsProduct.toRat_eq {outcome : Except Fault Decimal}
    (isProduct : IsProduct part count outcome) {amount : Decimal}
    (done : outcome = .ok amount) : amount.toRat = part.toRat * count := by
  subst done
  rcases lt_or_ge (part.toRat * count) (10 ^ 26) with below | beyond
  · obtain ⟨other, same, _, value⟩ := isProduct.exact below
    cases same
    exact value
  · obtain ⟨failure, failed⟩ := isProduct.fails_iff.mpr beyond
    cases failed

end Checkout.Discount
