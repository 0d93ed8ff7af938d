import Checkout.Proofs.Offer.Product

/-!
# Bundles in growing baskets

A bundle makes as many units cheaper as there are full counts of the required item, but no more than
there are of the discounted one.  Whether it applies is asked in another way, and yet it applies
exactly if it makes a unit cheaper.  More units of any item do not make fewer of them cheaper, so a
bundle that applies goes on to apply, and what it takes off does not become less.

Nothing here depends on where the quantities come from: they may be below zero, and the two items
may be the same.
-/

namespace Checkout.Bundle

open Discount (IsProduct)

variable {bundle : Bundle} {view : Quantities}

/-! ## The units that are cheaper -/

theorem eligible_eq_ok (counted : 0 < bundle.per) :
    bundle.eligible view = .ok (bundle.cheaper view) :=
  if_neg counted.ne'

theorem isApplicable_iff (counted : 0 < bundle.per) :
    bundle.isApplicable view = true ↔ 1 ≤ bundle.cheaper view := by
  have full : bundle.per ≤ view bundle.required ↔ 1 ≤ view bundle.required / bundle.per := by
    rw [Int.le_ediv_iff_mul_le counted, Int.one_mul]
  rw [isApplicable, Bool.and_eq_true, decide_eq_true_eq, decide_eq_true_eq, cheaper_eq counted,
    le_min_iff, full]
  exact Iff.rfl

theorem per_mul_cheaper_le (counted : 0 < bundle.per) :
    bundle.per * bundle.cheaper view ≤ view bundle.required := by
  rw [cheaper_eq counted]
  calc
    bundle.per * min (view bundle.required / bundle.per) (view bundle.discounted) ≤
        bundle.per * (view bundle.required / bundle.per) :=
      Int.mul_le_mul_of_nonneg_left (Int.min_le_left _ _) counted.le
    _ ≤ view bundle.required := Int.mul_ediv_self_le counted.ne'

/-! ## What is taken off -/

/-- A bundle takes an amount off each unit that it makes cheaper, and its count is not zero. -/
structure TakesAmount (bundle : Bundle) (amount : Decimal) : Prop where
  amount_eq : bundle.amount = .decimal amount
  isPrice : Catalog.isPrice amount = true
  counted : 0 < bundle.per

/-- What a bundle with an amount does in a basket where it makes so many units cheaper. -/
structure HasEffect (bundle : Bundle) (amount : Decimal) (view : Quantities) (units : ℤ) :
    Prop where
  eligible_eq : bundle.eligible view = .ok units
  applies_iff : bundle.isApplicable view = true ↔ 1 ≤ units
  required : bundle.isApplicable view = true → bundle.per * units ≤ view bundle.required
  product : bundle.isApplicable view = true → IsProduct amount units (bundle.granted view)
  nothing : bundle.isApplicable view = false → bundle.granted view = .ok Decimal.zeroCents
  bounded : ∀ granted, bundle.granted view = .ok granted →
    0 ≤ granted.toRat ∧ granted.toRat ≤ amount.toRat * (max (view bundle.discounted) 0 : ℤ)

variable {amount : Decimal}

/-- A bundle that is read takes an amount that is not below zero. -/
theorem exists_takesAmount {catalog : Catalog} {line : List Char}
    (read : Parser.bundle.parse catalog line = .ok (some (.bundle bundle))) :
    ∃ amount, TakesAmount bundle amount := by
  rw [Parser.parse, Except.ok.injEq] at read
  obtain ⟨_, isRead, same⟩ := Option.map_eq_some_iff.mp read
  cases same
  cases accepted_of_read? isRead with
  | bundle found small le positive =>
    exact ⟨_, rfl, Money.isPrice_ofUnits _, Int.natCast_pos.mpr positive⟩

theorem granted_of_not_applies (refused : bundle.isApplicable view = false) :
    bundle.granted view = .ok Decimal.zeroCents := by
  simp [granted, refused]

theorem TakesAmount.isProduct_granted (takes : TakesAmount bundle amount)
    (applies : bundle.isApplicable view = true) :
    IsProduct amount (bundle.cheaper view) (bundle.granted view) := by
  have product : bundle.granted view =
      Discount.timesQuantity (.decimal amount) (bundle.cheaper view) := by
    simp only [granted, applies, if_true, eligible_eq_ok takes.counted, takes.amount_eq]
    rfl
  have some := (isApplicable_iff takes.counted).mp applies
  rw [product]
  exact Discount.isProduct_timesQuantity takes.isPrice (by omega)

/-- What is taken off is the amount for each of the units that are cheaper, if there are any. -/
theorem TakesAmount.toRat_granted (takes : TakesAmount bundle amount) {granted : Decimal}
    (done : bundle.granted view = .ok granted) :
    granted.toRat = amount.toRat * (max (bundle.cheaper view) 0 : ℤ) := by
  cases applies : bundle.isApplicable view with
  | true =>
    have some := (isApplicable_iff takes.counted).mp applies
    rw [(takes.isProduct_granted applies).toRat_eq done,
      max_eq_left (by omega : 0 ≤ bundle.cheaper view)]
  | false =>
    have none : ¬1 ≤ bundle.cheaper view := by
      rw [← isApplicable_iff takes.counted, applies]
      exact Bool.false_ne_true
    rw [granted_of_not_applies applies, Except.ok.injEq] at done
    rw [max_eq_right (by omega : bundle.cheaper view ≤ 0), Int.cast_zero, mul_zero, ← done]
    simp [Decimal.zeroCents, Decimal.toRat_finite, Decimal.signed]

theorem TakesAmount.hasEffect (takes : TakesAmount bundle amount) (view : Quantities) :
    HasEffect bundle amount view (bundle.cheaper view) where
  eligible_eq := eligible_eq_ok takes.counted
  applies_iff := isApplicable_iff takes.counted
  required _ := per_mul_cheaper_le takes.counted
  product := takes.isProduct_granted
  nothing := granted_of_not_applies
  bounded granted done := by
    have notNegative := Money.toRat_nonneg_of_isPrice takes.isPrice
    have fewer : max (bundle.cheaper view) 0 ≤ max (view bundle.discounted) 0 :=
      max_le_max_right 0 (min_le_right _ _)
    rw [takes.toRat_granted done]
    constructor
    · exact mul_nonneg notNegative (Int.cast_nonneg (le_max_right _ _))
    · exact mul_le_mul_of_nonneg_left (Int.cast_le.mpr fewer) notNegative

/-! ## More units -/

/-- A bundle that is read takes an amount off the units that it makes cheaper, and applies exactly
if there are any.  Where there are more units it goes on to apply, makes no fewer of them cheaper
and takes off no less. -/
theorem hasEffect_mono_of_parse {catalog : Catalog} {line : List Char}
    (read : Parser.bundle.parse catalog line = .ok (some (.bundle bundle))) :
    ∃ amount, bundle.amount = .decimal amount ∧
      ∀ first second : Quantities, (∀ item, first item ≤ second item) →
        ∃ units later, HasEffect bundle amount first units ∧
          HasEffect bundle amount second later ∧ units ≤ later ∧
          (bundle.isApplicable first = true → bundle.isApplicable second = true) ∧
          ∀ granted more, bundle.granted first = .ok granted → bundle.granted second = .ok more →
            0 ≤ granted.toRat ∧ granted.toRat ≤ more.toRat := by
  obtain ⟨amount, takes⟩ := exists_takesAmount read
  refine ⟨amount, takes.amount_eq, fun first second more => ?_⟩
  have effect := takes.hasEffect first
  have laterEffect := takes.hasEffect second
  have grows := cheaper_le_cheaper takes.counted more
  refine ⟨_, _, effect, laterEffect, grows, ?_, ?_⟩
  · rw [effect.applies_iff, laterEffect.applies_iff]
    exact fun some => some.trans grows
  · intro granted moreGranted done doneMore
    refine ⟨(effect.bounded granted done).1, ?_⟩
    rw [takes.toRat_granted done, takes.toRat_granted doneMore]
    exact mul_le_mul_of_nonneg_left (Int.cast_le.mpr (max_le_max_right 0 grows))
      (Money.toRat_nonneg_of_isPrice takes.isPrice)

/-- Without bread nothing is taken off, although there is soup for two; with seven units of both, it
is the amount for three. -/
theorem hasEffect_mono_of_parse_soup :
    let bundle : Bundle := { discounted := Basket.bread, required := Basket.soup,
                             amount := .decimal (Money.ofUnits 40), per := 2 }
    let few : Quantities := fun item => if item = Basket.soup then 5 else -1
    let many : Quantities := fun _ => 7
    Parser.bundle.parse Basket.pantry "Bread 0.40 per 2 Soup".toList =
        .ok (some (.bundle bundle)) ∧
      (∀ item, few item ≤ many item) ∧
      bundle.granted few = .ok Decimal.zeroCents ∧
      ∃ amount, bundle.granted many = .ok amount ∧ amount.toRat = 6 / 5 := by
  intro bundle few many
  have read : Parser.bundle.parse Basket.pantry "Bread 0.40 per 2 Soup".toList =
      .ok (some (.bundle bundle)) := rfl
  have more : ∀ item, few item ≤ many item := by
    intro item
    simp only [few, many]
    split <;> decide
  obtain ⟨amount, isAmount, views⟩ := hasEffect_mono_of_parse read
  obtain ⟨units, later, effect, laterEffect, _⟩ := views few many more
  cases isAmount
  have three : later = 3 := Except.ok.inj (laterEffect.eligible_eq.symm.trans rfl)
  have value : (Money.ofUnits 40).toRat * (later : ℤ) = 6 / 5 := by
    rw [three, Money.toRat_ofUnits]
    norm_num
  obtain ⟨granted, done, _, exact⟩ := (laterEffect.product rfl).exact (by rw [value]; norm_num)
  exact ⟨read, more, effect.nothing rfl, granted, done, exact.trans value⟩

end Checkout.Bundle
