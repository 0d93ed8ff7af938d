import Checkout.Proofs.Price.Bounded
import Checkout.Proofs.Price.Independent

/-!
# Adding an item never takes an offer away

A customer who adds one unit more of an item pays its unit price more before offers, keeps every
offer, and is granted no less under any description.  The same holds of the arithmetic: a basket
that can be priced could be priced before the unit was added, since every sum was smaller then.
-/

namespace Checkout

open Money (ofUnits limit)

namespace Price

/-- How a price goes on when a unit is added to the basket: the subtotal increases by what the unit
costs, every offer stays, and neither what it takes off nor the discount becomes less. -/
structure Grown (unit : Nat) (before after : Price) : Prop where
  subtotal : ∃ worth, before.subtotal = .decimal (ofUnits worth) ∧
    after.subtotal = .decimal (ofUnits (worth + unit))
  offers : ∀ description amount, (description, amount) ∈ before.offers →
    ∃ less more, amount = .decimal (ofUnits less) ∧ less ≤ more ∧
      (description, .decimal (ofUnits more)) ∈ after.offers
  discount : ∃ less more, before.discount = .ok (ofUnits less) ∧ less ≤ more ∧
    after.discount = .ok (ofUnits more)

/-- Exact prices grow with the amounts that they show. -/
theorem IsExact.grown {worth unit : Nat} {first second : List (String × Nat)}
    {before after : Price} (exact : IsExact worth first before)
    (exactAfter : IsExact (worth + unit) second after)
    (covered : Entries.CoveredBy first second) : Grown unit before after := by
  refine ⟨⟨worth, exact.subtotal_eq, exactAfter.subtotal_eq⟩, ?_,
    ⟨_, _, exact.discount_eq, covered.sumAll_le, exactAfter.discount_eq⟩⟩
  intro description amount isOffer
  obtain ⟨isKey, shape⟩ := (exact.mem_offers_iff description amount).mp isOffer
  refine ⟨_, _, shape, covered.sumUnder_le description, ?_⟩
  exact (exactAfter.mem_offers_iff _ _).mpr ⟨covered.mem_map_fst isKey, rfl⟩

/-- The rules that grant amounts of money for a basket did so before a unit was added, and granted
no more. -/
theorem coveredBy_grants {catalog : Catalog} {basket next : Basket} {book : Offer.Book}
    (accepted : ∀ rule ∈ book.rules, rule.Accepted catalog)
    (more : ∀ item, basket.quantities item ≤ next.quantities item)
    (money : ∀ rule ∈ book.applicable next.quantities, GrantsMoney next.quantities rule) :
    (∀ rule ∈ book.applicable basket.quantities, GrantsMoney basket.quantities rule) ∧
      Entries.CoveredBy ((book.applicable basket.quantities).map (grantOf basket.quantities))
        ((book.applicable next.quantities).map (grantOf next.quantities)) := by
  have each : ∀ rule ∈ book.rules, rule.isApplicable basket.quantities = true →
      rule.isApplicable next.quantities = true ∧ GrantsMoney basket.quantities rule ∧
        (grantOf basket.quantities rule).1 = (grantOf next.quantities rule).1 ∧
        (grantOf basket.quantities rule).2 ≤ (grantOf next.quantities rule).2 := by
    intro rule isRule applies
    have goesOn := (accepted rule isRule).isApplicable_mono more applies
    obtain ⟨description, amount, grants, _⟩ := money rule (List.mem_filter.mpr ⟨isRule, goesOn⟩)
    obtain ⟨before, granted, isPrice, le⟩ :=
      (accepted rule isRule).granted_mono more applies grants.granted_eq
    have grantsBefore : Grants basket.quantities rule description before :=
      ⟨grants.description_eq, granted⟩
    refine ⟨goesOn, ⟨description, before, grantsBefore, isPrice⟩, ?_⟩
    rw [grants.grantOf_eq, grantsBefore.grantOf_eq]
    exact ⟨rfl, le⟩
  constructor
  · intro rule isApplied
    obtain ⟨isRule, applies⟩ := List.mem_filter.mp isApplied
    exact (each rule isRule applies).2.1
  · apply Entries.coveredBy_filter
    intro rule isRule applies
    obtain ⟨goesOn, _, grows⟩ := each rule isRule applies
    exact ⟨goesOn, grows⟩

/-- Adding an item never takes an offer away.  If a basket is priced by a book that the built-in
parsers have read, after an item was added, then it could be priced before, and the price has grown
by the unit price of the item. -/
theorem ofBasket_grown_of_add {catalog : Catalog} {source : Option String}
    {lines : List DataFile.Line} {book : Offer.Book}
    (read : (Offer.Book.ofLines Parser.builtIn catalog source lines).outcome = .ok book)
    {basket next : Basket} (filled : basket.Filled catalog) {reference : ItemRef} {item : ItemId}
    (added : (basket.add reference).outcome = .ok (item, next)) {after : Price}
    (priced : (ofBasket catalog next book).outcome = .ok after) :
    ∃ unit before, catalog.price? item = some unit ∧
      (ofBasket catalog basket book).outcome = .ok before ∧
      Grown (Money.units unit) before after := by
  have accepted := Offer.Book.accepted_of_ofLines read
  have nextFilled := filled.add added
  obtain ⟨isAccepted, rfl⟩ := Basket.add_eq_ok_iff.mp added
  rw [Basket.accept_eq_ok_iff, filled.tidy.catalog_eq] at isAccepted
  obtain ⟨unit, found⟩ := Option.isSome_iff_exists.mp isAccepted.2
  have unitsOf : catalog.unitsOf item = Money.units unit := by simp [Catalog.unitsOf, found]
  have worth := catalog.worthOf_counts_put basket item
  rw [unitsOf] at worth
  have more : ∀ other, basket.quantities other ≤ (basket.put item).quantities other := by
    intro other
    simp only [Basket.quantities, Basket.count_put]
    omega
  have money : ∀ rule ∈ book.applicable (basket.put item).quantities,
      GrantsMoney (basket.put item).quantities rule := by
    by_contra fails
    obtain ⟨failure, failed⟩ := ofBasket_fails nextFilled accepted fails
    rw [failed] at priced
    cases priced
  obtain ⟨moneyBefore, covered⟩ := coveredBy_grants accepted more money
  rcases ofBasket_cases nextFilled money with
    ⟨small, within, price, isPriced, exact⟩ | ⟨failure, failed, _⟩
  · rw [priced] at isPriced
    cases isPriced
    rw [worth] at small exact
    rcases ofBasket_cases filled moneyBefore with
      ⟨_, _, before, pricedBefore, exactBefore⟩ | ⟨failure, _, ⟨large, _⟩ | ⟨large, _⟩⟩
    · exact ⟨unit, before, found, pricedBefore, exactBefore.grown exact covered⟩
    · omega
    · have sums := covered.sumAll_le
      omega
  · rw [failed] at priced
    cases priced

/-- The meal of soup and bread, and then one more bread. -/
theorem ofBasket_grown_of_add_meal :
    ∃ after unit before,
      (ofBasket Basket.pantry (Basket.meal.put Basket.bread) leaflet).outcome = .ok after ∧
      Basket.pantry.price? Basket.bread = some unit ∧
      (ofBasket Basket.pantry Basket.meal leaflet).outcome = .ok before ∧
      Grown (Money.units unit) before after := by
  have read : (Offer.Book.ofLines Parser.builtIn Basket.pantry none
      (DataFile.linesOf "Soup 10%\nBread 0.40 per 2 Soup".toList)).outcome = .ok leaflet := rfl
  have added : (Basket.meal.add (.named "bread")).outcome =
      .ok (Basket.bread, Basket.meal.put Basket.bread) := rfl
  obtain ⟨_, after, priced, _⟩ := ofBasket_of_distinct (Offer.Book.accepted_of_ofLines read)
    (by decide) (Basket.filled_meal.add added) (by decide)
  obtain ⟨unit, before, rest⟩ := ofBasket_grown_of_add read Basket.filled_meal added priced
  exact ⟨after, unit, before, priced, rest⟩

end Price

end Checkout
