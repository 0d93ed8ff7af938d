import Checkout.Proofs.Offer.Described
import Checkout.Proofs.Offer.Granted
import Checkout.Proofs.Price.Exact
import Mathlib.Algebra.Order.BigOperators.Group.List
import Mathlib.Data.List.Perm.Subperm

/-!
# Offers on distinct items

A book that is read from a text takes no more off a basket than it is worth, as long as no two rules
are about the same item.  Each rule that applies is charged to the units of its item in the basket,
and what it takes off is not more than these units cost.
-/

namespace Checkout

open Money (ofUnits limit)

/-- What the units of an item in a basket cost; nothing where there is no item. -/
def Basket.costOf (basket : Basket) : Option ItemId → Nat
  | some item => basket.catalog.unitsOf item * basket.count item
  | none => 0

/-- The worth of a filled basket is the sum over the items that it holds. -/
theorem Basket.Filled.worth_eq {catalog : Catalog} {basket : Basket}
    (filled : basket.Filled catalog) :
    catalog.worthOf basket.counts =
      ((basket.counts.map fun entry => some entry.1).map basket.costOf).sum := by
  have tidy := filled.tidy
  rw [Catalog.worthOf, List.map_map]
  apply congrArg List.sum
  apply List.map_congr_left
  rintro ⟨item, count⟩ isEntry
  rw [(tidy.mem_counts_iff.mp isEntry).1, Function.comp_apply, Basket.costOf, tidy.catalog_eq]

/-- Distinct items that a filled basket holds cost no more together than the basket. -/
theorem Basket.Filled.sum_costOf_le {catalog : Catalog} {basket : Basket}
    (filled : basket.Filled catalog) {items : List (Option ItemId)} (distinct : items.Nodup)
    (held : ∀ item? ∈ items, ∃ item, item? = some item ∧ 0 < basket.count item) :
    (items.map basket.costOf).sum ≤ catalog.worthOf basket.counts := by
  have inBasket : items ⊆ basket.counts.map fun entry => some entry.1 := by
    intro item? isItem
    rcases held item? isItem with ⟨item, rfl, positive⟩
    rw [List.mem_map]
    exact ⟨(item, basket.count item), filled.tidy.mem_counts_iff.mpr ⟨rfl, positive⟩, rfl⟩
  obtain ⟨charged, perm, part⟩ := List.subperm_of_subset distinct inBasket
  rw [filled.worth_eq, ← (perm.map basket.costOf).sum_eq]
  exact (part.map basket.costOf).sum_le_sum fun _ _ => Nat.zero_le _

namespace Price

/-- Accepted rules on distinct items grant amounts of money, and no more of it than the basket is
worth. -/
theorem grants_le_worth {catalog : Catalog} {basket : Basket} (filled : basket.Filled catalog)
    (small : catalog.worthOf basket.counts < limit) {rules : List Rule}
    (accepted : ∀ rule ∈ rules, rule.Accepted catalog)
    (distinct : (rules.map Rule.discounted?).Nodup)
    (applied : ∀ rule ∈ rules, rule.isApplicable basket.quantities = true) :
    (∀ rule ∈ rules, GrantsMoney basket.quantities rule) ∧
      Entries.sumAll (rules.map (grantOf basket.quantities)) ≤ catalog.worthOf basket.counts := by
  have charge := filled.sum_costOf_le distinct
  have each : ∀ rule ∈ rules, GrantsMoney basket.quantities rule ∧
      (grantOf basket.quantities rule).2 ≤ basket.costOf rule.discounted? := by
    intro rule isRule
    rcases (accepted rule isRule).granted_le (applied rule isRule) with
      ⟨item, isItem, held, bounded⟩
    have alone : basket.costOf (some item) ≤ catalog.worthOf basket.counts := by
      have single := filled.sum_costOf_le (List.nodup_singleton (some item)) (by simp [held])
      simpa using single
    rw [Basket.costOf, filled.tidy.catalog_eq] at alone
    obtain ⟨amount, granted, isPrice, le⟩ := bounded (Nat.lt_of_le_of_lt alone small)
    obtain ⟨description, described⟩ := (accepted rule isRule).description_eq_ok
    have grants : Grants basket.quantities rule description amount := ⟨described, granted⟩
    refine ⟨⟨description, amount, grants, isPrice⟩, ?_⟩
    rw [grants.grantOf_eq, isItem, Basket.costOf, filled.tidy.catalog_eq]
    exact le
  refine ⟨fun rule isRule => (each rule isRule).1, ?_⟩
  calc
    Entries.sumAll (rules.map (grantOf basket.quantities)) =
        (rules.map fun rule => (grantOf basket.quantities rule).2).sum := by
      rw [Entries.sumAll, List.map_map]
      rfl
    _ ≤ (rules.map fun rule => basket.costOf rule.discounted?).sum :=
      List.sum_le_sum fun rule isRule => (each rule isRule).2
    _ = ((rules.map Rule.discounted?).map basket.costOf).sum := by
      rw [List.map_map]
      rfl
    _ ≤ catalog.worthOf basket.counts := by
      apply filled.sum_costOf_le distinct
      intro item? isItem
      rcases List.mem_map.mp isItem with ⟨rule, isRule, rfl⟩
      obtain ⟨item, same, held, _⟩ := (accepted rule isRule).granted_le (applied rule isRule)
      exact ⟨item, same, held⟩

/-- Accepted rules on distinct items leave every filled basket with an exact price, as long as its
worth can be held with two decimals. -/
theorem ofBasket_of_distinct {catalog : Catalog} {book : Offer.Book}
    (accepted : ∀ rule ∈ book.rules, rule.Accepted catalog)
    (distinct : (book.rules.map Rule.discounted?).Nodup) {basket : Basket}
    (filled : basket.Filled catalog) (small : catalog.worthOf basket.counts < limit) :
    let grants := (book.applicable basket.quantities).map (grantOf basket.quantities)
    Entries.sumAll grants ≤ catalog.worthOf basket.counts ∧
      ∃ price, (ofBasket catalog basket book).outcome = .ok price ∧
        IsExact (catalog.worthOf basket.counts) grants price := by
  intro grants
  have part : (book.applicable basket.quantities).Sublist book.rules := List.filter_sublist
  rcases grants_le_worth filled small (fun rule isRule => accepted rule (part.subset isRule))
    (distinct.sublist (part.map _)) (fun rule isRule => (List.mem_filter.mp isRule).2) with
    ⟨money, le⟩
  rcases ofBasket_cases filled money with
    ⟨_, _, price, priced, exact⟩ | ⟨failure, _, ⟨large, _⟩ | ⟨large, _⟩⟩
  · exact ⟨le, price, priced, exact⟩
  · exact absurd small (Nat.not_lt.mpr large)
  · exact absurd (Nat.lt_of_le_of_lt le small) (Nat.not_lt.mpr large)

/-- A book that is read from a text, with rules on distinct items, takes no more off a filled basket
than it is worth.  There is a price as long as the worth can be held with two decimals, and the
total is the subtotal less the discount without being raised to zero. -/
theorem ofBasket_discount_le_subtotal {catalog : Catalog} {source : Option String} {text : String}
    {book : Offer.Book}
    (read : (Offer.Book.ofText Parser.builtIn catalog source text).outcome = .ok book)
    (distinct : (book.rules.map Rule.discounted?).Nodup) {basket : Basket}
    (filled : basket.Filled catalog) (small : catalog.worthOf basket.counts < limit) :
    ∃ price taken, (ofBasket catalog basket book).outcome = .ok price ∧
      price.subtotal = .decimal (ofUnits (catalog.worthOf basket.counts)) ∧
      price.discount = .ok (ofUnits taken) ∧ taken ≤ catalog.worthOf basket.counts ∧
      price.total = .decimal (ofUnits (catalog.worthOf basket.counts - taken)) := by
  obtain ⟨le, price, priced, exact⟩ :=
    ofBasket_of_distinct (Offer.Book.accepted_of_ofText read) distinct filled small
  exact ⟨price, _, priced, exact.subtotal_eq, exact.discount_eq, le, exact.total_eq⟩

/-- A book with a discount on soup, and bread cheaper for two units of soup. -/
def leaflet : Offer.Book :=
  ⟨[.discount { catalog := Basket.pantry, item := Basket.soup, amount := none,
                percentage := some 10 },
    .bundle { discounted := Basket.bread, required := Basket.soup, amount := ofUnits 40,
              per := 2 }]⟩

/-- Soup and bread at 2.10 with both offers: no more than 2.10 is taken off. -/
theorem ofBasket_discount_meal :
    ∃ price taken, (ofBasket Basket.pantry Basket.meal leaflet).outcome = .ok price ∧
      price.subtotal = .decimal (ofUnits 210) ∧ price.discount = .ok (ofUnits taken) ∧
      taken ≤ 210 ∧ price.total = .decimal (ofUnits (210 - taken)) := by
  have read : (Offer.Book.ofText Parser.builtIn Basket.pantry none
      "Soup 10%\nBread 0.40 per 2 Soup").outcome = .ok leaflet := rfl
  exact ofBasket_discount_le_subtotal read (by decide) Basket.filled_meal (by decide)

end Price

end Checkout
