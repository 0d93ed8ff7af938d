import Checkout.Proofs.Offer.Accepted
import Checkout.Proofs.Price.Settled

/-!
# Prices are exact

Every rule of a book that applies grants an amount of money, of any number of digits.  Then a price
that is worked out has lost no digit: what it shows is computed on whole numbers of minor units,
where nothing is rounded.  There is no price exactly if the worth of the basket or what is taken off
it can not be held with two decimals.
-/

namespace Checkout

open Decimal (Failure)
open Money (ofUnits limit vast Records Running Refused Settles)

namespace Price

/-- The price of a basket of some worth, with what is taken off it by description, all in minor
units: no amount is rounded, and no zero has a minus sign. -/
structure IsExact (worth : Nat) (grants : List (String × Nat)) (price : Price) : Prop where
  subtotal_eq : price.subtotal = .decimal (ofUnits worth)
  total_eq : price.total = .decimal (ofUnits (worth - Entries.sumAll grants))
  ordered : (price.offers.map Prod.fst).Pairwise (· < ·)
  mem_offers_iff : ∀ description amount, (description, amount) ∈ price.offers ↔
    description ∈ grants.map Prod.fst ∧
      amount = .decimal (ofUnits (Entries.sumUnder description grants))
  discount_eq : price.discount = .ok (ofUnits (Entries.sumAll grants))

/-! ## Exact sums -/

/-- The running sums below the limit are the exact amounts. -/
theorem eq_map_ofUnits {slack : Nat} {combined : List (String × Decimal)}
    {entries : List (String × Nat)} (matched : Entries.Matched (Running slack) combined entries)
    (small : Entries.sumAll entries < limit) :
    combined = entries.map fun entry => (entry.1, ofUnits entry.2) := by
  induction matched with
  | nil => rfl
  | @cons grant entry grants entries first _ ih =>
    obtain ⟨description, amount⟩ := grant
    obtain ⟨known, number⟩ := entry
    rcases first with ⟨rfl, running⟩
    rw [Entries.sumAll_cons] at small
    dsimp only at small
    have exact : amount = ofUnits number := running.eq_ofUnits (by omega)
    rw [List.map_cons, ← ih (by omega), exact]

/-- The sum of what is taken off does not depend on the order. -/
theorem sum_settles {combined rearranged : List (String × Decimal)} {entries : List (String × Nat)}
    (perm : rearranged.Perm combined)
    (matched : Entries.Matched (Running 2) combined entries) :
    Settles 4 (Decimal.sumFrom Decimal.zeroCents (rearranged.map Prod.snd))
      (Entries.sumAll entries) := by
  have records : List.Forall₂ (Records 2) (combined.map Prod.snd) (entries.map Prod.snd) :=
    matched.values.imp fun _ _ => Running.records
  obtain ⟨units, rearrangedRecords, same⟩ := List.perm_comp_forall₂ (perm.map Prod.snd) records
  have settles := Money.sumFrom_running (by decide) (by decide) rearrangedRecords
    (Money.running_zero (by decide))
  rwa [Nat.zero_add, same.sum_eq] at settles

/-- The price whose amounts are exact sums is exact. -/
theorem isExact_ofDecimals {worth : Nat} {units : List (String × Nat)} {subtotal total : Decimal}
    {combined : List (String × Decimal)}
    (matched : Entries.Matched (Running 2) combined (Entries.collect [] units))
    (small : Entries.sumAll units < limit) (subtotalExact : subtotal = ofUnits worth)
    (totalExact : total = ofUnits (worth - Entries.sumAll units)) :
    IsExact worth units (ofDecimals subtotal total combined) := by
  have sums := Entries.sumAll_collect_nil units
  have none : (([] : List (String × Nat)).map Prod.fst).Nodup := List.nodup_nil
  have collected := Entries.nodup_collect none units
  have distinct : (combined.map Prod.fst).Nodup := by
    rw [matched.map_fst_eq]
    exact collected
  have shape := eq_map_ofUnits matched (sums ▸ small)
  constructor
  · rw [← subtotalExact]
    rfl
  · rw [← totalExact]
    rfl
  · rw [ofDecimals_offers subtotal total distinct, List.map_map]
    exact sorted_pairwise distinct
  · intro description amount
    have found : ∀ number, (description, number) ∈ Entries.collect [] units ↔
        description ∈ units.map Prod.fst ∧ number = Entries.sumUnder description units := by
      intro number
      rw [Entries.mem_iff_get? collected, Entries.get?_collect]
      split <;> simp_all [eq_comm]
    rw [ofDecimals_offers subtotal total distinct,
      ((sorted_perm combined).map fun offer => (offer.1, Amount.decimal offer.2)).mem_iff, shape,
      List.map_map, List.mem_map]
    constructor
    · rintro ⟨⟨known, number⟩, isEntry, same⟩
      rw [Function.comp_apply, Prod.mk.injEq] at same
      dsimp only at same
      rcases same with ⟨rfl, rfl⟩
      obtain ⟨isKey, sum⟩ := (found number).mp isEntry
      exact ⟨isKey, by rw [sum]⟩
    · rintro ⟨isKey, rfl⟩
      exact ⟨_, (found _).mpr ⟨isKey, rfl⟩, rfl⟩
  · have settles := sum_settles (sorted_perm combined) matched
    rw [sums] at settles
    rw [ofDecimals_discount subtotal total distinct]
    rcases Money.round_of_settles settles with ⟨_, exact⟩ | ⟨failure, _, large, _⟩
    · rw [exact]
      rfl
    · omega

/-- The price of a worth below the limit and of granted amounts of money: it is exact, or it is
refused because too much is taken off. -/
theorem settle_cases {worth : Nat} (small : worth < limit) {grants : List (String × Decimal)}
    {units : List (String × Nat)} (matched : Entries.Matched (Records 1) grants units) :
    (Entries.sumAll units < limit ∧
        ∃ price, settle (ofUnits worth) grants = .ok price ∧ IsExact worth units price) ∨
      ∃ failure, settle (ofUnits worth) grants = .error failure ∧
        Refused (Entries.sumAll units) failure := by
  have none : Entries.Matched (Running 2) ([] : List (String × Decimal)) [] := .nil
  rcases combineFrom_settles matched none with
    ⟨combined, done, running⟩ | ⟨failure, failed, refused⟩
  · have collected := Entries.sumAll_collect_nil units
    have inOrder := sum_settles (List.Perm.refl combined) running
    have rearranged := sum_settles (sorted_perm combined) running
    rw [collected] at inOrder rearranged
    rcases totalOf_settles small inOrder with ⟨total, totalled, exact⟩ | ⟨failure, failed, refused⟩
    · rcases Money.round_of_settles rearranged with ⟨within, rounded⟩ | ⟨failure, failed, refused⟩
      · refine .inl ⟨within, ofDecimals (ofUnits worth) total combined, ?_, ?_⟩
        · rw [settle, done]
          simp only [bind, bind_ok, totalled, rounded]
        · exact isExact_ofDecimals running within rfl (exact within)
      · refine .inr ⟨failure, ?_, refused⟩
        rw [settle, done]
        simp only [bind, bind_ok, bind_error, totalled, failed]
    · refine .inr ⟨failure, ?_, refused⟩
      rw [settle, done]
      simp only [bind, bind_ok, bind_error, failed]
  · refine .inr ⟨failure, ?_, ?_⟩
    · rw [settle, failed]
      rfl
    · rwa [Entries.sumAll_nil, Nat.zero_add] at refused

/-! ## Rules that grant amounts of money -/

/-- A rule takes an amount of money off that is not below zero, under a description. -/
def GrantsMoney (quantities : Quantities) (rule : Rule) : Prop :=
  ∃ description amount, Grants quantities rule description amount ∧ Catalog.isPrice amount = true

/-- The description of a rule with the minor units that it takes off. -/
def grantOf (quantities : Quantities) (rule : Rule) : String × Nat :=
  (rule.description.toOption.getD "",
    match rule.granted quantities with
    | .ok (.decimal amount) => Money.units amount
    | _ => 0)

theorem Grants.grantOf_eq {quantities : Quantities} {rule : Rule} {description : String}
    {amount : Decimal} (grants : Grants quantities rule description amount) :
    grantOf quantities rule = (description, Money.units amount) := by
  rw [grantOf, grants.description_eq, grants.granted_eq]
  rfl

/-- Rules that grant amounts of money grant numbers that stand for their minor units. -/
theorem grantAll_of_grantsMoney {quantities : Quantities} {rules : List Rule}
    (money : ∀ rule ∈ rules, GrantsMoney quantities rule) :
    ∃ grants, GrantAll quantities rules grants ∧
      Entries.Matched (Records 1) grants (rules.map (grantOf quantities)) := by
  induction rules with
  | nil => exact ⟨[], .nil, .nil⟩
  | cons rule rest ih =>
    rcases ih fun other isOther => money other (List.mem_cons_of_mem _ isOther) with
      ⟨grants, granted, matched⟩
    obtain ⟨description, amount, first, isPrice⟩ := money rule List.mem_cons_self
    refine ⟨(description, amount) :: grants, .cons first granted, .cons ?_ matched⟩
    rw [first.grantOf_eq]
    exact ⟨rfl, Money.records_of_isPrice isPrice⟩

/-- A filled basket is priced exactly, or the price is refused because the worth or what is taken
off is too large. -/
theorem ofBasket_cases {catalog : Catalog} {basket : Basket} (filled : basket.Filled catalog)
    {book : Offer.Book}
    (money : ∀ rule ∈ book.applicable basket.quantities, GrantsMoney basket.quantities rule) :
    let worth := catalog.worthOf basket.counts
    let grants := (book.applicable basket.quantities).map (grantOf basket.quantities)
    (worth < limit ∧ Entries.sumAll grants < limit ∧
        ∃ price, (ofBasket catalog basket book).outcome = .ok price ∧ IsExact worth grants price) ∨
      ∃ failure, (ofBasket catalog basket book).outcome = .error (.arithmetic failure) ∧
        (Refused worth failure ∨ Refused (Entries.sumAll grants) failure) := by
  intro worth units
  rcases subtotalOf_filled filled with ⟨small, priced⟩ | ⟨failure, failed, refused⟩
  · obtain ⟨grants, granted, matched⟩ := grantAll_of_grantsMoney money
    rw [ofBasket_outcome priced granted]
    rcases settle_cases small matched with
      ⟨within, price, settled, exact⟩ | ⟨failure, failed, refused⟩
    · rw [settled]
      exact .inl ⟨small, within, price, rfl, exact⟩
    · rw [failed]
      exact .inr ⟨failure, rfl, .inr refused⟩
  · exact .inr ⟨failure, ofBasket_of_subtotalOf_error failed book, .inl refused⟩

/-! ## The main result -/

/-- Pricing is exact or fails.  There is a price exactly if the worth of the basket and what is
taken off it can be held with two decimals, and then no amount of it is rounded.  Otherwise the
arithmetic fails, and the range of numbers is only left where one of the two is vast. -/
theorem ofBasket_exact_or_fails {catalog : Catalog} {basket : Basket}
    (filled : basket.Filled catalog) {rules : List Rule} {book : Offer.Book}
    (made : (Offer.Book.ofRules rules).outcome = .ok book)
    (money : ∀ rule ∈ rules, rule.isApplicable basket.quantities = true →
      ∃ amount, rule.granted basket.quantities = .ok (.decimal amount) ∧
        Catalog.isPrice amount = true) :
    let worth := catalog.worthOf basket.counts
    let grants :=
      (rules.filter (·.isApplicable basket.quantities)).map (grantOf basket.quantities)
    let taken := Entries.sumAll grants
    (worth < limit ∧ taken < limit →
        ∃ price, (ofBasket catalog basket book).outcome = .ok price ∧
          IsExact worth grants price) ∧
      (¬ (worth < limit ∧ taken < limit) →
        ∃ failure, (ofBasket catalog basket book).outcome = .error (.arithmetic failure) ∧
          (failure = .overflow → vast ≤ worth ∨ vast ≤ taken)) := by
  intro worth grants taken
  obtain ⟨_, described⟩ := Offer.Book.ofRules_eq_ok made
  have applied := Offer.Book.applicable_of_ofRules made basket.quantities
  have granted : ∀ rule ∈ book.applicable basket.quantities,
      GrantsMoney basket.quantities rule := by
    intro rule isApplied
    rw [applied, List.mem_filter] at isApplied
    obtain ⟨description, isDescription⟩ := described rule isApplied.1
    obtain ⟨amount, isGranted, isPrice⟩ := money rule isApplied.1 isApplied.2
    exact ⟨description, amount, ⟨isDescription, isGranted⟩, isPrice⟩
  have cases := ofBasket_cases filled granted
  rw [applied] at cases
  rcases cases with ⟨small, within, price, priced, exact⟩ | ⟨failure, failed, refused⟩
  · exact ⟨fun _ => ⟨price, priced, exact⟩, fun large => absurd ⟨small, within⟩ large⟩
  · constructor
    · rintro ⟨small, within⟩
      rcases refused with ⟨large, _⟩ | ⟨large, _⟩
      · exact absurd small (Nat.not_lt.mpr large)
      · exact absurd within (Nat.not_lt.mpr large)
    · intro _
      refine ⟨failure, failed, fun overflow => ?_⟩
      exact refused.imp (fun refused => refused.2 overflow) fun refused => refused.2 overflow

/-- A rule that takes 0.30 off every basket. -/
def loyalty : Rule :=
  .custom ⟨"Loyalty", fun _ => true, fun _ => .decimal (.finite false 30 (-2))⟩

/-- Two units of soup at 0.65 and bread at 0.80 cost 2.10, less 0.30 twice under one description. -/
theorem ofBasket_exact_meal :
    ∃ price, (ofBasket Basket.pantry Basket.meal ⟨[loyalty, loyalty]⟩).outcome = .ok price ∧
      IsExact 210 [("Loyalty", 30), ("Loyalty", 30)] price := by
  have money : ∀ rule ∈ [loyalty, loyalty], rule.isApplicable Basket.meal.quantities = true →
      ∃ amount, rule.granted Basket.meal.quantities = .ok (.decimal amount) ∧
        Catalog.isPrice amount = true := by
    intro rule isRule _
    have same : rule = loyalty := by simpa using isRule
    exact ⟨.finite false 30 (-2), by rw [same]; rfl, by decide⟩
  exact (ofBasket_exact_or_fails Basket.filled_meal rfl money).1 ⟨by decide, by decide⟩

end Price

end Checkout
