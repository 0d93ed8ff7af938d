import Checkout.Proofs.Offer.Shared
import Checkout.Proofs.Price.Independent

/-!
# Entries of their own

A price has one entry for each description that rules are granted under.  If the book was made
without a warning, then no two of its rules go by one description, so every rule that applies has an
entry to itself, with exactly what it takes off.  Whatever is combined was warned of when the book
was made.

The two counts are taken at different times and of different lists: the book counts all its rules,
and a price combines those that apply.
-/

namespace Checkout

open Money (ofUnits limit)

/-- If the rule applies and what it takes off can be worked out, that is an amount of money that is
not below zero. -/
def Rule.TakesMoney (quantities : Quantities) (rule : Rule) : Prop :=
  rule.isApplicable quantities = true → ∀ amount, rule.granted quantities = .ok amount →
    ∃ exact, amount = .decimal exact ∧ Catalog.isPrice exact = true

theorem Rule.IsRead.takesMoney {catalog : Catalog} {rule : Rule} (read : rule.IsRead catalog)
    (basket : Basket) : rule.TakesMoney basket.quantities := by
  intro applies amount granted
  rcases read.accepted.granted_cases applies with ⟨exact, isGranted, isPrice⟩ | ⟨failure, failed⟩
  · rw [isGranted] at granted
    cases granted
    exact ⟨exact, rfl, isPrice⟩
  · rw [failed] at granted
    cases granted

namespace Price

/-! ## Rules of a price -/

theorem of_grant_eq_ok {quantities : Quantities} {rule : Rule} {pair : String × Amount}
    (granted : grant quantities rule = .ok pair) :
    rule.description = .ok pair.1 ∧ rule.granted quantities = .ok pair.2 := by
  obtain ⟨amount, isGranted, afterAmount⟩ := bind_eq_ok_iff.mp granted
  obtain ⟨description, described, same⟩ := bind_eq_ok_iff.mp afterAmount
  cases same
  exact ⟨described, isGranted⟩

/-- What rules take off is combined only if it can be worked out for each of them. -/
theorem exists_granted_of_combineAll {quantities : Quantities} {rules : List Rule}
    {combined final : List (String × Decimal)}
    (done : (combineAll quantities combined rules).outcome = .ok final) :
    ∀ rule ∈ rules, ∃ description amount, rule.description = .ok description ∧
      rule.granted quantities = .ok amount := by
  -- What was combined before does not matter: the first rule that fails ends the combining.
  induction rules generalizing combined with
  | nil => simp
  | cons rule rest ih =>
    simp only [combineAll, Logged.outcome_bind, Logged.outcome_ofOutcome,
      Logged.outcome_tell, bind_ok] at done
    obtain ⟨pair, granted, afterGrant⟩ := bind_eq_ok_iff.mp done
    obtain ⟨_, _, afterFirst⟩ := bind_eq_ok_iff.mp afterGrant
    intro other isOther
    rcases List.mem_cons.mp isOther with rfl | inRest
    · exact ⟨pair.1, pair.2, of_grant_eq_ok granted⟩
    · exact ih afterFirst other inRest

theorem exists_granted_of_ofBasket {catalog : Catalog} {basket : Basket} {book : Offer.Book}
    {price : Price} (priced : (ofBasket catalog basket book).outcome = .ok price) :
    ∀ rule ∈ book.applicable basket.quantities, ∃ description amount,
      rule.description = .ok description ∧ rule.granted basket.quantities = .ok amount := by
  simp only [ofBasket, Logged.outcome_bind, Logged.outcome_ofOutcome] at priced
  obtain ⟨_, _, afterSubtotal⟩ := bind_eq_ok_iff.mp priced
  obtain ⟨_, done, _⟩ := bind_eq_ok_iff.mp afterSubtotal
  exact exists_granted_of_combineAll done

/-- A returned price is exact if the rules take amounts of money off. -/
theorem isExact_of_takesMoney {catalog : Catalog} {basket : Basket}
    (filled : basket.Filled catalog) {book : Offer.Book}
    (money : ∀ rule ∈ book.rules, rule.TakesMoney basket.quantities) {price : Price}
    (priced : (ofBasket catalog basket book).outcome = .ok price) :
    IsExact (catalog.worthOf basket.counts)
        ((book.applicable basket.quantities).map (grantOf basket.quantities)) price ∧
      ∀ rule ∈ book.applicable basket.quantities, GrantsMoney basket.quantities rule := by
  have each : ∀ rule ∈ book.applicable basket.quantities, GrantsMoney basket.quantities rule := by
    intro rule isApplied
    obtain ⟨description, amount, described, granted⟩ :=
      exists_granted_of_ofBasket priced rule isApplied
    have isRule := List.mem_filter.mp isApplied
    obtain ⟨exact, rfl, isPrice⟩ := money rule isRule.1 isRule.2 amount granted
    exact ⟨description, exact, ⟨described, granted⟩, isPrice⟩
  rcases ofBasket_cases filled each with ⟨_, _, other, isOther, exact⟩ | ⟨failure, failed, _⟩
  · rw [priced] at isOther
    cases isOther
    exact ⟨exact, each⟩
  · rw [priced] at failed
    cases failed

/-! ## One rule for each entry -/

/-- Where no two grants share a description, the offers of an exact price are the grants. -/
theorem IsExact.offers_perm {worth : Nat} {grants : List (String × Nat)} {price : Price}
    (exact : IsExact worth grants price) (distinct : (grants.map Prod.fst).Nodup) :
    price.offers.Perm (grants.map fun grant => (grant.1, .decimal (ofUnits grant.2))) := by
  have names : ((grants.map fun grant => (grant.1, Amount.decimal (ofUnits grant.2))).map
      Prod.fst).Nodup := by
    rw [List.map_map]
    exact distinct
  apply (List.perm_ext_iff_of_nodup exact.distinct.of_map names.of_map).mpr
  rintro ⟨description, amount⟩
  rw [exact.mem_offers_iff, List.mem_map, List.mem_map]
  constructor
  · rintro ⟨⟨grant, isGrant, rfl⟩, rfl⟩
    exact ⟨grant, isGrant, by rw [Entries.sumUnder_of_mem distinct isGrant]⟩
  · rintro ⟨grant, isGrant, same⟩
    rw [Prod.mk.injEq] at same
    obtain ⟨rfl, rfl⟩ := same
    exact ⟨⟨grant, isGrant, rfl⟩, by rw [Entries.sumUnder_of_mem distinct isGrant]⟩

/-- An amount of money is equal to that of its minor units, although a zero may have a minus
sign. -/
theorem same_ofUnits_of_isPrice {amount : Decimal} (isPrice : Catalog.isPrice amount = true) :
    Amount.same (.decimal amount) (.decimal (ofUnits (Money.units amount))) = .ok true := by
  obtain ⟨negative, shape, sign⟩ := Money.isPrice_iff.mp isPrice
  cases negative with
  | false =>
    rw [shape]
    exact Money.same_ofUnits _
  | true =>
    rw [shape, sign rfl]
    rfl

/-- The entry of a price is that of a rule: it stands under the description of the rule and is equal
to what the rule takes off. -/
def IsOwnEntry (quantities : Quantities) (rule : Rule) (offer : String × Amount) : Prop :=
  rule.description = .ok offer.1 ∧
    ∃ amount, rule.granted quantities = .ok amount ∧ amount.same offer.2 = .ok true

/-- The entries of a price have distinct descriptions, and each of some rules has exactly one of
them to itself. -/
structure HasOwnEntries (quantities : Quantities) (rules : List Rule) (price : Price) : Prop where
  distinct : (price.offers.map Prod.fst).Nodup
  matched : ∃ order, order.Perm rules ∧
    List.Forall₂ (IsOwnEntry quantities) order price.offers

theorem isOwnEntry_grantOf {quantities : Quantities} {rule : Rule}
    (money : GrantsMoney quantities rule) :
    IsOwnEntry quantities rule
      ((grantOf quantities rule).1, .decimal (ofUnits (grantOf quantities rule).2)) := by
  obtain ⟨description, amount, grants, isPrice⟩ := money
  rw [grants.grantOf_eq]
  exact ⟨grants.description_eq, .decimal amount, grants.granted_eq,
    same_ofUnits_of_isPrice isPrice⟩

/-- Rules that go by distinct descriptions have entries of their own in an exact price. -/
theorem IsExact.hasOwnEntries {worth : Nat} {quantities : Quantities} {rules : List Rule}
    {price : Price} (exact : IsExact worth (rules.map (grantOf quantities)) price)
    (money : ∀ rule ∈ rules, GrantsMoney quantities rule)
    (distinct : ((rules.map (grantOf quantities)).map Prod.fst).Nodup) :
    HasOwnEntries quantities rules price := by
  have perm := exact.offers_perm distinct
  rw [List.map_map] at perm
  have own : List.Forall₂ (fun offer rule => IsOwnEntry quantities rule offer)
      (rules.map ((fun grant => (grant.1, .decimal (ofUnits grant.2))) ∘ grantOf quantities))
      rules := by
    rw [List.forall₂_map_left_iff, List.forall₂_same]
    exact fun rule isRule => isOwnEntry_grantOf (money rule isRule)
  obtain ⟨order, matched, rearranged⟩ := List.perm_comp_forall₂ perm own
  exact ⟨exact.distinct, order, rearranged, matched.flip⟩

/-! ## Warnings and prices -/

open Offer.Book (Described ofRules sharedRecord)

/-- The rules that apply go by distinct descriptions if all rules do. -/
theorem nodup_grants {rules : List Rule} {descriptions : List String}
    (described : Described rules descriptions) (distinct : descriptions.Nodup)
    (quantities : Quantities) :
    (((rules.filter (·.isApplicable quantities)).map (grantOf quantities)).map
      Prod.fst).Nodup := by
  rw [List.map_map]
  have part : (rules.filter (·.isApplicable quantities)).Sublist rules := List.filter_sublist
  have named := part.map (Prod.fst ∘ grantOf quantities)
  have whole : rules.map (Prod.fst ∘ grantOf quantities) = descriptions := described.map_eq
  rw [whole] at named
  exact named.nodup distinct

/-- Nothing is combined without a warning.  A book of rules is made with one warning for every
description that several of them go by, in the order of first occurrence and with the number of
these rules, and with no other record.  If there is none, every rule that applies to a filled basket
has an entry of its price to itself, with what that rule takes off.  In any case, the description of
an entry that several rules are combined in was warned of. -/
theorem ofRules_warned_or_separate {rules : List Rule}
    (each : ∀ rule ∈ rules, (∃ other, rule.IsRead other) ∨
      ∃ description, rule.description = .ok description) :
    ∃ descriptions, Described rules descriptions ∧ (ofRules rules).outcome = .ok ⟨rules⟩ ∧
      (ofRules rules).records =
        (descriptions.eraseDups.filter fun description => 2 ≤ descriptions.count description).map
          (fun description => sharedRecord description (descriptions.count description)) ∧
      ∀ (catalog : Catalog) (basket : Basket) (price : Price), basket.Filled catalog →
        (ofBasket catalog basket ⟨rules⟩).outcome = .ok price →
          ((ofRules rules).records = [] →
            (∀ rule ∈ rules,
                (∃ other, rule.IsRead other) ∨ rule.TakesMoney basket.quantities) →
              HasOwnEntries basket.quantities (rules.filter (·.isApplicable basket.quantities))
                price) ∧
          ∀ offer ∈ price.offers,
            2 ≤ (rules.filter (·.isApplicable basket.quantities)).countP (·.isCalled offer.1) →
              sharedRecord offer.1 (descriptions.count offer.1) ∈ (ofRules rules).records := by
  have named : ∀ rule ∈ rules, ∃ description, rule.description = .ok description := by
    intro rule isRule
    rcases each rule isRule with ⟨other, read⟩ | described
    · exact read.accepted.description_eq_ok
    · exact described
  obtain ⟨descriptions, described⟩ := Offer.Book.exists_described named
  rw [described.ofRules_eq]
  refine ⟨descriptions, described, rfl, Offer.Book.sharedRecords_eq descriptions, ?_⟩
  intro catalog basket price filled priced
  constructor
  · intro silent money
    have takes : ∀ rule ∈ rules, rule.TakesMoney basket.quantities := by
      intro rule isRule
      rcases money rule isRule with ⟨other, read⟩ | takes
      · exact read.takesMoney basket
      · exact takes
    obtain ⟨exact, granted⟩ := isExact_of_takesMoney filled takes priced
    have distinct := Offer.Book.nodup_of_sharedRecords_eq_nil silent
    exact exact.hasOwnEntries granted (nodup_grants described distinct _)
  · -- The rules that apply are some of those that were counted.
    intro offer _ combined
    apply Offer.Book.mem_sharedRecords
    rw [described.count_eq]
    exact combined.trans List.filter_sublist.countP_le

/-- Soup for ten percent less and 0.30 off have an entry each, and 0.30 off twice is warned of. -/
theorem ofRules_warned_or_separate_meal :
    (∃ price, (ofBasket Basket.pantry Basket.meal ⟨[soupOffer, loyalty]⟩).outcome = .ok price ∧
      HasOwnEntries Basket.meal.quantities [soupOffer, loyalty] price) ∧
    (ofRules [loyalty, soupOffer, loyalty]).records = [sharedRecord "Loyalty" 2] := by
  have read : soupOffer.IsRead Basket.pantry :=
    ⟨.discount, List.mem_cons_self, "Soup 10%".toList, rfl⟩
  have takes : loyalty.TakesMoney Basket.meal.quantities := by
    intro _ amount granted
    cases granted
    exact ⟨.finite false 30 (-2), rfl, by decide⟩
  constructor
  · have each : ∀ rule ∈ [soupOffer, loyalty],
        (∃ other, rule.IsRead other) ∨ ∃ description, rule.description = .ok description :=
      List.forall_mem_cons.mpr ⟨.inl ⟨_, read⟩, List.forall_mem_singleton.mpr (.inr ⟨_, rfl⟩)⟩
    have money : ∀ rule ∈ [soupOffer, loyalty],
        (∃ other, rule.IsRead other) ∨ rule.TakesMoney Basket.meal.quantities :=
      List.forall_mem_cons.mpr ⟨.inl ⟨_, read⟩, List.forall_mem_singleton.mpr (.inr takes)⟩
    have granted : ∀ rule ∈ Offer.Book.applicable ⟨[soupOffer, loyalty]⟩ Basket.meal.quantities,
        GrantsMoney Basket.meal.quantities rule :=
      List.forall_mem_cons.mpr ⟨⟨"Soup 10% off", .finite false 12 (-2), ⟨rfl, rfl⟩, by decide⟩,
        List.forall_mem_singleton.mpr
          ⟨"Loyalty", .finite false 30 (-2), ⟨rfl, rfl⟩, by decide⟩⟩
    obtain ⟨_, _, _, _, prices⟩ := ofRules_warned_or_separate each
    rcases ofBasket_cases Basket.filled_meal granted with
      ⟨_, _, price, priced, _⟩ | ⟨failure, _, large | large⟩
    · exact ⟨price, priced, (prices _ _ _ Basket.filled_meal priced).1 rfl money⟩
    · exact absurd large.1 (by decide)
    · exact absurd large.1 (by decide)
  · have each : ∀ rule ∈ [loyalty, soupOffer, loyalty],
        (∃ other, rule.IsRead other) ∨ ∃ description, rule.description = .ok description :=
      List.forall_mem_cons.mpr ⟨.inr ⟨_, rfl⟩, List.forall_mem_cons.mpr
        ⟨.inl ⟨_, read⟩, List.forall_mem_singleton.mpr (.inr ⟨_, rfl⟩)⟩⟩
    obtain ⟨descriptions, described, _, records, _⟩ := ofRules_warned_or_separate each
    have listed : descriptions = ["Loyalty", "Soup 10% off", "Loyalty"] :=
      described.map_eq.symm
    rw [records, listed]
    rfl

end Price

end Checkout
