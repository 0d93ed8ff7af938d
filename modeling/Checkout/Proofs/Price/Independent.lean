import Checkout.Proofs.Basket.Runs
import Checkout.Proofs.Offer.Described
import Checkout.Proofs.Offer.Granted
import Checkout.Proofs.Price.Exact
import Checkout.Receipt

/-!
# Prices depend on nothing but the items

The order in which items were added, the order of the rules and what other baskets hold do not
change a price.  Sums that are rounded would depend on the order of their parts.  Here they do not:
a price that is returned is exact, and exact amounts are determined by what is in the basket.
-/

namespace Checkout

open Money (ofUnits limit)

namespace Price

/-! ## Exact prices -/

theorem IsExact.mem_offers {worth : Nat} {grants : List (String × Nat)} {price : Price}
    (exact : IsExact worth grants price) {offer : String × Amount}
    (isOffer : offer ∈ price.offers) :
    ∃ units, offer.2 = .decimal (ofUnits units) :=
  ⟨_, ((exact.mem_offers_iff offer.1 offer.2).mp isOffer).2⟩

theorem IsExact.distinct {worth : Nat} {grants : List (String × Nat)} {price : Price}
    (exact : IsExact worth grants price) : (price.offers.map Prod.fst).Nodup :=
  exact.ordered.imp String.ne_of_lt

/-- What is taken off determines the exact price, whatever its order. -/
theorem IsExact.eq_of_perm {worth : Nat} {first second : List (String × Nat)}
    {price other : Price} (exact : IsExact worth first price)
    (otherExact : IsExact worth second other) (perm : first.Perm second) : price = other := by
  have members : ∀ offer, offer ∈ price.offers ↔ offer ∈ other.offers := by
    rintro ⟨description, amount⟩
    rw [exact.mem_offers_iff, otherExact.mem_offers_iff, Entries.sumUnder_perm perm,
      (perm.map Prod.fst).mem_iff]
  have samePerm : price.offers.Perm other.offers :=
    (List.perm_ext_iff_of_nodup exact.distinct.of_map otherExact.distinct.of_map).mpr members
  have offers : price.offers = other.offers := by
    apply samePerm.eq_of_pairwise _ (List.pairwise_map.mp exact.ordered)
      (List.pairwise_map.mp otherExact.ordered)
    intro first second _ _ less greater
    exact absurd greater (String.lt_asymm less)
  have sums : Entries.sumAll first = Entries.sumAll second := Entries.sumAll_perm perm
  have subtotals : price.subtotal = other.subtotal :=
    exact.subtotal_eq.trans otherExact.subtotal_eq.symm
  have totals : price.total = other.total := by
    rw [exact.total_eq, otherExact.total_eq, sums]
  cases price
  cases other
  simp_all

theorem offersWithin_of_mem {first second : List (String × Amount)}
    (found : ∀ offer ∈ first, Entries.get? offer.1 second = some offer.2 ∧
      offer.2.same offer.2 = .ok true) : offersWithin first second = .ok true := by
  induction first with
  | nil => rfl
  | cons offer rest ih =>
    obtain ⟨description, amount⟩ := offer
    obtain ⟨isFound, isSame⟩ := found _ List.mem_cons_self
    dsimp only at isFound isSame
    simp only [offersWithin, isFound, isSame, bind, bind_ok, if_true]
    exact ih fun other isOther => found other (List.mem_cons_of_mem _ isOther)

/-- A price is equal to itself if each of its amounts is. -/
theorem same_self_of_amounts {price : Price} (distinct : (price.offers.map Prod.fst).Nodup)
    (subtotal : price.subtotal.same price.subtotal = .ok true)
    (total : price.total.same price.total = .ok true)
    (offers : ∀ offer ∈ price.offers, offer.2.same offer.2 = .ok true) :
    price.same price = .ok true := by
  have within : offersWithin price.offers price.offers = .ok true := by
    apply offersWithin_of_mem
    intro offer isOffer
    exact ⟨(Entries.mem_iff_get? distinct).mp isOffer, offers offer isOffer⟩
  simp only [same, subtotal, total, within, bind, bind_ok, if_true]

/-- An exact price is equal to itself. -/
theorem IsExact.same_self {worth : Nat} {grants : List (String × Nat)} {price : Price}
    (exact : IsExact worth grants price) : price.same price = .ok true := by
  apply same_self_of_amounts exact.distinct
  · rw [exact.subtotal_eq]
    exact Money.same_ofUnits _
  · rw [exact.total_eq]
    exact Money.same_ofUnits _
  · intro offer isOffer
    obtain ⟨units, isUnits⟩ := exact.mem_offers isOffer
    rw [isUnits]
    exact Money.same_ofUnits units

/-! ## Rules that can not be worked out -/

/-- If the arithmetic fails for one of the rules that apply, then it fails for all of them. -/
theorem combineAll_fails {quantities : Quantities} {rules : List Rule}
    (each : ∀ rule ∈ rules, (∃ description, rule.description = .ok description) ∧
      ((∃ amount, rule.granted quantities = .ok (.decimal amount)) ∨
        ∃ failure, rule.granted quantities = .error (.arithmetic failure)))
    (fails : ∃ rule ∈ rules, ∃ failure, rule.granted quantities = .error (.arithmetic failure))
    (combined : List (String × Decimal)) :
    ∃ failure, (combineAll quantities combined rules).outcome = .error (.arithmetic failure) := by
  induction rules generalizing combined with
  | nil => simp at fails
  | cons rule rest ih =>
    rcases each rule List.mem_cons_self with
      ⟨⟨description, described⟩, ⟨amount, granted⟩ | ⟨failure, granted⟩⟩
    · have first : Grants quantities rule description amount := ⟨described, granted⟩
      simp only [combineAll, Logged.outcome_bind, Logged.outcome_ofOutcome, first.grant_eq, bind_ok,
        combine_decimal, Logged.outcome_tell]
      cases Decimal.add ((Entries.get? description combined).getD Decimal.zeroCents) amount with
      | error failure => exact ⟨failure, rfl⟩
      | ok next =>
        apply ih (fun other isOther => each other (List.mem_cons_of_mem _ isOther))
        obtain ⟨failing, isFailing, failure, failed⟩ := fails
        rcases List.mem_cons.mp isFailing with rfl | inRest
        · rw [granted] at failed
          cases failed
        · exact ⟨failing, inRest, failure, failed⟩
    · have failed : grant quantities rule = .error (.arithmetic failure) := by
        rw [grant, granted]
        rfl
      refine ⟨failure, ?_⟩
      simp only [combineAll, Logged.outcome_bind, Logged.outcome_ofOutcome, failed, bind_error]

/-- A filled basket has no price if the arithmetic fails for one of the accepted rules. -/
theorem ofBasket_fails {catalog : Catalog} {basket : Basket} (filled : basket.Filled catalog)
    {book : Offer.Book} (accepted : ∀ rule ∈ book.rules, rule.Accepted catalog)
    (fails : ¬ ∀ rule ∈ book.applicable basket.quantities, GrantsMoney basket.quantities rule) :
    ∃ failure, (ofBasket catalog basket book).outcome = .error (.arithmetic failure) := by
  have each : ∀ rule ∈ book.applicable basket.quantities,
      (∃ description, rule.description = .ok description) ∧
        ((∃ amount, rule.granted basket.quantities = .ok (.decimal amount) ∧
          Catalog.isPrice amount = true) ∨
          ∃ failure, rule.granted basket.quantities = .error (.arithmetic failure)) := by
    intro rule isApplied
    have isRule := (List.mem_filter.mp isApplied).1
    have applies := (List.mem_filter.mp isApplied).2
    exact ⟨(accepted rule isRule).description_eq_ok, (accepted rule isRule).granted_cases applies⟩
  have failing : ∃ rule ∈ book.applicable basket.quantities,
      ∃ failure, rule.granted basket.quantities = .error (.arithmetic failure) := by
    by_contra none
    apply fails
    intro rule isApplied
    rcases each rule isApplied with ⟨⟨description, described⟩, ⟨amount, granted, isPrice⟩ | failed⟩
    · exact ⟨description, amount, ⟨described, granted⟩, isPrice⟩
    · exact absurd ⟨rule, isApplied, failed⟩ none
  rcases subtotalOf_filled filled with ⟨_, priced⟩ | ⟨failure, failed, _⟩
  · rcases combineAll_fails
      (fun rule isApplied => (each rule isApplied).imp_right
        (Or.imp_left fun ⟨amount, granted, _⟩ => ⟨amount, granted⟩)) failing [] with ⟨failure, failed⟩
    refine ⟨failure, ?_⟩
    simp only [ofBasket, Logged.outcome_bind, Logged.outcome_ofOutcome, priced, bind_ok, failed,
      bind_error]
  · exact ⟨failure, ofBasket_of_subtotalOf_error failed book⟩

/-! ## Two baskets with the same items -/

/-- Filled baskets with the same counts have the same price by the same accepted rules, in whatever
order items and rules stand, or neither has a price. -/
theorem ofBasket_agree {catalog : Catalog} {first second : Offer.Book}
    (sameRules : first.rules.Perm second.rules)
    (accepted : ∀ rule ∈ first.rules, rule.Accepted catalog) {basket other : Basket}
    (filled : basket.Filled catalog) (otherFilled : other.Filled catalog)
    (equal : ∀ item, basket.count item = other.count item) :
    ((∃ failure, (ofBasket catalog basket first).outcome = .error (.arithmetic failure)) ∧
        ∃ failure, (ofBasket catalog other second).outcome = .error (.arithmetic failure)) ∨
      ∃ price, (ofBasket catalog basket first).outcome = .ok price ∧
        (ofBasket catalog other second).outcome = .ok price ∧ price.same price = .ok true := by
  have quantities : basket.quantities = other.quantities := by
    funext item
    rw [Basket.quantities, Basket.quantities, equal]
  have applied : (first.applicable basket.quantities).Perm
      (second.applicable other.quantities) := by
    rw [quantities]
    exact sameRules.filter _
  have otherAccepted : ∀ rule ∈ second.rules, rule.Accepted catalog :=
    fun rule isRule => accepted rule (sameRules.mem_iff.mpr isRule)
  by_cases money : ∀ rule ∈ first.applicable basket.quantities, GrantsMoney basket.quantities rule
  · have otherMoney : ∀ rule ∈ second.applicable other.quantities,
        GrantsMoney other.quantities rule := by
      intro rule isApplied
      rw [← quantities]
      exact money rule (applied.mem_iff.mpr isApplied)
    have worths : catalog.worthOf basket.counts = catalog.worthOf other.counts :=
      ((filled.tidy.perm_of_count_eq otherFilled.tidy equal).map _).sum_eq
    have grants : ((first.applicable basket.quantities).map (grantOf basket.quantities)).Perm
        ((second.applicable other.quantities).map (grantOf other.quantities)) := by
      rw [quantities] at applied ⊢
      exact applied.map _
    have sums := Entries.sumAll_perm grants
    rcases ofBasket_cases filled money with
      ⟨small, within, price, priced, exact⟩ | ⟨failure, failed, refused⟩
    · rcases ofBasket_cases otherFilled otherMoney with
        ⟨_, _, otherPrice, otherPriced, otherExact⟩ | ⟨_, _, ⟨large, _⟩ | ⟨large, _⟩⟩
      · rw [worths] at exact
        have same : price = otherPrice := exact.eq_of_perm otherExact grants
        exact .inr ⟨price, priced, same ▸ otherPriced, exact.same_self⟩
      · omega
      · omega
    · rcases ofBasket_cases otherFilled otherMoney with
        ⟨otherSmall, otherWithin, _⟩ | ⟨otherFailure, otherFailed, _⟩
      · rcases refused with ⟨large, _⟩ | ⟨large, _⟩ <;> omega
      · exact .inl ⟨⟨failure, failed⟩, otherFailure, otherFailed⟩
  · have otherFails : ¬ ∀ rule ∈ second.applicable other.quantities,
        GrantsMoney other.quantities rule := by
      intro otherMoney
      apply money
      intro rule isApplied
      rw [quantities]
      exact otherMoney rule (applied.mem_iff.mp isApplied)
    exact .inl ⟨ofBasket_fails filled accepted money, ofBasket_fails otherFilled otherAccepted
      otherFails⟩

/-- The price of a basket depends only on the items that were added to it.  Two shops have the same
catalog and the same rules that built-in parsers have read, in any order.  In a session of each some
items are added to any number of baskets in any order, and some steps may fail.  If the same items
were added to two baskets, as often and in whatever order, then both have equal prices that are
shown alike, or for both the arithmetic fails. -/
theorem price_eq_of_addedTo_perm {catalog : Catalog} {firstRules secondRules : List Rule}
    (sameRules : firstRules.Perm secondRules)
    (read : ∀ rule ∈ firstRules, rule.IsRead catalog)
    {firstSteps secondSteps : List (String × ItemRef)} {firstName secondName : String}
    (sameItems :
      (Session.addedTo firstName (.start ⟨catalog, ⟨firstRules⟩⟩) firstSteps).Perm
        (Session.addedTo secondName (.start ⟨catalog, ⟨secondRules⟩⟩) secondSteps)) :
    let firstShop : Shop := ⟨catalog, ⟨firstRules⟩⟩
    let secondShop : Shop := ⟨catalog, ⟨secondRules⟩⟩
    let first := firstShop.price (((Session.start firstShop).run firstSteps).basket firstName)
    let second := secondShop.price (((Session.start secondShop).run secondSteps).basket secondName)
    ((∃ failure, first.outcome = .error (.arithmetic failure)) ∧
        ∃ failure, second.outcome = .error (.arithmetic failure)) ∨
      ∃ price other, first.outcome = .ok price ∧ second.outcome = .ok other ∧
        price.same other = .ok true ∧ Receipt.value price = Receipt.value other := by
  intro firstShop secondShop first second
  have accepted : ∀ rule ∈ firstRules, rule.Accepted catalog :=
    fun rule isRule => (read rule isRule).accepted
  have filled := ((Session.proper_start firstShop).run firstSteps).filled firstName
  have otherFilled := ((Session.proper_start secondShop).run secondSteps).filled secondName
  have equal : ∀ item,
      (((Session.start firstShop).run firstSteps).basket firstName).count item =
        (((Session.start secondShop).run secondSteps).basket secondName).count item := by
    intro item
    rw [Session.count_run_start, Session.count_run_start]
    exact sameItems.count_eq item
  rcases ofBasket_agree sameRules accepted filled otherFilled equal with
    fails | ⟨price, priced, otherPriced, same⟩
  · exact .inl fails
  · exact .inr ⟨price, price, priced, otherPriced, same, rfl⟩

/-- Ten percent off soup. -/
def soupOffer : Rule :=
  .discount { catalog := Basket.pantry, item := Basket.soup, amount := none, percentage := some 10 }

/-- Bread for 0.40 less with two units of soup. -/
def breadOffer : Rule :=
  .bundle { discounted := Basket.bread, required := Basket.soup, amount := ofUnits 40, per := 2 }

/-- Two customers in one session, one of whom asks for an item that the shop does not have. -/
def busySteps : List (String × ItemRef) :=
  [("first", .named "Soup"), ("second", .named "Soup"), ("first", .named "Caviar"),
   ("first", .named "bread"), ("second", .named "Bread"), ("first", .named " soup ")]

/-- One customer who adds the same items in another order. -/
def quietSteps : List (String × ItemRef) :=
  [("only", .named "Bread"), ("only", .known Basket.soup), ("only", .named "SOUP")]

/-- The first customer of the busy session and the one of the quiet session get the same price. -/
theorem price_eq_of_addedTo_perm_meal :
    let firstShop : Shop := ⟨Basket.pantry, ⟨[soupOffer, breadOffer]⟩⟩
    let secondShop : Shop := ⟨Basket.pantry, ⟨[breadOffer, soupOffer]⟩⟩
    let first := firstShop.price (((Session.start firstShop).run busySteps).basket "first")
    let second := secondShop.price (((Session.start secondShop).run quietSteps).basket "only")
    ((∃ failure, first.outcome = .error (.arithmetic failure)) ∧
        ∃ failure, second.outcome = .error (.arithmetic failure)) ∨
      ∃ price other, first.outcome = .ok price ∧ second.outcome = .ok other ∧
        price.same other = .ok true ∧ Receipt.value price = Receipt.value other := by
  have read : ∀ rule ∈ [soupOffer, breadOffer], rule.IsRead Basket.pantry := by
    intro rule isRule
    rcases List.mem_cons.mp isRule with rfl | isLast
    · exact ⟨.discount, List.mem_cons_self, "Soup 10%".toList, rfl⟩
    · rw [List.mem_singleton.mp isLast]
      exact ⟨.bundle, by simp [Parser.builtIn], "Bread 0.40 per 2 Soup".toList, rfl⟩
  have firstItems : Session.addedTo "first"
      (.start ⟨Basket.pantry, ⟨[soupOffer, breadOffer]⟩⟩) busySteps =
        [Basket.soup, Basket.bread, Basket.soup] := rfl
  have secondItems : Session.addedTo "only"
      (.start ⟨Basket.pantry, ⟨[breadOffer, soupOffer]⟩⟩) quietSteps =
        [Basket.bread, Basket.soup, Basket.soup] := rfl
  apply price_eq_of_addedTo_perm (.swap _ _ _) read
  rw [firstItems, secondItems]
  exact .swap _ _ _

end Price

end Checkout
