import Checkout.Proofs.Basket.Worth

/-!
# What offers take off together

Pricing grants the applicable rules one after another and combines their amounts by description.
Once it is known what each rule grants, only the arithmetic is left, and this file separates the
two: the outcome of pricing is that of a computation on descriptions with decimal numbers.
-/

namespace Checkout.Price

open Decimal (Failure)

/-- The rule takes a decimal number off under a description. -/
structure Grants (quantities : Quantities) (rule : Rule) (description : String) (amount : Decimal) :
    Prop where
  description_eq : rule.description = .ok description
  granted_eq : rule.granted quantities = .ok (.decimal amount)

/-- Rules take the numbers of a list off under its descriptions, in order. -/
def GrantAll (quantities : Quantities) (rules : List Rule) (grants : List (String × Decimal)) :
    Prop :=
  List.Forall₂ (fun rule grant => Grants quantities rule grant.1 grant.2) rules grants

theorem exists_grantAll {quantities : Quantities} {rules : List Rule}
    (each : ∀ rule ∈ rules, ∃ description amount, Grants quantities rule description amount) :
    ∃ grants, GrantAll quantities rules grants := by
  induction rules with
  | nil => exact ⟨[], .nil⟩
  | cons rule rest ih =>
    obtain ⟨grants, granted⟩ := ih fun other isOther => each other (List.mem_cons_of_mem _ isOther)
    obtain ⟨description, amount, first⟩ := each rule List.mem_cons_self
    exact ⟨(description, amount) :: grants, .cons first granted⟩

/-- What is granted stands under the descriptions of the rules. -/
theorem GrantAll.mem_map_fst_iff {quantities : Quantities} {rules : List Rule}
    {grants : List (String × Decimal)} (granted : GrantAll quantities rules grants)
    {description : String} :
    description ∈ grants.map Prod.fst ↔ ∃ rule ∈ rules, rule.description = .ok description := by
  induction granted with
  | nil => simp
  | @cons rule grant rules grants first _ ih =>
    rw [List.map_cons, List.mem_cons, ih]
    simp only [List.exists_mem_cons_iff, first.description_eq, Except.ok.injEq]
    rw [eq_comm]

/-- Numbers combined by description onto earlier ones. -/
def combineFrom (combined : List (String × Decimal)) :
    List (String × Decimal) → Except Failure (List (String × Decimal))
  | [] => .ok combined
  | (description, amount) :: rest => do
    let next ← Decimal.add ((Entries.get? description combined).getD Decimal.zeroCents) amount
    combineFrom (Entries.put description next combined) rest

theorem Grants.grant_eq {quantities : Quantities} {rule : Rule} {description : String}
    {amount : Decimal} (grants : Grants quantities rule description amount) :
    grant quantities rule = .ok (description, .decimal amount) := by
  rw [grant, grants.granted_eq, grants.description_eq]
  rfl

theorem combine_decimal (combined : List (String × Decimal)) (description : String)
    (amount : Decimal) :
    combine combined description (.decimal amount) =
      Fault.ofArithmetic
        ((Decimal.add ((Entries.get? description combined).getD Decimal.zeroCents) amount).map
          fun next => Entries.put description next combined) := by
  simp only [combine, Amount.addTo, Amount.number?]
  cases Decimal.add ((Entries.get? description combined).getD Decimal.zeroCents) amount <;> rfl

/-- What the rules take off is what their grants are combined to. -/
theorem combineAll_outcome {quantities : Quantities} {rules : List Rule}
    {grants : List (String × Decimal)} (granted : GrantAll quantities rules grants)
    (combined : List (String × Decimal)) :
    (combineAll quantities combined rules).outcome =
      Fault.ofArithmetic (combineFrom combined grants) := by
  induction granted generalizing combined with
  | nil => rfl
  | @cons rule pair rules pairs first _ ih =>
    obtain ⟨description, amount⟩ := pair
    simp only [combineAll, Logged.outcome_bind, Logged.outcome_ofOutcome, first.grant_eq,
      combine_decimal, combineFrom, Except.bind, Logged.outcome_tell]
    cases Decimal.add ((Entries.get? description combined).getD Decimal.zeroCents) amount with
    | error failure => rfl
    | ok next => exact ih _

/-! ## The order of offers -/

/-- Descriptions with numbers in the order of the descriptions. -/
def sorted (combined : List (String × Decimal)) : List (String × Decimal) :=
  combined.mergeSort fun first second => decide (first.1 ≤ second.1)

theorem sorted_perm (combined : List (String × Decimal)) : (sorted combined).Perm combined :=
  List.mergeSort_perm _ _

/-- Distinct descriptions are strictly ordered. -/
theorem pairwise_mergeSort_description {Item : Type} {offers : List (String × Item)}
    (distinct : (offers.map Prod.fst).Nodup) :
    ((offers.mergeSort fun first second => decide (first.1 ≤ second.1)).map Prod.fst).Pairwise
      (· < ·) := by
  have ordered : (offers.mergeSort fun first second => decide (first.1 ≤ second.1)).Pairwise
      fun first second => decide (first.1 ≤ second.1) = true := by
    apply List.pairwise_mergeSort
    · intro first second third firstLe secondLe
      rw [decide_eq_true_iff] at *
      exact String.le_trans firstLe secondLe
    · intro first second
      rw [Bool.or_eq_true, decide_eq_true_iff, decide_eq_true_iff]
      exact String.le_total _ _
  have apart := ((List.mergeSort_perm offers fun first second =>
    decide (first.1 ≤ second.1)).map Prod.fst).nodup_iff.mpr distinct
  rw [List.pairwise_map]
  rw [List.Nodup, List.pairwise_map] at apart
  refine (ordered.and apart).imp ?_
  rintro first second ⟨le, ne⟩
  exact Std.lt_of_le_of_ne (of_decide_eq_true le) ne

theorem sorted_pairwise {combined : List (String × Decimal)}
    (distinct : (combined.map Prod.fst).Nodup) :
    ((sorted combined).map Prod.fst).Pairwise (· < ·) :=
  pairwise_mergeSort_description distinct

/-- The offers of a price, where the descriptions are distinct. -/
theorem ofDecimals_offers {combined : List (String × Decimal)} (subtotal total : Decimal)
    (distinct : (combined.map Prod.fst).Nodup) :
    (ofDecimals subtotal total combined).offers =
      (sorted combined).map fun offer => (offer.1, .decimal offer.2) := by
  have kept : Entries.ofList (combined.map fun offer => (offer.1, Amount.decimal offer.2)) =
      combined.map fun offer => (offer.1, Amount.decimal offer.2) := by
    apply Entries.ofList_of_nodup
    rw [List.map_map]
    exact distinct
  simp only [ofDecimals, ofParts, kept, sortOffers]
  symm
  apply List.map_mergeSort
  intro first _ second _
  rfl

theorem sumFrom_decimal (start : Decimal) (amounts : List Decimal) :
    Amount.sumFrom start (amounts.map Amount.decimal) =
      Fault.ofArithmetic (Decimal.sumFrom start amounts) := by
  induction amounts generalizing start with
  | nil => rfl
  | cons amount rest ih =>
    simp only [List.map_cons, Amount.sumFrom, Amount.addTo, Amount.number?, Decimal.sumFrom]
    cases Decimal.add start amount with
    | error failure => rfl
    | ok next => exact ih next

theorem ofDecimals_discount {combined : List (String × Decimal)} (subtotal total : Decimal)
    (distinct : (combined.map Prod.fst).Nodup) :
    (ofDecimals subtotal total combined).discount =
      Fault.ofArithmetic
        ((Decimal.sumFrom Decimal.zeroCents ((sorted combined).map Prod.snd)).bind
          Money.round) := by
  have amounts : (ofDecimals subtotal total combined).offers.map Prod.snd =
      ((sorted combined).map Prod.snd).map Amount.decimal := by
    rw [ofDecimals_offers subtotal total distinct, List.map_map, List.map_map]
    rfl
  rw [discount, amounts, sumFrom_decimal, Fault.ofArithmetic_bind]
  rfl

/-! ## The price -/

theorem nodup_combineFrom {combined final grants : List (String × Decimal)}
    (distinct : (combined.map Prod.fst).Nodup) (done : combineFrom combined grants = .ok final) :
    (final.map Prod.fst).Nodup := by
  induction grants generalizing combined with
  | nil =>
    rw [combineFrom, Except.ok.injEq] at done
    rwa [← done]
  | cons grant rest ih =>
    rw [combineFrom] at done
    obtain ⟨_, _, afterFirst⟩ := bind_eq_ok_iff.mp done
    exact ih (Entries.nodup_put distinct) afterFirst

theorem distinct_of_combineFrom {final grants : List (String × Decimal)}
    (done : combineFrom [] grants = .ok final) : (final.map Prod.fst).Nodup := by
  have none : (([] : List (String × Decimal)).map Prod.fst).Nodup := List.nodup_nil
  exact nodup_combineFrom none done

/-- The descriptions that numbers are combined under are those of the numbers. -/
theorem mem_map_fst_combineFrom {combined final grants : List (String × Decimal)}
    (done : combineFrom combined grants = .ok final) {description : String} :
    description ∈ final.map Prod.fst ↔
      description ∈ combined.map Prod.fst ∨ description ∈ grants.map Prod.fst := by
  induction grants generalizing combined with
  | nil =>
    rw [combineFrom, Except.ok.injEq] at done
    simp [← done]
  | cons grant rest ih =>
    rw [combineFrom] at done
    obtain ⟨_, _, afterFirst⟩ := bind_eq_ok_iff.mp done
    rw [ih afterFirst, Entries.mem_map_fst_put, List.map_cons, List.mem_cons,
      eq_comm (a := description), or_assoc, or_left_comm]

/-- The price that numbers taken off a subtotal make. -/
def settle (subtotal : Decimal) (grants : List (String × Decimal)) : Except Failure Price := do
  let combined ← combineFrom [] grants
  let total ← totalOf subtotal (combined.map Prod.snd)
  let _ ← (Decimal.sumFrom Decimal.zeroCents ((sorted combined).map Prod.snd)).bind Money.round
  .ok (ofDecimals subtotal total combined)

theorem settle_eq_ok {subtotal : Decimal} {grants : List (String × Decimal)} {price : Price}
    (settled : settle subtotal grants = .ok price) :
    ∃ combined total discount, combineFrom [] grants = .ok combined ∧
      totalOf subtotal (combined.map Prod.snd) = .ok total ∧
      (Decimal.sumFrom Decimal.zeroCents ((sorted combined).map Prod.snd)).bind Money.round =
        .ok discount ∧
      price = ofDecimals subtotal total combined := by
  obtain ⟨combined, done, afterCombining⟩ := bind_eq_ok_iff.mp settled
  obtain ⟨total, totalled, afterTotal⟩ := bind_eq_ok_iff.mp afterCombining
  obtain ⟨discount, rounded, same⟩ := bind_eq_ok_iff.mp afterTotal
  exact ⟨combined, total, discount, done, totalled, rounded, (Except.ok.inj same).symm⟩

/-- Pricing a basket is arithmetic once it is known what the rules grant. -/
theorem ofBasket_outcome {catalog : Catalog} {basket : Basket} {book : Offer.Book}
    {subtotal : Decimal} (priced : subtotalOf catalog basket = .ok subtotal)
    {grants : List (String × Decimal)}
    (granted : GrantAll basket.quantities (book.applicable basket.quantities) grants) :
    (ofBasket catalog basket book).outcome = Fault.ofArithmetic (settle subtotal grants) := by
  simp only [ofBasket, settle, Logged.outcome_bind, Logged.outcome_ofOutcome, priced,
    combineAll_outcome granted, Logged.outcome_tell, Logged.outcome_pure]
  cases done : combineFrom [] grants with
  | error failure => rfl
  | ok combined =>
    have distinct := distinct_of_combineFrom done
    cases totalled : totalOf subtotal (combined.map Prod.snd) with
    | error failure => simp [bind, totalled]
    | ok total =>
      simp only [bind, bind_ok, Fault.ofArithmetic_ok, totalled,
        ofDecimals_discount subtotal total distinct]
      cases (Decimal.sumFrom Decimal.zeroCents ((sorted combined).map Prod.snd)).bind
        Money.round <;> rfl

/-- A basket without a subtotal has no price. -/
theorem ofBasket_of_subtotalOf_error {catalog : Catalog} {basket : Basket} {fault : Fault}
    (failed : subtotalOf catalog basket = .error fault) (book : Offer.Book) :
    (ofBasket catalog basket book).outcome = .error fault := by
  simp only [ofBasket, Logged.outcome_bind, Logged.outcome_ofOutcome, failed, bind_error]

end Checkout.Price
