import Checkout.Proofs.Decimal.Range
import Checkout.Proofs.Price.Exact

/-!
# Prices are sound whatever rules take off

Rules of extensions may take any decimal number off a basket: numbers below zero, of any length and
power of ten, infinities and undefined results.  A price that is returned all the same consists of
proper amounts.  The reason is that the total is rounded to two decimals after it has been compared
with zero, and that neither step lets through what is not finite or has a minus sign.
-/

namespace Checkout.Price

open Decimal (Failure Settled multiple)
open Money (place ofUnits limit)

/-! ## The total -/

/-- The difference of a subtotal and a settled number: its sign and its digits. -/
theorem sub_eq_ok {units digits : Nat} {negative : Bool} {exponent : Int} {left : Decimal}
    (settled : Settled (.finite negative digits exponent))
    (subtracted : Decimal.sub (ofUnits units) (.finite negative digits exponent) = .ok left) :
    let common := min place exponent
    let difference :=
      multiple false units place common - multiple negative digits exponent common
    ∃ rest above, left = .finite (decide (difference < 0)) rest above ∧
      (rest = 0 ↔ difference = 0) := by
  intro common difference
  have opposite : Decimal.signed (!negative)
      (digits * Text.Numeral.tenTo (exponent - common).toNat) =
        -multiple negative digits exponent common := by
    cases negative <;> simp [multiple, Decimal.signed]
  have sum : Decimal.exactSum false units place (!negative) digits exponent =
      (decide (difference < 0), difference.natAbs, common) := by
    simp only [Decimal.exactSum]
    rw [opposite, ← Int.sub_eq_add_neg, ← multiple]
    refine Prod.ext ?_ rfl
    dsimp only
    split
    · rename_i zero
      exact (decide_eq_false (Int.not_lt.mpr zero.ge)).symm
    · rfl
  have fitted : Decimal.fit (decide (difference < 0)) difference.natAbs common = .ok left := by
    have asSum : Decimal.sub (ofUnits units) (.finite negative digits exponent) =
        Decimal.addFinite false units place (!negative) digits exponent := rfl
    rw [← subtracted, asSum, Decimal.addFinite_eq_fit, sum]
  have within : Decimal.leastExponent ≤ common := Int.le_min.mpr ⟨by decide, settled⟩
  obtain ⟨rest, above, shape, zero⟩ := Decimal.fit_eq_ok within fitted
  exact ⟨rest, above, shape, zero.trans Int.natAbs_eq_zero⟩

/-- A total is an amount that is not below zero, and it is zero if no less than the subtotal is
taken off. -/
theorem totalOf_eq_ok {units : Nat} {amounts : List Decimal} {total : Decimal}
    (totalled : totalOf (ofUnits units) amounts = .ok total) :
    ∃ taken, Decimal.sumFrom Decimal.zeroCents amounts = .ok taken ∧
      ∃ rest, total = ofUnits rest ∧
        (Decimal.less taken (ofUnits units) = .ok false → rest = 0) := by
  obtain ⟨taken, summed, afterSum⟩ := bind_eq_ok_iff.mp totalled
  obtain ⟨left, subtracted, compared⟩ := bind_eq_ok_iff.mp afterSum
  refine ⟨taken, summed, ?_⟩
  simp only [bind] at compared
  cases taken with
  | undefined negative signalling payload =>
    -- an undefined result can not be compared with zero
    cases signalling <;> cases subtracted
    cases compared
  | infinite negative =>
    cases negative <;> cases subtracted <;> cases compared
    exact ⟨0, rfl, fun _ => rfl⟩
  | finite negative digits exponent =>
    have settled := Decimal.settled_sumFrom Decimal.settled_zeroCents summed
    rcases sub_eq_ok settled subtracted with ⟨rest, above, rfl, zero⟩
    rw [Decimal.larger_zeroCents, bind_ok] at compared
    rw [ofUnits, Decimal.less_finite, Int.min_comm]
    generalize multiple false units place (min place exponent) = whole at *
    generalize multiple negative digits exponent (min place exponent) = part at *
    by_cases below : whole - part < 0
    · have nonzero : rest ≠ 0 := fun isZero => by
        have equal := zero.mp isZero
        omega
      rw [decide_eq_true below, if_pos (by simp [nonzero])] at compared
      cases compared
      exact ⟨0, rfl, fun _ => rfl⟩
    · rw [decide_eq_false below, if_neg (by simp)] at compared
      obtain ⟨amount, shape, _, zeroAmount⟩ := Money.round_eq_ok compared
      refine ⟨amount, shape, fun notLess => zeroAmount (zero.mpr ?_)⟩
      have enough : ¬ part < whole := of_decide_eq_false (Except.ok.inj notLess)
      omega

/-! ## The price -/

/-- What the rules take off a basket together, as the total counts it: added up by description
first, and then in the order in which the descriptions were first granted. -/
def takenOff (quantities : Quantities) (rules : List Rule) : Except Fault Decimal := do
  let combined ← (combineAll quantities [] rules).outcome
  Fault.ofArithmetic (Decimal.sumFrom Decimal.zeroCents (combined.map Prod.snd))

/-- What holds of the price of a basket, whatever the rules that apply take off: its subtotal and
its total are amounts of two decimals without a minus sign. -/
structure IsSound (quantities : Quantities) (rules : List Rule) (price : Price) : Prop where
  subtotal_eq : ∃ units, price.subtotal = .decimal (ofUnits units)
  total_eq : ∃ units, price.total = .decimal (ofUnits units)
  /-- The total is zero if no less than the subtotal is taken off. -/
  clamped : ∃ subtotal taken, price.subtotal = .decimal subtotal ∧
    takenOff quantities rules = .ok taken ∧
      (Decimal.less taken subtotal = .ok false → price.total = .decimal (ofUnits 0))
  discount_eq : ∃ discount, price.discount = .ok discount
  ordered : (price.offers.map Prod.fst).Pairwise (· < ·)
  described : ∀ description, description ∈ price.offers.map Prod.fst ↔
    ∃ rule ∈ rules, rule.description = .ok description

/-- A price that is made of an amount and of any numbers that the rules grant is sound. -/
theorem isSound_of_settle {units : Nat} {quantities : Quantities} {rules : List Rule}
    {grants : List (String × Decimal)} (granted : GrantAll quantities rules grants) {price : Price}
    (settled : settle (ofUnits units) grants = .ok price) : IsSound quantities rules price := by
  rcases settle_eq_ok settled with ⟨combined, total, discount, done, totalled, rounded, rfl⟩
  rcases totalOf_eq_ok totalled with ⟨taken, summed, rest, rfl, clamped⟩
  have distinct := distinct_of_combineFrom done
  have names : (ofDecimals (ofUnits units) (ofUnits rest) combined).offers.map Prod.fst =
      (sorted combined).map Prod.fst := by
    rw [ofDecimals_offers _ _ distinct, List.map_map]
    rfl
  constructor
  · exact ⟨units, rfl⟩
  · exact ⟨rest, rfl⟩
  · refine ⟨ofUnits units, taken, rfl, ?_, ?_⟩
    · rw [takenOff, combineAll_outcome granted, done]
      simp only [bind, Fault.ofArithmetic_ok, bind_ok, summed]
    · intro enough
      rw [← clamped enough]
      rfl
  · refine ⟨discount, ?_⟩
    rw [ofDecimals_discount _ _ distinct, rounded]
    rfl
  · rw [names]
    exact sorted_pairwise distinct
  · intro description
    rw [names, ((sorted_perm combined).map Prod.fst).mem_iff, mem_map_fst_combineFrom done,
      List.map_nil, List.mem_nil_iff, false_or, granted.mem_map_fst_iff]

/-- Whatever decimal numbers the rules take off a filled basket, its price is sound, or the
arithmetic fails and there is no price. -/
theorem ofBasket_sound_or_fails {catalog : Catalog} {basket : Basket}
    (filled : basket.Filled catalog) {rules : List Rule} {book : Offer.Book}
    (made : (Offer.Book.ofRules rules).outcome = .ok book)
    (decimal : ∀ rule ∈ rules, rule.isApplicable basket.quantities = true →
      ∃ amount, rule.granted basket.quantities = .ok (.decimal amount)) :
    (∃ price, (ofBasket catalog basket book).outcome = .ok price ∧
        IsSound basket.quantities (rules.filter (·.isApplicable basket.quantities)) price) ∨
      ∃ failure, (ofBasket catalog basket book).outcome = .error (.arithmetic failure) := by
  obtain ⟨_, described⟩ := Offer.Book.ofRules_eq_ok made
  have applied := Offer.Book.applicable_of_ofRules made basket.quantities
  have each : ∀ rule ∈ book.applicable basket.quantities,
      ∃ description amount, Grants basket.quantities rule description amount := by
    intro rule isApplied
    rw [applied, List.mem_filter] at isApplied
    obtain ⟨description, isDescription⟩ := described rule isApplied.1
    obtain ⟨amount, isGranted⟩ := decimal rule isApplied.1 isApplied.2
    exact ⟨description, amount, isDescription, isGranted⟩
  obtain ⟨grants, granted⟩ := exists_grantAll each
  rcases subtotalOf_filled filled with ⟨_, priced⟩ | ⟨failure, failed, _⟩
  · rw [ofBasket_outcome priced granted]
    cases settled : settle (ofUnits (catalog.worthOf basket.counts)) grants with
    | error failure => exact .inr ⟨failure, rfl⟩
    | ok price =>
      rw [← applied]
      exact .inl ⟨price, rfl, isSound_of_settle granted settled⟩
  · exact .inr ⟨failure, ofBasket_of_subtotalOf_error failed book⟩

/-- A rule that adds half a minor unit to every basket. -/
def surcharge : Rule :=
  .custom ⟨"Surcharge", fun _ => true, fun _ => .decimal (.finite true 5 (-3))⟩

/-- A rule that takes a thousand off every basket, written without decimals. -/
def voucher : Rule :=
  .custom ⟨"Voucher", fun _ => true, fun _ => .decimal (.finite false 1 3)⟩

/-- There is a price of soup and bread with a surcharge and a voucher, and it is sound. -/
theorem ofBasket_sound_meal :
    ∃ price, (ofBasket Basket.pantry Basket.meal ⟨[surcharge, voucher]⟩).outcome = .ok price ∧
      IsSound Basket.meal.quantities [surcharge, voucher] price := by
  have decimal : ∀ rule ∈ [surcharge, voucher], rule.isApplicable Basket.meal.quantities = true →
      ∃ amount, rule.granted Basket.meal.quantities = .ok (.decimal amount) := by
    intro rule isRule _
    rcases List.mem_cons.mp isRule with rfl | isLast
    · exact ⟨_, rfl⟩
    · rw [List.mem_singleton.mp isLast]
      exact ⟨_, rfl⟩
  rcases ofBasket_sound_or_fails Basket.filled_meal rfl decimal with sound | ⟨failure, failed⟩
  · exact sound
  · have subtotal : subtotalOf Basket.pantry Basket.meal = .ok (ofUnits 210) := rfl
    have granted : GrantAll Basket.meal.quantities [surcharge, voucher]
        [("Surcharge", .finite true 5 (-3)), ("Voucher", .finite false 1 3)] :=
      .cons ⟨rfl, rfl⟩ (.cons ⟨rfl, rfl⟩ .nil)
    have combined : combineFrom []
        [("Surcharge", .finite true 5 (-3)), ("Voucher", .finite false 1 3)] =
          .ok [("Surcharge", .finite true 5 (-3)), ("Voucher", .finite false 100000 (-2))] := rfl
    have inOrder :
        sorted [("Surcharge", .finite true 5 (-3)), ("Voucher", .finite false 100000 (-2))] =
          [("Surcharge", .finite true 5 (-3)), ("Voucher", .finite false 100000 (-2))] :=
      List.mergeSort_of_pairwise (by decide)
    have priced : (ofBasket Basket.pantry Basket.meal ⟨[surcharge, voucher]⟩).outcome =
        Fault.ofArithmetic (settle (ofUnits 210) _) := ofBasket_outcome subtotal granted
    rw [priced, settle, combined] at failed
    simp only [bind, bind_ok, inOrder] at failed
    cases failed

end Checkout.Price
