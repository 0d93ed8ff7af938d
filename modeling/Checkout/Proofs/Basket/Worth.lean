import Checkout.Price
import Checkout.Proofs.Basket.Filled
import Checkout.Proofs.Money.Running

/-!
# What a basket is worth

The worth of a basket is the exact sum of unit price times count in minor units, a whole number of
any size.  The subtotal of a filled basket is its worth as long as that can be held with two
decimals, and otherwise the basket has no subtotal.
-/

namespace Checkout

open Decimal (Failure)
open Money (place ofUnits limit Records Running Refused Settles)

namespace Money

/-- The minor units of a number with two decimals, its sign aside. -/
def units : Decimal → Nat
  | .finite _ coefficient _ => coefficient
  | _ => 0

/-- The unit prices are the numbers with exactly two decimals that are not below zero, of any
number of digits.  A zero may have a minus sign. -/
theorem isPrice_iff {x : Decimal} :
    Catalog.isPrice x = true ↔
      ∃ negative, x = .finite negative (units x) place ∧ (negative = true → units x = 0) := by
  cases x with
  | finite negative coefficient exponent =>
    have zero : Decimal.zeroCents = .finite false 0 place := rfl
    rcases Nat.eq_zero_or_pos coefficient with rfl | positive
    · simp [Catalog.isPrice, isMoney, Decimal.exponent?, units, zero, Decimal.compare?]
    · have nonzero : (coefficient != 0) = true := bne_iff_ne.mpr positive.ne'
      cases negative with
      | true =>
        simp [Catalog.isPrice, isMoney, Decimal.exponent?, units, zero, Decimal.compare?,
          positive.ne', nonzero]
      | false =>
        have order : compare coefficient 0 = .gt := Nat.compare_eq_gt.mpr positive
        simp [Catalog.isPrice, isMoney, Decimal.exponent?, units, zero, Decimal.compare?,
          positive.ne', Decimal.compareMagnitude, order]
  | infinite negative => simp [Catalog.isPrice, isMoney, Decimal.exponent?]
  | undefined negative signalling payload =>
    simp [Catalog.isPrice, isMoney, Decimal.exponent?]

theorem records_of_isPrice {x : Decimal} (isPrice : Catalog.isPrice x = true) :
    Records 1 x (units x) := by
  obtain ⟨negative, shape, sign⟩ := isPrice_iff.mp isPrice
  rw [shape]
  exact records_of_place sign

/-- So many units at a price cost the exact product, fitted. -/
theorem mul_place (negative : Bool) (units count : Nat) :
    Decimal.mul (.finite negative units place) (Decimal.ofInt count) =
      Decimal.fit negative (units * count) place := by
  have positive : decide ((count : Int) < 0) = false := by simp
  simp only [Decimal.ofInt, positive, Int.natAbs_natCast]
  simp [Decimal.mul, Decimal.undefinedOperand?]

/-- So many units at a price stand for the exact product, or the product fails as it may. -/
theorem mul_price {price : Decimal} (isPrice : Catalog.isPrice price = true) (count : Nat) :
    (∃ x, Decimal.mul price (Decimal.ofInt count) = .ok x ∧ Records 2 x (units price * count)) ∨
      ∃ failure, Decimal.mul price (Decimal.ofInt count) = .error failure ∧
        Refused (units price * count) failure := by
  obtain ⟨negative, shape, sign⟩ := isPrice_iff.mp isPrice
  have product : Decimal.mul price (Decimal.ofInt count) =
      Decimal.fit negative (units price * count) place := by
    rw [← mul_place, ← shape]
  rw [product]
  apply Money.fit_units
  intro minus
  rw [sign minus, Nat.zero_mul]

end Money

namespace Fault

@[simp]
theorem ofArithmetic_ok {Result : Type} (result : Result) :
    ofArithmetic (.ok result) = .ok result :=
  rfl

@[simp]
theorem ofArithmetic_error {Result : Type} (failure : Failure) :
    (ofArithmetic (.error failure) : Except Fault Result) = .error (.arithmetic failure) :=
  rfl

theorem ofArithmetic_bind {First Second : Type} (first : Except Failure First)
    (next : First → Except Failure Second) :
    ofArithmetic (first.bind next) = (ofArithmetic first).bind fun x => ofArithmetic (next x) := by
  cases first <;> rfl

end Fault

/-- The unit price of an item in minor units; zero for an item that the catalog does not have. -/
def Catalog.unitsOf (catalog : Catalog) (item : ItemId) : Nat :=
  ((catalog.price? item).map Money.units).getD 0

/-- The exact sum of unit price times count, in minor units. -/
def Catalog.worthOf (catalog : Catalog) (counts : List (ItemId × Nat)) : Nat :=
  (counts.map fun entry => catalog.unitsOf entry.1 * entry.2).sum

theorem Catalog.worthOf_put (catalog : Catalog) (item : ItemId) (count : Nat)
    (counts : List (ItemId × Nat)) :
    catalog.worthOf (Entries.put item count counts) +
        catalog.unitsOf item * (Entries.get? item counts).getD 0 =
      catalog.worthOf counts + catalog.unitsOf item * count := by
  induction counts with
  | nil => simp [worthOf, Entries.put]
  | cons entry rest ih =>
    obtain ⟨known, old⟩ := entry
    simp only [worthOf, List.map_cons, List.sum_cons] at ih ⊢
    by_cases same : known = item
    · simp only [Entries.put, Entries.get?, same, if_true, List.map_cons, List.sum_cons,
        Option.getD_some]
      omega
    · simp only [Entries.put, Entries.get?, same, if_false, List.map_cons, List.sum_cons]
      omega

/-- One unit more of an item is worth its unit price. -/
theorem Catalog.worthOf_counts_put (catalog : Catalog) (basket : Basket) (item : ItemId) :
    catalog.worthOf (basket.put item).counts =
      catalog.worthOf basket.counts + catalog.unitsOf item := by
  have replaced := catalog.worthOf_put item (basket.count item + 1) basket.counts
  rw [Nat.mul_succ] at replaced
  have before : (Entries.get? item basket.counts).getD 0 = basket.count item := rfl
  rw [before] at replaced
  have after : (basket.put item).counts =
      Entries.put item (basket.count item + 1) basket.counts := rfl
  rw [after]
  omega

theorem Catalog.isPrice_of_price? {catalog : Catalog} {item : ItemId} {price : Decimal}
    (found : catalog.price? item = some price) : Catalog.isPrice price = true :=
  catalog.priced (item, price) ((Entries.mem_iff_get? catalog.distinct).mpr found)

namespace Price

/-- The prices of counted items add up to a running sum of what they are worth. -/
theorem subtotalFrom_settles {catalog : Catalog} {counts : List (ItemId × Nat)}
    (priced : ∀ entry ∈ counts, (catalog.price? entry.1).isSome = true) {start : Decimal}
    {before : Nat} (running : Running 4 start before) :
    ∃ outcome, subtotalFrom catalog start counts = Fault.ofArithmetic outcome ∧
      Settles 4 outcome (before + catalog.worthOf counts) := by
  induction counts generalizing start before with
  | nil => exact ⟨.ok start, rfl, .inl ⟨start, rfl, running⟩⟩
  | cons entry rest ih =>
    obtain ⟨item, count⟩ := entry
    obtain ⟨price, found⟩ := Option.isSome_iff_exists.mp (priced _ List.mem_cons_self)
    have worth : before + catalog.worthOf ((item, count) :: rest) =
        before + Money.units price * count + catalog.worthOf rest := by
      simp [Catalog.worthOf, Catalog.unitsOf, found, Nat.add_assoc]
    rw [worth]
    simp only [subtotalFrom, lineAmount, found]
    rcases Money.mul_price (Catalog.isPrice_of_price? found) count with
      ⟨amount, product, records⟩ | ⟨failure, product, refused⟩
    · rw [product]
      rcases Money.add_running (by decide) (by decide) running records with
        ⟨next, added, nextRunning⟩ | ⟨failure, added, refused⟩
      · rcases ih (fun entry isEntry => priced entry (List.mem_cons_of_mem _ isEntry)) nextRunning
          with ⟨outcome, rested, settles⟩
        refine ⟨outcome, ?_, settles⟩
        rw [← rested]
        simp [bind, Except.bind, added]
      · refine ⟨.error failure, ?_, .inr ⟨failure, rfl, refused.mono (Nat.le_add_right _ _)⟩⟩
        simp [bind, Except.bind, added]
    · refine ⟨.error failure, ?_, .inr ⟨failure, rfl, refused.mono (by omega)⟩⟩
      rw [product]
      rfl

/-- The subtotal of a filled basket is its exact worth, or fails as it may. -/
theorem subtotalOf_filled {catalog : Catalog} {basket : Basket} (filled : basket.Filled catalog) :
    catalog.worthOf basket.counts < limit ∧
        subtotalOf catalog basket = .ok (ofUnits (catalog.worthOf basket.counts)) ∨
      ∃ failure, subtotalOf catalog basket = .error (.arithmetic failure) ∧
        Refused (catalog.worthOf basket.counts) failure := by
  rcases subtotalFrom_settles filled.tidy.priced (Money.running_zero (by decide)) with
    ⟨outcome, added, settles⟩
  rw [Nat.zero_add] at settles
  have rounded : subtotalOf catalog basket = Fault.ofArithmetic (outcome.bind Money.round) := by
    rw [Fault.ofArithmetic_bind, ← added]
    rfl
  rw [rounded]
  rcases Money.round_of_settles settles with ⟨small, exact⟩ | ⟨failure, failed, refused⟩
  · rw [exact]
    exact .inl ⟨small, rfl⟩
  · rw [failed]
    exact .inr ⟨failure, rfl, refused⟩

end Price

end Checkout
