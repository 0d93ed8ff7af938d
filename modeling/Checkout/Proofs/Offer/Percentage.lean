import Checkout.Proofs.Catalog.Reading
import Checkout.Proofs.Offer.Product

/-!
# Percentages of unit prices

A percentage of a unit price is rounded twice: the product of the two to the precision, and the
hundredth part of what is kept of it to two decimals.  Both times the order is kept, so what is
taken off one unit grows with the percentage, from nothing up to the price.

Rounding twice is not always rounding once.  A product of one digit more than the precision may be
moved onto a half by the first step, from below or from above, and the second step then goes to the
even neighbour instead of the nearer one.  The products for which this makes a difference are told
by their last digits.
-/

namespace Checkout.Discount

open Decimal (precision kept beyond nearest)
open Money (limit place)
open Text.Numeral (tenTo length)

/-! ## Rounding twice -/

/-- A product of one digit more than the precision, in hundredths of a minor unit, that the first
step moves onto a half from the side of its nearer neighbour, while the other one is even. -/
def IsMisrounded (product : Nat) : Prop :=
  length product = precision + 1 ∧
    (product / 100 % 2 = 1 ∧ 46 ≤ product % 100 ∧ product % 100 ≤ 49 ∨
      product / 100 % 2 = 0 ∧ 51 ≤ product % 100 ∧ product % 100 ≤ 54)

variable {product : Nat}

/-- Rounding a product to the precision first makes a difference only where it drops one digit: else
there is nothing to drop, or both steps together drop what the second one drops alone. -/
theorem nearest_kept_cases (short : length product ≤ precision + 2) :
    length product ≠ precision + 1 ∧ nearest (kept product) 100 = nearest product 100 ∨
      length product = precision + 1 ∧
        nearest (kept product) 100 = nearest (nearest product 10) 10 := by
  rcases Nat.lt_or_ge precision (length product) with long | within
  · by_cases single : length product = precision + 1
    · have one : beyond product = 1 := by
        rw [beyond, single, Nat.add_sub_cancel_left]
      refine .inr ⟨single, ?_⟩
      rw [kept, one]
      exact Decimal.nearest_mul_mul _ 10 (by decide)
    · have two : beyond product = 2 := by
        rw [beyond]
        omega
      refine .inl ⟨single, ?_⟩
      rw [kept, two]
      exact Decimal.nearest_mul (by decide) _
  · refine .inl ⟨by omega, ?_⟩
    rw [Decimal.kept_of_short within]

/-- What is rounded twice is rounded as it should be, but for the products that move onto a half. -/
theorem nearest_kept_eq_iff (short : length product ≤ precision + 2) :
    nearest (kept product) 100 = nearest product 100 ↔ ¬IsMisrounded product := by
  unfold IsMisrounded
  rcases nearest_kept_cases short with ⟨other, same⟩ | ⟨single, twice⟩
  · simp [other, same]
  · -- every digit that plays a part is among the last three
    rw [twice]
    simp only [single, true_and, nearest]
    split_ifs <;> omega

/-- Rounding twice moves a product by less than one minor unit. -/
theorem nearest_kept_near (short : length product ≤ precision + 2) :
    100 * nearest (kept product) 100 < product + 100 ∧
      product < 100 * nearest (kept product) 100 + 100 := by
  rcases nearest_kept_cases short with ⟨_, same⟩ | ⟨_, twice⟩
  · rw [same]
    simp only [nearest]
    split_ifs <;> omega
  · rw [twice]
    simp only [nearest]
    split_ifs <;> omega

/-! ## What is taken off one unit -/

variable {source : Option String} {text : String} {catalog : Catalog} {item : ItemId}
  {price : Decimal} {percentage : Nat}

theorem units_lt_limit (read : (Catalog.ofText source text).outcome = .ok catalog)
    (found : catalog.price? item = some price) : Money.units price < limit := by
  obtain ⟨negative, units, rfl, small⟩ := Catalog.exists_units_of_ofText read found
  exact small

theorem length_product_le {units : Nat} (small : units < limit) (most : percentage ≤ 100) :
    length (units * percentage) ≤ precision + 2 := by
  have hundred : tenTo (precision + 2) = limit * 100 := rfl
  rw [Text.Numeral.length_le_iff (by decide), hundred]
  exact Nat.lt_of_le_of_lt (Nat.mul_le_mul_left _ most)
    (Nat.mul_lt_mul_of_pos_right small (by decide))

/-- A percentage of a price that is read is taken off one unit in whole minor units. -/
theorem exists_part (read : (Catalog.ofText source text).outcome = .ok catalog)
    (found : catalog.price? item = some price) (most : percentage ≤ 100) (amount : Option Amount) :
    ∃ part, perUnit { catalog, item, amount, percentage := some percentage } =
        .ok (some (.decimal part)) ∧
      Catalog.isPrice part = true ∧
      Money.units part = nearest (kept (Money.units price * percentage)) 100 := by
  have small := units_lt_limit read found
  obtain ⟨negative, sign, taken⟩ :=
    percentageOf_eq (Catalog.isPrice_of_price? found) small most
  refine ⟨.finite negative (nearest (kept (Money.units price * percentage)) 100) place, ?_, ?_, rfl⟩
  · simp only [perUnit, found, taken, Fault.ofArithmetic_ok, Except.map]
    rfl
  · apply Money.isPrice_place
    intro minus
    rw [sign minus, Nat.zero_mul]
    rfl

/-- What a percentage takes off one unit is the exact percentage of the price rounded half to even
to two decimals, unless their product is moved onto a half when it is rounded to the precision.
Also then it is an amount, and less than one minor unit away. -/
theorem perUnit_isRounded_iff (read : (Catalog.ofText source text).outcome = .ok catalog)
    (found : catalog.price? item = some price) (most : percentage ≤ 100) (amount : Option Amount) :
    ∃ part, perUnit { catalog, item, amount, percentage := some percentage } =
        .ok (some (.decimal part)) ∧
      Money.isMoney part = true ∧
      (Money.IsRounded (price.toRat * percentage / 100) part ↔
        ¬IsMisrounded (Money.units price * percentage)) ∧
      |part.toRat - price.toRat * percentage / 100| < 1 / 100 := by
  obtain ⟨part, taken, isPart, units⟩ := exists_part read found most amount
  have short := length_product_le (units_lt_limit read found) most
  have exact : price.toRat * percentage / 100 =
      ((Money.units price * percentage : Nat) : ℚ) / 100 / 100 := by
    rw [Money.toRat_of_isPrice (Catalog.isPrice_of_price? found)]
    push_cast
    ring
  refine ⟨part, taken, Money.isMoney_of_isPrice isPart, ?_, ?_⟩
  · rw [exact, Money.isRounded_iff isPart, units]
    exact nearest_kept_eq_iff short
  · obtain ⟨above, below⟩ := nearest_kept_near short
    rw [← units] at above below
    have aboveRat :
        (100 : ℚ) * Money.units part < (Money.units price * percentage : Nat) + 100 := by
      exact_mod_cast above
    have belowRat :
        ((Money.units price * percentage : Nat) : ℚ) < 100 * Money.units part + 100 := by
      exact_mod_cast below
    rw [exact, Money.toRat_of_isPrice isPart, abs_lt]
    constructor <;> linarith

/-- An item with a price of as many digits as an amount can have. -/
def gold : ItemId :=
  ⟨"GOLD", ⟨"Gold", by decide +kernel⟩, by decide⟩

/-- A catalog with gold alone. -/
def vault : Catalog :=
  ⟨[(gold, .finite false 1000000000000000000000000041 (-2))], by decide, by decide⟩

/-- The product with twelve loses a digit and is rounded as it should be. -/
theorem perUnit_isRounded_iff_vault :
    (Catalog.ofText none "Gold 10000000000000000000000000.41").outcome = .ok vault ∧
      vault.price? gold = some (Money.ofUnits 1000000000000000000000000041) ∧
      ∃ part, perUnit { catalog := vault, item := gold, amount := none, percentage := some 12 } =
          .ok (some (.decimal part)) ∧
        Money.IsRounded ((Money.ofUnits 1000000000000000000000000041).toRat * (12 : Nat) / 100)
          part := by
  have read : (Catalog.ofText none "Gold 10000000000000000000000000.41").outcome = .ok vault := rfl
  have found : vault.price? gold = some (Money.ofUnits 1000000000000000000000000041) := rfl
  obtain ⟨part, taken, _, rounded, _⟩ :=
    perUnit_isRounded_iff read found (show 12 ≤ 100 by decide) none
  exact ⟨read, found, part, taken, rounded.mpr (by unfold IsMisrounded; decide)⟩

/-- The product with eleven ends in fifty-one behind an even digit.  It is rounded down to fifty and
then to the even neighbour, but the one above is nearer. -/
theorem perUnit_not_isRounded_vault :
    (Catalog.ofText none "Gold 10000000000000000000000000.41").outcome = .ok vault ∧
      vault.price? gold = some (Money.ofUnits 1000000000000000000000000041) ∧
      perUnit { catalog := vault, item := gold, amount := none, percentage := some 11 } =
        .ok (some (.decimal (Money.ofUnits 110000000000000000000000004))) ∧
      ¬Money.IsRounded ((Money.ofUnits 1000000000000000000000000041).toRat * 11 / 100)
        (Money.ofUnits 110000000000000000000000004) := by
  have exact : (Money.ofUnits 1000000000000000000000000041).toRat * 11 / 100 =
      ((11000000000000000000000000451 : Nat) : ℚ) / 100 / 100 := by
    rw [Money.toRat_ofUnits]
    norm_num
  refine ⟨rfl, rfl, rfl, ?_⟩
  rw [exact, Money.isRounded_iff (Money.isPrice_ofUnits _)]
  decide

/-! ## Growing with the percentage -/

theorem nearest_kept_hundred {units : Nat} (small : units < limit) :
    nearest (kept (units * 100)) 100 = units := by
  have round : ¬IsMisrounded (units * 100) := by
    unfold IsMisrounded
    omega
  rw [(nearest_kept_eq_iff (length_product_le small (le_refl 100))).mpr round]
  exact Decimal.nearest_mul (by decide) units

/-- A discount takes its amount off every unit, and nothing if there are none. -/
theorem granted_of_perUnit {discount : Discount} {part : Decimal}
    (taken : discount.perUnit = .ok (some (.decimal part))) (isPart : Catalog.isPrice part = true)
    (view : Quantities) :
    (view discount.item ≤ 0 → discount.granted view = .ok Decimal.zeroCents) ∧
      (0 < view discount.item →
        IsProduct part (view discount.item) (discount.granted view)) := by
  constructor
  · intro none
    have refused : discount.isApplicable view = false := decide_eq_false (not_lt.mpr none)
    simp [granted, refused]
  · intro some
    have applies : discount.isApplicable view = true := decide_eq_true some
    have product : discount.granted view = timesQuantity (.decimal part) (view discount.item) := by
      simp only [granted, applies, if_true, taken]
      rfl
    rw [product]
    exact isProduct_timesQuantity isPart some.le

/-- What a percentage takes off one unit does not become less with a higher percentage: it begins
with nothing and ends with the price.  Off some units it takes the exact product, unless that can
not be held. -/
theorem perUnit_grows_to_price (read : (Catalog.ofText source text).outcome = .ok catalog)
    (found : catalog.price? item = some price) {lower higher : Nat} (le : lower ≤ higher)
    (most : higher ≤ 100) (amount : Option Amount) :
    ∃ part more,
      perUnit { catalog, item, amount, percentage := some lower } = .ok (some (.decimal part)) ∧
      perUnit { catalog, item, amount, percentage := some higher } = .ok (some (.decimal more)) ∧
      Money.isMoney part = true ∧ Money.isMoney more = true ∧
      0 ≤ part.toRat ∧ part.toRat ≤ more.toRat ∧ more.toRat ≤ price.toRat ∧
      (lower = 0 → part.toRat = 0) ∧ (lower = 100 → part.toRat = price.toRat) ∧
      ∀ view : Quantities,
        (view item ≤ 0 → granted { catalog, item, amount, percentage := some lower } view =
          .ok Decimal.zeroCents) ∧
        (0 < view item → IsProduct part (view item)
          (granted { catalog, item, amount, percentage := some lower } view)) := by
  have isPrice := Catalog.isPrice_of_price? found
  have small := units_lt_limit read found
  obtain ⟨part, taken, isPart, units⟩ := exists_part read found (le.trans most) amount
  obtain ⟨more, takenMore, isMore, unitsMore⟩ := exists_part read found most amount
  have grows : ∀ {first second : Nat}, first ≤ second →
      nearest (kept (Money.units price * first)) 100 ≤
        nearest (kept (Money.units price * second)) 100 := fun le =>
    Decimal.nearest_le_nearest _ (Decimal.kept_le_kept (Nat.mul_le_mul_left _ le))
  refine ⟨part, more, taken, takenMore, Money.isMoney_of_isPrice isPart,
    Money.isMoney_of_isPrice isMore, Money.toRat_nonneg_of_isPrice isPart, ?_, ?_, ?_, ?_,
    granted_of_perUnit taken isPart⟩
  · rw [Money.toRat_le_toRat_iff isPart isMore, units, unitsMore]
    exact grows le
  · rw [Money.toRat_le_toRat_iff isMore isPrice, unitsMore]
    exact (grows most).trans_eq (nearest_kept_hundred small)
  · rintro rfl
    have zero : nearest (kept 0) 100 = 0 := rfl
    rw [Money.toRat_of_isPrice isPart, units, Nat.mul_zero, zero, Nat.cast_zero, zero_div]
  · rintro rfl
    rw [Money.toRat_of_isPrice isPart, Money.toRat_of_isPrice isPrice, units,
      nearest_kept_hundred small]

/-- The whole price is taken off nine units, but off ten it can not be held. -/
theorem perUnit_grows_to_price_vault :
    (Catalog.ofText none "Gold 10000000000000000000000000.41").outcome = .ok vault ∧
      vault.price? gold = some (Money.ofUnits 1000000000000000000000000041) ∧
      (∃ amount, granted { catalog := vault, item := gold, amount := none, percentage := some 100 }
        (fun _ => 9) = .ok amount ∧ amount.toRat = 9 * (10 ^ 25 + 41 / 100)) ∧
      ∃ failure, granted { catalog := vault, item := gold, amount := none, percentage := some 100 }
        (fun _ => 10) = .error (.arithmetic failure) := by
  have read : (Catalog.ofText none "Gold 10000000000000000000000000.41").outcome = .ok vault := rfl
  have found : vault.price? gold = some (Money.ofUnits 1000000000000000000000000041) := rfl
  obtain ⟨part, _, _, _, _, _, _, _, _, _, whole, views⟩ :=
    perUnit_grows_to_price read found (le_refl 100) (le_refl 100) none
  have value : part.toRat = 10 ^ 25 + 41 / 100 := by
    rw [whole rfl, Money.toRat_ofUnits]
    norm_num
  have nine := ((views fun _ => 9).2 (by decide)).exact
  have ten := ((views fun _ => 10).2 (by decide)).fails_iff
  rw [value] at nine ten
  obtain ⟨amount, granted, _, exact⟩ := nine (by norm_num)
  refine ⟨read, found, ⟨amount, granted, ?_⟩, ten.mpr (by norm_num)⟩
  rw [exact]
  norm_num

end Checkout.Discount
