import Checkout.Proofs.Decimal.Range
import Checkout.Proofs.Offer.Accepted

/-!
# What accepted rules grant

An accepted rule takes an amount off a number of units of one item, the discounted one.  The amount
is not more than the unit price, although a percentage of the price is rounded twice, and the number
of units is not more than the basket holds.  So what a rule grants is an amount of money up to what
the discounted units cost, and if it can not be worked out then the arithmetic fails.
-/

namespace Checkout

open Decimal (Failure precision kept fit)
open Money (place ofUnits limit Records)
open Text.Numeral (tenTo tenTo_zero tenTo_pos tenTo_add tenTo_le_tenTo_iff length length_mul_tenTo
  length_le_length)

/-! ## Numbers that are not below zero -/

namespace Decimal

/-- A finite number that is not below zero.  A zero may have a minus sign. -/
def NotNegative (x : Decimal) : Prop :=
  ∃ negative digits exponent, x = .finite negative digits exponent ∧ (negative = true → digits = 0)

theorem notNegative_fit {negative : Bool} {coefficient : Nat} {exponent : Int}
    (sign : negative = true → coefficient = 0) {result : Decimal}
    (fitted : fit negative coefficient exponent = .ok result) : NotNegative result := by
  rcases exists_of_fit fitted with ⟨digits, place, rfl, _, zero⟩
  exact ⟨negative, digits, place, rfl, fun minus => zero (sign minus)⟩

theorem notNegative_hundredth {x result : Decimal} (notNegative : NotNegative x)
    (divided : hundredth x = .ok result) : NotNegative result := by
  rcases notNegative with ⟨negative, digits, exponent, rfl, sign⟩
  exact notNegative_fit sign divided

end Decimal

namespace Money

theorem isPrice_place {negative : Bool} {units : Nat} (sign : negative = true → units = 0) :
    Catalog.isPrice (.finite negative units place) = true :=
  isPrice_iff.mpr ⟨negative, rfl, sign⟩

theorem isPrice_ofUnits (units : Nat) : Catalog.isPrice (ofUnits units) = true :=
  isPrice_place (by simp)

theorem isPrice_of_round {x amount : Decimal} (notNegative : x.NotNegative)
    (rounded : round x = .ok amount) : Catalog.isPrice amount = true := by
  rcases notNegative with ⟨negative, digits, exponent, rfl, sign⟩
  rcases round_eq_ok rounded with ⟨units, rfl, _, zero⟩
  exact isPrice_place fun minus => zero (sign minus)

/-- A number that stands for minor units is rounded to them, or it is too large. -/
theorem round_records {slack units : Nat} {x : Decimal} (records : Records slack x units) :
    (units < limit ∧ ∃ amount, round x = .ok amount ∧ Catalog.isPrice amount = true ∧
        Money.units amount = units) ∨
      ∃ failure, round x = .error failure ∧ limit ≤ units := by
  rcases records with ⟨negative, digits, zeros, rfl, sign, stand⟩
  rcases Nat.lt_or_ge units limit with small | large
  · rcases stand.exact small with ⟨rfl, rfl⟩
    rw [Int.natCast_zero, Int.add_zero]
    exact .inl ⟨small, _, round_place negative small, isPrice_place sign, rfl⟩
  · exact .inr ⟨.invalidOperation, round_beyond negative (stand.beyond large), large⟩

/-- Where `lost` decimals more than two are dropped, rounding to two decimals rounds that quotient
of minor units, provided that it is up to an amount that can be held. -/
theorem round_dropped {digits zeros lost units : Nat} (negative : Bool) (small : units < limit)
    (le : digits * tenTo zeros ≤ units * tenTo lost) :
    round (.finite negative digits (place + zeros - lost)) =
      .ok (.finite negative (Decimal.nearest (digits * tenTo zeros) (tenTo lost)) place) := by
  rcases Nat.eq_zero_or_pos digits with rfl | positive
  · have zero := Decimal.nearest_mul (tenTo_pos lost) 0
    rw [Nat.zero_mul] at zero ⊢
    rw [zero]
    rfl
  · have unitsPositive : 0 < units := by
      have scaled := Nat.lt_of_lt_of_le (Nat.mul_pos positive (tenTo_pos zeros)) le
      exact Nat.pos_of_mul_pos_right scaled
    have lengths : length digits + zeros ≤ length units + lost := by
      rw [← length_mul_tenTo positive, ← length_mul_tenTo unitsPositive]
      exact length_le_length le
    have short := length_le_of_lt_limit small
    have within : ¬ (precision : Int) < length digits + (place + zeros - lost - place) := by
      omega
    have rounded : (if place ≤ place + (zeros : Int) - lost then
        digits * tenTo (place + (zeros : Int) - lost - place).toNat
      else Decimal.dropDigits digits (place - (place + (zeros : Int) - lost)).toNat) =
        Decimal.nearest (digits * tenTo zeros) (tenTo lost) := by
      split
      · have split : zeros = (place + (zeros : Int) - lost - place).toNat + lost := by omega
        conv_rhs => rw [split, tenTo_add, ← Nat.mul_assoc]
        rw [Decimal.nearest_mul (tenTo_pos lost)]
      · have split : lost = (place - (place + (zeros : Int) - lost)).toNat + zeros := by omega
        conv_rhs => rw [split, tenTo_add]
        rw [Decimal.nearest_mul_mul _ _ (tenTo_pos zeros), Decimal.dropDigits_eq_nearest]
    have bounded : ¬ precision < length (Decimal.nearest (digits * tenTo zeros) (tenTo lost)) := by
      rw [precision_lt_length_iff, Nat.not_le]
      exact Nat.lt_of_le_of_lt (Decimal.nearest_le (tenTo_pos lost) le) small
    simp only [round, Decimal.quantize, positive.ne', if_false, if_neg within, rounded,
      if_neg bounded]

end Money

/-! ## Amounts off some units -/

namespace Discount

/-- An amount off so many units is the exact product, or it is too large. -/
theorem timesQuantity_cases {part : Decimal} (isPrice : Catalog.isPrice part = true)
    (count : Nat) :
    (Money.units part * count < limit ∧ ∃ amount,
        timesQuantity (.decimal part) count = .ok amount ∧ Catalog.isPrice amount = true ∧
          Money.units amount = Money.units part * count) ∨
      ∃ failure, timesQuantity (.decimal part) count = .error (.arithmetic failure) ∧
        limit ≤ Money.units part * count := by
  have opened : timesQuantity (.decimal part) count =
      Fault.ofArithmetic ((Decimal.mul part (Decimal.ofInt count)).bind Money.round) := by
    rw [Fault.ofArithmetic_bind]
    rfl
  rw [opened]
  rcases Money.mul_price isPrice count with ⟨x, product, records⟩ | ⟨failure, failed, large, _⟩
  · rw [product]
    rcases Money.round_records records with
      ⟨small, amount, rounded, shape⟩ | ⟨failure, failed, large⟩
    · refine .inl ⟨small, amount, ?_, shape⟩
      simp only [Except.bind, rounded, Fault.ofArithmetic_ok]
    · refine .inr ⟨failure, ?_, large⟩
      simp only [Except.bind, failed, Fault.ofArithmetic_error]
  · rw [failed]
    exact .inr ⟨failure, rfl, large⟩

/-! ## Percentages of prices -/

theorem percentageOf_eq_bind (percentage : Int) (price : Decimal) :
    percentageOf percentage price =
      (Decimal.mul price (Decimal.ofInt percentage)).bind fun product =>
        (Decimal.hundredth product).bind Money.round :=
  rfl

/-- A percentage of a price is an amount that is not below zero. -/
theorem isPrice_of_percentageOf {price part : Decimal} (isPrice : Catalog.isPrice price = true)
    {percentage : Nat} (taken : percentageOf percentage price = .ok part) :
    Catalog.isPrice part = true := by
  obtain ⟨negative, shape, sign⟩ := Money.isPrice_iff.mp isPrice
  rw [percentageOf_eq_bind, shape, Money.mul_place] at taken
  obtain ⟨exact, product, afterProduct⟩ := bind_eq_ok_iff.mp taken
  obtain ⟨hundredth, divided, rounded⟩ := bind_eq_ok_iff.mp afterProduct
  have notNegative : exact.NotNegative :=
    Decimal.notNegative_fit (fun minus => by rw [sign minus, Nat.zero_mul]) product
  exact Money.isPrice_of_round (Decimal.notNegative_hundredth notNegative divided) rounded

/-- The hundredth part of a number within the precision is exact. -/
theorem hundredth_place {digits zeros units : Nat} (negative : Bool) (positive : 0 < digits)
    (short : length digits ≤ precision) (small : units < limit)
    (le : digits * tenTo zeros ≤ units * tenTo 2) :
    Decimal.hundredth (.finite negative digits (place + zeros)) =
      .ok (.finite negative digits (place + zeros - 2)) := by
  have inReach : digits * tenTo zeros < tenTo (precision + 2) := by
    rw [tenTo_add]
    exact Nat.lt_of_le_of_lt le (Nat.mul_lt_mul_of_pos_right small (tenTo_pos 2))
  have lengths : length digits + zeros ≤ precision + 2 := by
    rw [← length_mul_tenTo positive]
    exact (Text.Numeral.length_le_iff (by decide)).mpr inReach
  have settled : Decimal.leastExponent ≤ place + (zeros : Int) - 2 := by
    simp only [Decimal.leastExponent, Decimal.bottomExponent, precision, place]
    omega
  rw [precision] at lengths
  have inRange : ¬ Decimal.topExponent < Decimal.adjusted digits (place + zeros - 2) := by
    simp only [Decimal.topExponent, Decimal.adjusted, place]
    omega
  rw [Decimal.hundredth, Decimal.fit_of_short negative positive short settled, if_neg inRange]

/-- No more than a hundred percent of a price is worked out by rounding twice: the product to the
precision, and its hundredth part to two decimals. -/
theorem percentageOf_eq {price : Decimal} (isPrice : Catalog.isPrice price = true)
    (small : Money.units price < limit) {percentage : Nat} (most : percentage ≤ 100) :
    ∃ negative, (negative = true → Money.units price = 0) ∧
      percentageOf percentage price = .ok (.finite negative
        (Decimal.nearest (kept (Money.units price * percentage)) (tenTo 2)) place) := by
  obtain ⟨negative, shape, sign⟩ := Money.isPrice_iff.mp isPrice
  refine ⟨negative, sign, ?_⟩
  rw [percentageOf_eq_bind]
  conv_lhs => rw [shape, Money.mul_place]
  generalize Money.units price = units at small sign
  rcases Nat.eq_zero_or_pos (units * percentage) with zero | positive
  · rw [zero]
    rfl
  · have bounded : kept (units * percentage) ≤ units * tenTo 2 :=
      Decimal.kept_le (Money.length_le_of_lt_limit small) (Nat.mul_le_mul_left _ most)
    rcases Money.fit_cents negative positive with
      ⟨digits, zeros, value, digitsPositive, digitsShort, fitted | ⟨_, huge⟩⟩
    · have le : digits * tenTo zeros ≤ units * tenTo 2 := value ▸ bounded
      rw [fitted, ← value]
      simp only [Except.bind]
      rw [hundredth_place negative digitsPositive digitsShort small le]
      exact Money.round_dropped negative small le
    · have less : limit * tenTo 2 ≤ Money.vast := by
        rw [limit, ← tenTo_add, Money.vast]
        exact tenTo_le_tenTo_iff.mpr (by decide)
      have under := Nat.mul_lt_mul_of_pos_right small (tenTo_pos 2)
      omega

/-- Rounding twice does not lead beyond the price. -/
theorem percentageOf_le {price : Decimal} (isPrice : Catalog.isPrice price = true)
    (small : Money.units price < limit) {percentage : Nat} (most : percentage ≤ 100) :
    ∃ part, percentageOf percentage price = .ok part ∧ Money.units part ≤ Money.units price := by
  obtain ⟨negative, _, taken⟩ := percentageOf_eq isPrice small most
  refine ⟨_, taken, Decimal.nearest_le (tenTo_pos 2) ?_⟩
  exact Decimal.kept_le (Money.length_le_of_lt_limit small) (Nat.mul_le_mul_left _ most)

end Discount

/-! ## Units that a bundle makes cheaper -/

namespace Bundle

/-- The units that a bundle makes cheaper, below zero also where there are none. -/
def cheaper (bundle : Bundle) (view : Quantities) : Int :=
  min ((view bundle.required).fdiv bundle.per) (view bundle.discounted)

variable {bundle : Bundle} {view : Quantities}

theorem cheaper_eq (counted : 0 < bundle.per) :
    bundle.cheaper view = min (view bundle.required / bundle.per) (view bundle.discounted) := by
  rw [cheaper, Int.fdiv_eq_ediv_of_nonneg _ counted.le]

theorem cheaper_le_cheaper (counted : 0 < bundle.per) {first second : Quantities}
    (more : ∀ item, first item ≤ second item) : bundle.cheaper first ≤ bundle.cheaper second := by
  rw [cheaper_eq counted, cheaper_eq counted]
  exact min_le_min (Int.ediv_le_ediv counted (more _)) (more _)

end Bundle

/-! ## Rules -/

namespace Rule

/-- The item that a discount or a bundle takes something off. -/
def discounted? : Rule → Option ItemId
  | .discount offer => some offer.item
  | .bundle offer => some offer.discounted
  | .custom _ => none

/-- The number of units that a rule makes cheaper, in a basket that it applies to. -/
def cheaper (quantities : Quantities) : Rule → Nat
  | .discount offer => (quantities offer.item).toNat
  | .bundle offer =>
    (min ((quantities offer.required).fdiv offer.per) (quantities offer.discounted)).toNat
  | .custom _ => 0

/-- A rule takes an amount off each of the units of an item that it makes cheaper.  What the amount
is does not depend on the basket; it is up to the unit price, or it can not be worked out. -/
structure TakesOff (catalog : Catalog) (rule : Rule) (item : ItemId)
    (outcome : Except Failure Decimal) : Prop where
  discounted_eq : rule.discounted? = some item
  isPrice : ∀ part, outcome = .ok part → Catalog.isPrice part = true
  le_price : catalog.unitsOf item < limit →
    ∃ part, outcome = .ok part ∧ Money.units part ≤ catalog.unitsOf item
  granted_eq : ∀ basket : Basket, rule.isApplicable basket.quantities = true →
    rule.granted basket.quantities = (Fault.ofArithmetic outcome).bind fun part =>
      (Discount.timesQuantity (.decimal part) (rule.cheaper basket.quantities)).map Amount.decimal
  held : ∀ basket : Basket, rule.isApplicable basket.quantities = true → 0 < basket.count item
  cheaper_le : ∀ basket : Basket, rule.cheaper basket.quantities ≤ basket.count item

/-- An accepted rule takes an amount up to the unit price off units of its item. -/
theorem Accepted.takesOff {catalog : Catalog} {rule : Rule} (accepted : Accepted catalog rule) :
    ∃ item outcome, TakesOff catalog rule item outcome := by
  cases accepted with
  | @percentage item price percentage found most =>
    have isPrice := Catalog.isPrice_of_price? found
    have unitsOf : catalog.unitsOf item = Money.units price := by simp [Catalog.unitsOf, found]
    refine ⟨item, Discount.percentageOf percentage price, rfl,
      fun _ => Discount.isPrice_of_percentageOf isPrice, ?_, ?_, ?_, ?_⟩
    · intro small
      rw [unitsOf] at small ⊢
      exact Discount.percentageOf_le isPrice small most
    · intro basket applies
      simp only [isApplicable] at applies
      simp only [granted, Discount.granted, applies, if_true, Discount.perUnit, found, cheaper,
        Basket.quantities, Int.toNat_natCast]
      cases Discount.percentageOf percentage price <;> rfl
    · intro basket applies
      simpa [isApplicable, Discount.isApplicable, Basket.quantities] using applies
    · intro basket
      simp [cheaper, Basket.quantities]
  | @amount item price units found small le =>
    have unitsOf : catalog.unitsOf item = Money.units price := by simp [Catalog.unitsOf, found]
    refine ⟨item, .ok (ofUnits units), rfl, ?_, fun _ => ⟨ofUnits units, rfl, unitsOf ▸ le⟩, ?_, ?_,
      ?_⟩
    · rintro part same
      cases same
      exact Money.isPrice_ofUnits units
    · intro basket applies
      simp only [isApplicable] at applies
      simp only [granted, Discount.granted, applies, if_true, Discount.perUnit, cheaper,
        Basket.quantities, Int.toNat_natCast]
      rfl
    · intro basket applies
      simpa [isApplicable, Discount.isApplicable, Basket.quantities] using applies
    · intro basket
      simp [cheaper, Basket.quantities]
  | @bundle discounted required price units per found small le positive =>
    have unitsOf : catalog.unitsOf discounted = Money.units price := by
      simp [Catalog.unitsOf, found]
    have eligible : ∀ basket : Basket,
        min ((basket.count required : Int).fdiv per) (basket.count discounted) =
          (min (basket.count required / per) (basket.count discounted) : Nat) := by
      intro basket
      rw [← Int.ofNat_fdiv]
      omega
    refine ⟨discounted, .ok (ofUnits units), rfl, ?_, fun _ => ⟨ofUnits units, rfl, unitsOf ▸ le⟩,
      ?_, ?_, ?_⟩
    · rintro part same
      cases same
      exact Money.isPrice_ofUnits units
    · intro basket applies
      simp only [isApplicable] at applies
      have some : ¬ (per : Int) = 0 := by omega
      simp only [granted, Bundle.granted, applies, if_true, Bundle.eligible, if_neg some, cheaper,
        Basket.quantities, eligible, Int.toNat_natCast]
      rfl
    · intro basket applies
      simp only [isApplicable, Bundle.isApplicable, Bool.and_eq_true] at applies
      have held : (0 : Int) < basket.count discounted := of_decide_eq_true applies.2
      omega
    · intro basket
      simp only [cheaper, Basket.quantities, eligible, Int.toNat_natCast]
      exact Nat.min_le_right _ _

/-- An accepted rule that applies grants an amount of money, or the arithmetic fails. -/
theorem Accepted.granted_cases {catalog : Catalog} {rule : Rule} (accepted : Accepted catalog rule)
    {basket : Basket} (applies : rule.isApplicable basket.quantities = true) :
    (∃ amount, rule.granted basket.quantities = .ok (.decimal amount) ∧
        Catalog.isPrice amount = true) ∨
      ∃ failure, rule.granted basket.quantities = .error (.arithmetic failure) := by
  obtain ⟨item, outcome, takesOff⟩ := accepted.takesOff
  rw [takesOff.granted_eq basket applies]
  cases outcome with
  | error failure => exact .inr ⟨failure, rfl⟩
  | ok part =>
    rcases Discount.timesQuantity_cases (takesOff.isPrice part rfl) (rule.cheaper basket.quantities)
      with ⟨_, amount, product, isAmount, _⟩ | ⟨failure, failed, _⟩
    · refine .inl ⟨amount, ?_, isAmount⟩
      simp only [Fault.ofArithmetic_ok, Except.bind, product, Except.map]
    · refine .inr ⟨failure, ?_⟩
      simp only [Fault.ofArithmetic_ok, Except.bind, failed, Except.map]

/-- An accepted rule that applies grants no more than what the units of its item cost, provided
that this can be held with two decimals. -/
theorem Accepted.granted_le {catalog : Catalog} {rule : Rule} (accepted : Accepted catalog rule)
    {basket : Basket} (applies : rule.isApplicable basket.quantities = true) :
    ∃ item, rule.discounted? = some item ∧ 0 < basket.count item ∧
      (catalog.unitsOf item * basket.count item < limit →
        ∃ amount, rule.granted basket.quantities = .ok (.decimal amount) ∧
          Catalog.isPrice amount = true ∧
          Money.units amount ≤ catalog.unitsOf item * basket.count item) := by
  obtain ⟨item, outcome, takesOff⟩ := accepted.takesOff
  have held := takesOff.held basket applies
  refine ⟨item, takesOff.discounted_eq, held, fun small => ?_⟩
  have unitSmall : catalog.unitsOf item < limit :=
    Nat.lt_of_le_of_lt (Nat.le_mul_of_pos_right _ held) small
  rcases takesOff.le_price unitSmall with ⟨part, rfl, le⟩
  have productLe := Nat.mul_le_mul le (takesOff.cheaper_le basket)
  rw [takesOff.granted_eq basket applies]
  rcases Discount.timesQuantity_cases (takesOff.isPrice part rfl) (rule.cheaper basket.quantities)
    with ⟨_, amount, product, isAmount, units⟩ | ⟨failure, _, large⟩
  · refine ⟨amount, ?_, isAmount, units ▸ productLe⟩
    simp only [Fault.ofArithmetic_ok, Except.bind, product, Except.map]
  · exact absurd (Nat.lt_of_le_of_lt productLe small) (Nat.not_lt.mpr large)

/-! ## More units -/

/-- An accepted rule that applies goes on to apply where there are more units. -/
theorem Accepted.isApplicable_mono {catalog : Catalog} {rule : Rule}
    (accepted : Accepted catalog rule) {first second : Quantities}
    (more : ∀ item, first item ≤ second item) (applies : rule.isApplicable first = true) :
    rule.isApplicable second = true := by
  cases accepted with
  | @percentage item price percentage found most =>
    simp only [isApplicable, Discount.isApplicable, decide_eq_true_eq] at applies ⊢
    exact Int.lt_of_lt_of_le applies (more item)
  | @amount item price units found small le =>
    simp only [isApplicable, Discount.isApplicable, decide_eq_true_eq] at applies ⊢
    exact Int.lt_of_lt_of_le applies (more item)
  | @bundle discounted required price units per found small le positive =>
    simp only [isApplicable, Bundle.isApplicable, Bool.and_eq_true, decide_eq_true_eq] at applies ⊢
    exact ⟨Int.le_trans applies.1 (more required), Int.lt_of_lt_of_le applies.2 (more discounted)⟩

/-- An accepted rule makes no fewer units cheaper where there are more of them. -/
theorem Accepted.cheaper_mono {catalog : Catalog} {rule : Rule} (accepted : Accepted catalog rule)
    {first second : Quantities} (more : ∀ item, first item ≤ second item) :
    rule.cheaper first ≤ rule.cheaper second := by
  cases accepted with
  | @percentage item price percentage found most => exact Int.toNat_le_toNat (more item)
  | @amount item price units found small le => exact Int.toNat_le_toNat (more item)
  | @bundle discounted required price units per found small le positive =>
    have counted : (0 : Int) < per := by omega
    exact Int.toNat_le_toNat (Bundle.cheaper_le_cheaper counted more)

/-- What an accepted rule grants does not become less where there are more units. -/
theorem Accepted.granted_mono {catalog : Catalog} {rule : Rule} (accepted : Accepted catalog rule)
    {basket next : Basket} (more : ∀ item, basket.quantities item ≤ next.quantities item)
    (applies : rule.isApplicable basket.quantities = true) {amount : Decimal}
    (granted : rule.granted next.quantities = .ok (.decimal amount)) :
    ∃ before, rule.granted basket.quantities = .ok (.decimal before) ∧
      Catalog.isPrice before = true ∧ Money.units before ≤ Money.units amount := by
  obtain ⟨item, outcome, takesOff⟩ := accepted.takesOff
  rw [takesOff.granted_eq next (accepted.isApplicable_mono more applies)] at granted
  rw [takesOff.granted_eq basket applies]
  cases outcome with
  | error failure => cases granted
  | ok part =>
    have fewer := Nat.mul_le_mul_left (Money.units part) (accepted.cheaper_mono more)
    have product := Discount.timesQuantity_cases (takesOff.isPrice part rfl)
    simp only [Fault.ofArithmetic_ok, Except.bind] at granted ⊢
    rcases product (rule.cheaper next.quantities) with
      ⟨small, after, exact, _, units⟩ | ⟨failure, failed, _⟩
    · rw [exact] at granted
      cases granted
      rcases product (rule.cheaper basket.quantities) with
        ⟨_, before, exact, isPrice, unitsBefore⟩ | ⟨failure, _, large⟩
      · refine ⟨before, by rw [exact]; rfl, isPrice, ?_⟩
        rw [units, unitsBefore]
        exact fewer
      · exact absurd (Nat.lt_of_le_of_lt fewer small) (Nat.not_lt.mpr large)
    · rw [failed] at granted
      cases granted

end Rule

end Checkout
