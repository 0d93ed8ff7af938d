import Checkout.Proofs.Basket.Worth
import Checkout.Proofs.Decimal.Order
import Checkout.Proofs.Money.Reading
import Checkout.Proofs.Offer.Reading
import Checkout.Proofs.Offer.Words

/-!
# The rules that are accepted

The two built-in parsers accept a line only if its item is in the catalog and what it takes off one
unit is not more than the price: a percentage of no more than a hundred, or an amount of two
decimals up to the unit price.  A bundle also needs a count that is not zero.  This file reads these
checks back from the text, so that later files need not look at a line again.
-/

namespace Checkout

open Money (place ofUnits limit)

/-! ## Amounts that are written with a point -/

/-- A word of digits around a point is read exactly if it writes an amount that can be held. -/
theorem Money.read?_eq_some_iff_writes {word : List Char}
    (pointed : Discount.isPointed word = true) {amount : Decimal} :
    read? word = some amount ↔
      ∃ units, Writes word units ∧ units < limit ∧ amount = ofUnits units := by
  constructor
  · intro read
    obtain ⟨whole, fraction, rfl, isWhole, isFraction⟩ := Discount.isPointed_iff.mp pointed
    obtain ⟨units, written, small, shape⟩ := (read?_point_eq_some_iff isWhole isFraction).mp read
    exact ⟨units, ⟨whole, fraction, rfl, isWhole, isFraction, written⟩, small, shape⟩
  · rintro ⟨units, ⟨whole, fraction, rfl, isWhole, isFraction, written⟩, small, shape⟩
    exact (read?_point_eq_some_iff isWhole isFraction).mpr ⟨units, written, small, shape⟩

/-- An amount is greater than a unit price exactly if it has more minor units. -/
theorem Money.compare?_ofUnits_eq_gt_iff {price : Decimal} (isPrice : Catalog.isPrice price = true)
    {units : Nat} :
    Decimal.compare? (ofUnits units) price = some .gt ↔ Money.units price < units := by
  obtain ⟨negative, shape, sign⟩ := Money.isPrice_iff.mp isPrice
  have unsigned : (negative && Money.units price != 0) = false := by
    cases negative with
    | false => rfl
    | true => simp [sign rfl]
  rw [shape, ofUnits, Decimal.compare?_finite, Int.min_self, ← shape,
    Decimal.multiple_of_nonneg unsigned, Decimal.multiple_of_nonneg (by rfl),
    Decimal.compare_natCast, Int.sub_self, Int.toNat_zero, Text.Numeral.tenTo_zero, Nat.mul_one,
    Nat.mul_one, Option.some.injEq, Nat.compare_eq_gt]

/-! ## Rules that pass the checks -/

namespace Rule

/-- The rules that take no more off one unit of an item of the catalog than it costs. -/
inductive Accepted (catalog : Catalog) : Rule → Prop
  | percentage {item : ItemId} {price : Decimal} {percentage : Nat} :
      catalog.price? item = some price → percentage ≤ 100 →
        Accepted catalog
          (.discount { catalog, item, amount := none, percentage := some percentage })
  | amount {item : ItemId} {price : Decimal} {units : Nat} :
      catalog.price? item = some price → units < limit → units ≤ Money.units price →
        Accepted catalog
          (.discount { catalog, item, amount := some (.decimal (ofUnits units)),
                       percentage := none })
  | bundle {discounted required : ItemId} {price : Decimal} {units per : Nat} :
      catalog.price? discounted = some price → units < limit → units ≤ Money.units price →
        0 < per →
        Accepted catalog (.bundle { discounted, required, amount := .decimal (ofUnits units), per })

/-- A rule that a built-in parser reads from some line. -/
def IsRead (catalog : Catalog) (rule : Rule) : Prop :=
  ∃ parser ∈ Parser.builtIn, ∃ line, parser.parse catalog line = .ok (some rule)

end Rule

/-- The words that write an amount are those with a point between digits. -/
theorem Discount.Reduction.ofWord?_eq_amount_iff {word literal : List Char} :
    ofWord? word = some (.amount literal) ↔ word = literal ∧ isPointed literal = true := by
  unfold ofWord?
  by_cases pointed : isPointed word = true
  · rw [if_pos pointed, Option.some.injEq, amount.injEq]
    constructor
    · rintro rfl
      exact ⟨rfl, pointed⟩
    · exact And.left
  · rw [if_neg pointed]
    constructor
    · intro read
      split at read <;> cases read
    · rintro ⟨rfl, isPoint⟩
      exact absurd isPoint pointed

theorem Discount.isPointed_of_readForm? {line name literal : List Char}
    (form : readForm? line = some (name, .amount literal)) : isPointed literal = true := by
  unfold readForm? at form
  dsimp only at form
  obtain ⟨reduction, word, rest⟩ := Option.bind_eq_some_iff.mp form
  split at rest
  · cases rest
  · cases rest
    exact (Reduction.ofWord?_eq_amount_iff.mp word).2

namespace Discount

variable {catalog : Catalog} {item : ItemId} {price : Decimal} {discount : Discount}

/-- Digits give a percentage if they are not too long to be read and their value is at most a
hundred. -/
theorem ofReduction_percentage_eq_ok_iff {digits : List Char} :
    ofReduction catalog item price (.percentage digits) = .ok discount ↔
      digits.length ≤ Text.Numeral.maxLength ∧ Text.Numeral.value digits ≤ 100 ∧
        discount = { catalog, item, amount := none,
                     percentage := some (Text.Numeral.value digits) } := by
  unfold ofReduction Text.Numeral.bounded?
  by_cases short : digits.length ≤ Text.Numeral.maxLength
  · by_cases most : Text.Numeral.value digits ≤ 100 <;> simp [short, most, eq_comm]
  · simp [short]

/-- Digits around a point give an amount if they write one that can be held and that is not greater
than the price. -/
theorem ofReduction_amount_eq_ok_iff (isPrice : Catalog.isPrice price = true) {word : List Char}
    (pointed : isPointed word = true) :
    ofReduction catalog item price (.amount word) = .ok discount ↔
      ∃ units, Money.Writes word units ∧ units < limit ∧ units ≤ Money.units price ∧
        discount = { catalog, item, amount := some (.decimal (ofUnits units)),
                     percentage := none } := by
  unfold ofReduction
  constructor
  · intro given
    cases read : Money.read? word with
    | none => simp [read] at given
    | some amount =>
      obtain ⟨units, written, small, rfl⟩ := (Money.read?_eq_some_iff_writes pointed).mp read
      simp only [read, Money.compare?_ofUnits_eq_gt_iff isPrice] at given
      split at given
      · cases given
      · rename_i notGreater
        cases given
        exact ⟨units, written, small, Nat.not_lt.mp notGreater, rfl⟩
  · rintro ⟨units, written, small, most, rfl⟩
    have read := (Money.read?_eq_some_iff_writes pointed).mpr ⟨units, written, small, rfl⟩
    simp [read, Money.compare?_ofUnits_eq_gt_iff isPrice, Nat.not_lt.mpr most]

theorem accepted_of_ofReduction (found : catalog.price? item = some price) {reduction : Reduction}
    (pointed : ∀ literal, reduction = .amount literal → isPointed literal = true)
    (given : ofReduction catalog item price reduction = .ok discount) :
    Rule.Accepted catalog (.discount discount) := by
  cases reduction with
  | percentage digits =>
    obtain ⟨_, most, rfl⟩ := ofReduction_percentage_eq_ok_iff.mp given
    exact .percentage found most
  | amount literal =>
    have isPrice := Catalog.isPrice_of_price? found
    obtain ⟨units, _, small, most, rfl⟩ :=
      (ofReduction_amount_eq_ok_iff isPrice (pointed literal rfl)).mp given
    exact .amount found small most

theorem read?_eq_some_iff {line : List Char} :
    read? catalog line = some discount ↔ judge catalog line = some (.ok discount) := by
  simp [read?, Option.bind_eq_some_iff, toOption_eq_some_iff]

/-- The discount that a reduction gives on an item that is named, if the catalog has it. -/
theorem ofForm_eq_some_ok_iff {name : List Char} {reduction : Reduction} :
    ofForm catalog name reduction = some (.ok discount) ↔
      ∃ item price, normalizeName (String.ofList name) = item.name ∧
        catalog.price? item = some price ∧
        ofReduction catalog item price reduction = .ok discount := by
  rw [ofForm, Option.map_eq_some_iff]
  constructor
  · rintro ⟨item, named, given⟩
    cases found : catalog.price? item with
    | none => simp [found] at given
    | some price =>
      rw [found] at given
      exact ⟨item, price, ItemId.ofName?_eq_some_iff.mp named, found, given⟩
  · rintro ⟨item, price, named, found, given⟩
    refine ⟨item, ItemId.ofName?_eq_some_iff.mpr named, ?_⟩
    rw [found]
    exact given

/-- A discount that is read passes the checks. -/
theorem accepted_of_read? {line : List Char} (read : read? catalog line = some discount) :
    Rule.Accepted catalog (.discount discount) := by
  obtain ⟨⟨name, reduction⟩, form, formed⟩ :=
    Option.bind_eq_some_iff.mp (read?_eq_some_iff.mp read)
  obtain ⟨item, price, _, found, given⟩ := ofForm_eq_some_ok_iff.mp formed
  refine accepted_of_ofReduction found ?_ given
  rintro literal rfl
  exact isPointed_of_readForm? form

end Discount

theorem Bundle.isPointed_of_readTail? {text amount per required : List Char}
    (tail : readTail? text = some (amount, per, required)) : Discount.isPointed amount = true := by
  unfold readTail? at tail
  dsimp only at tail
  split at tail
  · rename_i checks
    rw [Option.some.injEq, Prod.mk.injEq] at tail
    rw [← tail.1]
    simp only [Bool.and_eq_true] at checks
    exact checks.1.1.1.1
  · cases tail

theorem Bundle.isPointed_of_divide? {before text : List Char} {form : Form}
    (divided : divide? before text = some form) : Discount.isPointed form.amount = true := by
  induction text generalizing before with
  | nil =>
    rw [divide?_nil] at divided
    cases divided
  | cons c rest ih =>
    rw [divide?_cons] at divided
    split at divided
    · cases tail : readTail? (c :: rest) with
      | none =>
        rw [tail] at divided
        dsimp only at divided
        split at divided
        · cases divided
        · exact ih divided
      | some parts =>
        obtain ⟨amount, per, required⟩ := parts
        rw [tail, Option.some.injEq] at divided
        rw [← divided]
        exact isPointed_of_readTail? tail
    · split at divided
      · cases divided
      · exact ih divided

namespace Bundle

variable {catalog : Catalog} {bundle : Bundle}

theorem readCount?_eq_some_iff {digits : List Char} {count : Nat} :
    readCount? digits = some count ↔
      digits.length ≤ Text.Numeral.maxLength ∧ Text.Numeral.value digits ≠ 0 ∧
        count = Text.Numeral.value digits := by
  rw [readCount?, Option.filter_eq_some_iff, Text.Numeral.bounded?, Option.ite_none_right_eq_some,
    Option.some.injEq, decide_eq_true_iff]
  constructor
  · rintro ⟨⟨short, rfl⟩, nonzero⟩
    exact ⟨short, nonzero, rfl⟩
  · rintro ⟨short, nonzero, rfl⟩
    exact ⟨⟨short, rfl⟩, nonzero⟩

/-- Four parts give a bundle if both items are in the catalog, the amount can be held and is not
greater than the price of the discounted item, and the count can be read and is not zero. -/
theorem ofForm_eq_ok_iff {form : Form} (pointed : Discount.isPointed form.amount = true) :
    ofForm catalog form = .ok bundle ↔
      ∃ discounted required price other units,
        normalizeName (String.ofList form.discounted) = discounted.name ∧
        normalizeName (String.ofList form.required) = required.name ∧
        catalog.price? discounted = some price ∧ catalog.price? required = some other ∧
        Money.Writes form.amount units ∧ units < limit ∧ units ≤ Money.units price ∧
        form.per.length ≤ Text.Numeral.maxLength ∧ Text.Numeral.value form.per ≠ 0 ∧
        bundle = { discounted, required, amount := .decimal (ofUnits units),
                   per := Text.Numeral.value form.per } := by
  unfold ofForm
  constructor
  · intro given
    dsimp only at given
    split at given
    · rename_i discounted required isDiscounted isRequired
      split at given
      · rename_i price other found foundOther
        split at given
        · rename_i amount read
          obtain ⟨units, written, small, rfl⟩ := (Money.read?_eq_some_iff_writes pointed).mp read
          split at given
          · cases given
          · rename_i notGreater
            have isPrice := Catalog.isPrice_of_price? found
            have most : units ≤ Money.units price := Nat.not_lt.mp fun more =>
              notGreater ((Money.compare?_ofUnits_eq_gt_iff isPrice).mpr more)
            split at given
            · rename_i per isCount
              obtain ⟨short, nonzero, rfl⟩ := readCount?_eq_some_iff.mp isCount
              cases given
              exact ⟨discounted, required, price, other, units,
                ItemId.ofName?_eq_some_iff.mp isDiscounted,
                ItemId.ofName?_eq_some_iff.mp isRequired, found, foundOther, written, small, most,
                short, nonzero, rfl⟩
            · cases given
        · cases given
      · cases given
    · cases given
  · rintro ⟨discounted, required, price, other, units, named, namedOther, found, foundOther,
      written, small, most, short, nonzero, rfl⟩
    have read := (Money.read?_eq_some_iff_writes pointed).mpr ⟨units, written, small, rfl⟩
    have isCount := readCount?_eq_some_iff.mpr ⟨short, nonzero, rfl⟩
    have isPrice := Catalog.isPrice_of_price? found
    simp [ItemId.ofName?_eq_some_iff.mpr named, ItemId.ofName?_eq_some_iff.mpr namedOther, found,
      foundOther, read, Money.compare?_ofUnits_eq_gt_iff isPrice, Nat.not_lt.mpr most, isCount]

theorem read?_eq_some_iff {line : List Char} :
    read? catalog line = some bundle ↔
      ∃ form, readForm? line = some form ∧ ofForm catalog form = .ok bundle := by
  simp [read?, judge, Option.bind_eq_some_iff, toOption_eq_some_iff]

/-- A bundle that is read passes the checks. -/
theorem accepted_of_read? {line : List Char} (read : read? catalog line = some bundle) :
    Rule.Accepted catalog (.bundle bundle) := by
  obtain ⟨form, divided, given⟩ := read?_eq_some_iff.mp read
  obtain ⟨_, _, _, _, _, _, _, found, _, _, small, most, _, nonzero, rfl⟩ :=
    (ofForm_eq_ok_iff (isPointed_of_divide? divided)).mp given
  exact .bundle found small most (Nat.pos_of_ne_zero nonzero)

end Bundle

theorem Rule.IsRead.accepted {catalog : Catalog} {rule : Rule} (read : IsRead catalog rule) :
    Accepted catalog rule := by
  obtain ⟨parser, isBuiltIn, line, parsed⟩ := read
  cases parser with
  | discount =>
    rw [Parser.parse, Except.ok.injEq] at parsed
    rcases Option.map_eq_some_iff.mp parsed with ⟨discount, read, rfl⟩
    exact Discount.accepted_of_read? read
  | bundle =>
    rw [Parser.parse, Except.ok.injEq] at parsed
    rcases Option.map_eq_some_iff.mp parsed with ⟨bundle, read, rfl⟩
    exact Bundle.accepted_of_read? read
  | custom parser => simp [Parser.builtIn] at isBuiltIn

/-! ## Rules of a text -/

namespace Offer.Book

/-- Every rule of a book that is read from some lines by the built-in parsers has passed the
checks. -/
theorem accepted_of_ofLines {catalog : Catalog} {source : Option String}
    {lines : List DataFile.Line} {book : Book}
    (read : (ofLines Parser.builtIn catalog source lines).outcome = .ok book) :
    ∀ rule ∈ book.rules, rule.Accepted catalog := by
  rw [ofLines, Logged.outcome_bind] at read
  obtain ⟨rules, isRead, made⟩ := bind_eq_ok_iff.mp read
  rw [(ofRules_eq_ok made).1]
  intro rule isRule
  have areReadings := forall₂_of_readLines (neverFail_builtIn catalog) isRead
  have parsed : rule.IsRead catalog := parse_of_forall₂ areReadings rule isRule
  exact parsed.accepted

/-- The same of a book that is read from a text. -/
theorem accepted_of_ofText {catalog : Catalog} {source : Option String} {text : String}
    {book : Book} (read : (ofText Parser.builtIn catalog source text).outcome = .ok book) :
    ∀ rule ∈ book.rules, rule.Accepted catalog :=
  accepted_of_ofLines read

end Offer.Book

end Checkout
