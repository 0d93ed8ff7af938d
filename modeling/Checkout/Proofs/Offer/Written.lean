import Checkout.Proofs.Offer.Overlap

/-!
# Rules as they are written

What the built-in parsers accept, told by the words of a line.  A discount is the name of an item
and one more word, which is a percentage or an amount.  A bundle is divided at the first word behind
which it could go on; whether the parts are in order is only asked there, so a line is refused even
if a later division would give a bundle.

The two main statements hold for every line without a line feed, whatever stands in it.  Both
parsers return a rule or nothing, and they return a rule exactly if the words write it.
-/

namespace Checkout

open Text (words unwords)
open Text.Numeral (isDigits value)
open Money (ofUnits limit)

/-! ## Discounts -/

namespace Discount

/-- Words write a discount on an item of the catalog.  All words but the last are the name of the
item.  The last word is a percentage, of at most 4300 digits and at most a hundred, or an amount
that is exact in minor units, can be held and is not greater than the price. -/
inductive Written (catalog : Catalog) : List (List Char) → Discount → Prop
  | percentage {name : List (List Char)} {item : ItemId} {price : Decimal} {digits : List Char} :
      name ≠ [] → normalizeName (String.ofList (unwords name)) = item.name →
        catalog.price? item = some price → isDigits digits = true → digits.length ≤ 4300 →
        value digits ≤ 100 →
        Written catalog (name ++ [digits ++ ['%']])
          { catalog, item, amount := none, percentage := some (value digits) }
  | amount {name : List (List Char)} {item : ItemId} {price : Decimal} {word : List Char}
      {units : Nat} :
      name ≠ [] → normalizeName (String.ofList (unwords name)) = item.name →
        catalog.price? item = some price → Money.Writes word units → units < limit →
        units ≤ Money.units price →
        Written catalog (name ++ [word])
          { catalog, item, amount := some (.decimal (ofUnits units)), percentage := none }

theorem isPointed_of_writes {word : List Char} {units : Nat} (written : Money.Writes word units) :
    isPointed word = true := by
  obtain ⟨whole, fraction, shape, isWhole, isFraction, _⟩ := written
  exact isPointed_iff.mpr ⟨whole, fraction, shape, isWhole, isFraction⟩

/-- A word with a percent sign at its end does not end with a digit. -/
theorem not_isPointed_percent (digits : List Char) : isPointed (digits ++ ['%']) = false := by
  rw [Bool.eq_false_iff]
  intro pointed
  obtain ⟨whole, fraction, shape, _, isFraction⟩ := isPointed_iff.mp pointed
  obtain ⟨someFraction, allDigits⟩ := Text.Numeral.isDigits_iff.mp isFraction
  obtain ⟨front, last, rfl⟩ := (List.eq_nil_or_concat' fraction).resolve_left someFraction
  rw [← List.cons_append, ← List.append_assoc] at shape
  have sameLast := (List.append_inj' shape rfl).2
  have digit := allDigits last (List.mem_append_right _ List.mem_cons_self)
  rw [← (List.cons.inj sameLast).1] at digit
  exact absurd digit (by decide)

theorem Reduction.ofWord?_eq_percentage_iff {word digits : List Char} :
    ofWord? word = some (.percentage digits) ↔ word = digits ++ ['%'] ∧ isDigits digits = true := by
  unfold ofWord?
  constructor
  · intro read
    split at read
    · cases read
    · rw [Option.ite_none_right_eq_some, Option.some.injEq, percentage.injEq] at read
      obtain ⟨⟨last, allDigits⟩, rfl⟩ := read
      obtain ⟨front, shape⟩ := List.getLast?_eq_some_iff.mp last
      rw [shape, List.dropLast_concat] at allDigits ⊢
      exact ⟨rfl, allDigits⟩
  · rintro ⟨rfl, allDigits⟩
    simp [not_isPointed_percent, allDigits]

theorem judgeWords_append {catalog : Catalog} {name : List (List Char)} (named : name ≠ [])
    (word : List Char) :
    judgeWords catalog (name ++ [word]) =
      (Reduction.ofWord? word).bind (ofForm catalog (unwords name)) := by
  rw [judgeWords, Catalog.splitWords?_append named]

/-- Just the words that write a discount are judged to be one. -/
theorem judgeWords_eq_some_ok_iff {catalog : Catalog} {all : List (List Char)}
    {discount : Discount} :
    judgeWords catalog all = some (.ok discount) ↔ Written catalog all discount := by
  constructor
  · intro judged
    rcases Catalog.splitWords?_cases all with ⟨_, short⟩ | ⟨name, word, rfl, named, _⟩
    · rw [judgeWords, short] at judged
      cases judged
    · rw [judgeWords_append named, Option.bind_eq_some_iff] at judged
      obtain ⟨reduction, isReduction, formed⟩ := judged
      obtain ⟨item, price, spelled, found, given⟩ := ofForm_eq_some_ok_iff.mp formed
      cases reduction with
      | percentage digits =>
        obtain ⟨rfl, allDigits⟩ := Reduction.ofWord?_eq_percentage_iff.mp isReduction
        obtain ⟨short, most, rfl⟩ := ofReduction_percentage_eq_ok_iff.mp given
        exact .percentage named spelled found allDigits short most
      | amount literal =>
        obtain ⟨rfl, pointed⟩ := Reduction.ofWord?_eq_amount_iff.mp isReduction
        have isPrice := Catalog.isPrice_of_price? found
        obtain ⟨units, written, small, most, rfl⟩ :=
          (ofReduction_amount_eq_ok_iff isPrice pointed).mp given
        exact .amount named spelled found written small most
  · intro written
    cases written with
    | @percentage name item price digits named spelled found allDigits short most =>
      have isReduction := Reduction.ofWord?_eq_percentage_iff.mpr ⟨rfl, allDigits⟩
      have given : ofReduction catalog item price (.percentage digits) = .ok _ :=
        ofReduction_percentage_eq_ok_iff.mpr ⟨short, most, rfl⟩
      rw [judgeWords_append named, isReduction]
      exact ofForm_eq_some_ok_iff.mpr ⟨item, price, spelled, found, given⟩
    | @amount name item price word units named spelled found written small most =>
      have pointed := isPointed_of_writes written
      have isReduction := Reduction.ofWord?_eq_amount_iff.mpr ⟨rfl, pointed⟩
      have isPrice := Catalog.isPrice_of_price? found
      have given : ofReduction catalog item price (.amount word) = .ok _ :=
        (ofReduction_amount_eq_ok_iff isPrice pointed).mpr ⟨units, written, small, most, rfl⟩
      rw [judgeWords_append named, isReduction]
      exact ofForm_eq_some_ok_iff.mpr ⟨item, price, spelled, found, given⟩

end Discount

/-! ## Bundles -/

namespace Bundle

/-- Behind some words stand an amount, the word `per` and a count, and further words. -/
structure SplitsAt (all : List (List Char)) (index : Nat) (amount count : List Char)
    (required : List (List Char)) : Prop where
  behind : 1 ≤ index
  pointed : Discount.isPointed amount = true
  counted : isDigits count = true
  named : required ≠ []
  whole : ∃ per, isPer per = true ∧ all.drop index = amount :: per :: count :: required

/-- No such words stand there. -/
def Unsplit (all : List (List Char)) (index : Nat) : Prop :=
  ∀ amount count required, ¬SplitsAt all index amount count required

/-- Words write a bundle of two items of the catalog.  At the first place where they can be divided,
the words in front name the discounted item and the words behind the required one, the amount is
exact in minor units, can be held and is not greater than the price of the discounted item, and the
count has at most 4300 digits and is not zero. -/
inductive Written (catalog : Catalog) (all : List (List Char)) : Bundle → Prop
  | bundle {index : Nat} {amount count : List Char} {back : List (List Char)}
      {discounted required : ItemId} {price other : Decimal} {units : Nat} :
      SplitsAt all index amount count back → (∀ earlier < index, Unsplit all earlier) →
        normalizeName (String.ofList (unwords (all.take index))) = discounted.name →
        normalizeName (String.ofList (unwords back)) = required.name →
        catalog.price? discounted = some price → catalog.price? required = some other →
        Money.Writes amount units → units < limit → units ≤ Money.units price →
        count.length ≤ 4300 → value count ≠ 0 →
        Written catalog all
          { discounted, required, amount := .decimal (ofUnits units), per := value count }

theorem readTailWords?_eq_some_iff {all required : List (List Char)} {amount count : List Char} :
    readTailWords? all = some (amount, count, required) ↔
      Discount.isPointed amount = true ∧ isDigits count = true ∧ required ≠ [] ∧
        ∃ per, isPer per = true ∧ all = amount :: per :: count :: required := by
  constructor
  · intro read
    unfold readTailWords? at read
    split at read
    · simp only [Option.ite_none_right_eq_some, Bool.and_eq_true, Bool.not_eq_true',
        List.isEmpty_eq_false_iff, Option.some.injEq, Prod.mk.injEq] at read
      obtain ⟨⟨⟨⟨pointed, per⟩, counted⟩, named⟩, rfl, rfl, rfl⟩ := read
      exact ⟨pointed, counted, named, _, per, rfl⟩
    · cases read
  · rintro ⟨pointed, counted, named, per, isPer, rfl⟩
    simp [readTailWords?, pointed, isPer, counted, named]

/-- Words are divided at the first of their ends that is the rest of a rule. -/
theorem divideWords?_eq_some_iff {before all : List (List Char)} {form : Form} :
    divideWords? before all = some form ↔
      ∃ index amount count required,
        readTailWords? (all.drop index) = some (amount, count, required) ∧
        (∀ earlier < index, readTailWords? (all.drop earlier) = none) ∧
        form = ⟨unwords (before ++ all.take index), amount, count, unwords required⟩ := by
  -- A word that no end of a rule begins with moves to the words in front, so these are general.
  induction all generalizing before with
  | nil => simp [divideWords?, readTailWords?]
  | cons word rest ih =>
    cases tail : readTailWords? (word :: rest) with
    | some parts =>
      obtain ⟨amount, count, required⟩ := parts
      simp only [divideWords?, tail, Option.some.injEq]
      constructor
      · rintro rfl
        exact ⟨0, amount, count, required, tail, by simp, by simp⟩
      · rintro ⟨index, amount', count', required', found, first, rfl⟩
        cases index with
        | zero =>
          rw [List.drop_zero, tail, Option.some.injEq] at found
          cases found
          simp
        | succ index =>
          have none := first 0 (Nat.succ_pos index)
          rw [List.drop_zero, tail] at none
          cases none
    | none =>
      simp only [divideWords?, tail]
      rw [ih]
      constructor
      · rintro ⟨index, amount, count, required, found, first, rfl⟩
        refine ⟨index + 1, amount, count, required, found, ?_, by simp⟩
        rintro (_ | earlier) less
        · exact tail
        · exact first earlier (Nat.lt_of_succ_lt_succ less)
      · rintro ⟨index, amount, count, required, found, first, rfl⟩
        cases index with
        | zero =>
          rw [List.drop_zero, tail] at found
          cases found
        | succ index =>
          refine ⟨index, amount, count, required, found, ?_, by simp⟩
          exact fun earlier less => first (earlier + 1) (Nat.succ_lt_succ less)

/-- Behind the first word, the ends that are the rest of a rule are the places where words can be
divided. -/
theorem splitsAt_succ_iff {word : List Char} {rest required : List (List Char)} {index : Nat}
    {amount count : List Char} :
    SplitsAt (word :: rest) (index + 1) amount count required ↔
      readTailWords? (rest.drop index) = some (amount, count, required) := by
  rw [readTailWords?_eq_some_iff]
  constructor
  · rintro ⟨_, pointed, counted, named, whole⟩
    exact ⟨pointed, counted, named, whole⟩
  · rintro ⟨pointed, counted, named, whole⟩
    exact ⟨Nat.le_add_left 1 index, pointed, counted, named, whole⟩

theorem unsplit_zero (all : List (List Char)) : Unsplit all 0 :=
  fun _ _ _ splits => absurd splits.behind (by decide)

theorem unsplit_succ_iff {word : List Char} {rest : List (List Char)} {index : Nat} :
    Unsplit (word :: rest) (index + 1) ↔ readTailWords? (rest.drop index) = none := by
  rw [Option.eq_none_iff_forall_ne_some]
  constructor
  · rintro unsplit ⟨amount, count, required⟩ found
    exact unsplit amount count required (splitsAt_succ_iff.mpr found)
  · exact fun none amount count required splits => none _ (splitsAt_succ_iff.mp splits)

/-- Words are read at the first place where they can be divided. -/
theorem readWords?_eq_some_iff {all : List (List Char)} {form : Form} :
    readWords? all = some form ↔
      ∃ index amount count required, SplitsAt all index amount count required ∧
        (∀ earlier < index, Unsplit all earlier) ∧
        form = ⟨unwords (all.take index), amount, count, unwords required⟩ := by
  cases all with
  | nil =>
    simp only [readWords?, reduceCtorEq, false_iff]
    rintro ⟨index, amount, count, required, splits, _⟩
    obtain ⟨per, _, whole⟩ := splits.whole
    simp at whole
  | cons word rest =>
    rw [readWords?, divideWords?_eq_some_iff]
    constructor
    · rintro ⟨index, amount, count, required, found, first, rfl⟩
      refine ⟨index + 1, amount, count, required, splitsAt_succ_iff.mpr found, ?_, rfl⟩
      rintro (_ | earlier) less
      · exact unsplit_zero _
      · exact unsplit_succ_iff.mpr (first earlier (Nat.lt_of_succ_lt_succ less))
    · rintro ⟨index, amount, count, required, splits, first, rfl⟩
      obtain ⟨index, rfl⟩ := Nat.exists_eq_add_of_le' splits.behind
      refine ⟨index, amount, count, required, splitsAt_succ_iff.mp splits, ?_, rfl⟩
      exact fun earlier less => unsplit_succ_iff.mp (first (earlier + 1) (Nat.succ_lt_succ less))

/-- Just the words that write a bundle are judged to be one. -/
theorem exists_form_iff {catalog : Catalog} {all : List (List Char)} {bundle : Bundle} :
    (∃ form, readWords? all = some form ∧ ofForm catalog form = .ok bundle) ↔
      Written catalog all bundle := by
  constructor
  · rintro ⟨form, read, given⟩
    obtain ⟨index, amount, count, back, splits, first, rfl⟩ := readWords?_eq_some_iff.mp read
    obtain ⟨discounted, required, price, other, units, named, namedOther, found, foundOther,
      written, small, most, short, nonzero, rfl⟩ := (ofForm_eq_ok_iff splits.pointed).mp given
    exact .bundle splits first named namedOther found foundOther written small most short nonzero
  · intro written
    cases written with
    | bundle splits first named namedOther found foundOther written small most short nonzero =>
      refine ⟨_, readWords?_eq_some_iff.mpr ⟨_, _, _, _, splits, first, rfl⟩, ?_⟩
      exact (ofForm_eq_ok_iff splits.pointed).mpr ⟨_, _, _, _, _, named, namedOther, found,
        foundOther, written, small, most, short, nonzero, rfl⟩

end Bundle

/-! ## Lines -/

namespace Parser

/-- What a parser returns, if it is known what it reads. -/
theorem ok_map_iff {α : Type} {found : Option α} {IsFound : α → Prop} (kind : α → Rule)
    (read : ∀ part, found = some part ↔ IsFound part) :
    (∀ rule, (.ok (found.map kind) : Except Fault (Option Rule)) = .ok (some rule) ↔
      ∃ part, rule = kind part ∧ IsFound part) ∧
    ((.ok (found.map kind) : Except Fault (Option Rule)) = .ok none ↔ ¬∃ part, IsFound part) := by
  constructor
  · intro rule
    rw [Except.ok.injEq, Option.map_eq_some_iff]
    constructor
    · rintro ⟨part, isFound, rfl⟩
      exact ⟨part, rfl, (read part).mp isFound⟩
    · rintro ⟨part, rfl, isPart⟩
      exact ⟨part, (read part).mpr isPart, rfl⟩
  · rw [Except.ok.injEq, Option.map_eq_none_iff, Option.eq_none_iff_forall_ne_some, not_exists]
    exact forall_congr' fun part => not_congr (read part)

variable {line : List Char}

/-- The parser of discounts returns a rule for just the lines whose words write one, and that rule.
For every other line it returns nothing, and it never fails. -/
theorem discount_parse_iff_written (catalog : Catalog) (oneLine : '\n' ∉ line) :
    (∀ rule, Parser.discount.parse catalog line = .ok (some rule) ↔
      ∃ discount, rule = .discount discount ∧ Discount.Written catalog (words line) discount) ∧
    (Parser.discount.parse catalog line = .ok none ↔
      ¬∃ discount, Discount.Written catalog (words line) discount) := by
  have read (discount : Discount) : Discount.read? catalog line = some discount ↔
      Discount.Written catalog (words line) discount := by
    rw [Discount.read?_eq_some_iff, Discount.judge_eq_judgeWords catalog oneLine,
      Discount.judgeWords_eq_some_ok_iff]
  exact ok_map_iff .discount read

theorem discount_parse_iff_written_soup :
    '\n' ∉ "Soup  0.650 ".toList ∧
      Parser.discount.parse Basket.pantry "Soup  0.650 ".toList =
        .ok (some (.discount { catalog := Basket.pantry, item := Basket.soup,
                               amount := some (.decimal (ofUnits 65)), percentage := none })) := by
  have written : Money.Writes "0.650".toList 65 :=
    ⟨"0".toList, "650".toList, rfl, by decide, by decide, by decide⟩
  exact ⟨by decide, ((discount_parse_iff_written Basket.pantry (by decide)).1 _).mpr
    ⟨_, rfl, .amount (List.cons_ne_nil "Soup".toList []) rfl rfl written (by decide) (by decide)⟩⟩

/-- The parser of bundles returns a rule for just the lines whose words write one where they can be
divided first, and that rule.  For every other line it returns nothing, and it never fails. -/
theorem bundle_parse_iff_written (catalog : Catalog) (oneLine : '\n' ∉ line) :
    (∀ rule, Parser.bundle.parse catalog line = .ok (some rule) ↔
      ∃ bundle, rule = .bundle bundle ∧ Bundle.Written catalog (words line) bundle) ∧
    (Parser.bundle.parse catalog line = .ok none ↔
      ¬∃ bundle, Bundle.Written catalog (words line) bundle) := by
  have read (bundle : Bundle) : Bundle.read? catalog line = some bundle ↔
      Bundle.Written catalog (words line) bundle := by
    rw [← Bundle.exists_form_iff, Bundle.read?, Bundle.judge_eq_readWords? catalog oneLine]
    simp [Option.bind_eq_some_iff, toOption_eq_some_iff]
  exact ok_map_iff .bundle read

/-- A later division would give soup for a bundle on the item with the odd name, but the first one
asks for an item that is not there. -/
theorem bundle_parse_iff_written_soup :
    let line := "Soup 0.40 per 2 Bread 0.10 per 1 Soup".toList
    '\n' ∉ line ∧
      Bundle.SplitsAt (words line) 5 "0.10".toList "1".toList ["Soup".toList] ∧
      Catalog.price? oddities soupBundle = some (.finite false 90 (-2)) ∧
      ¬∃ bundle, Bundle.Written oddities (words line) bundle := by
  refine ⟨by decide, ?_, rfl, (bundle_parse_iff_written oddities (by decide)).2.mp rfl⟩
  exact ⟨by decide, by decide, by decide, by decide, "per".toList, by decide, rfl⟩

end Parser

end Checkout
