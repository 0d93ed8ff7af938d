import Checkout.Proofs.Money.Shown
import Checkout.Proofs.Offer.Written
import Checkout.Proofs.Text.Spacing

/-!
# Rules that are written again

A rule can be written as a line again: the names of its items, the amount with two decimals, and the
percentage or the count in as few digits as it has.  That line is read to the same rule.  Its words
are those of a line that the rule was read from, in upper case where they name an item, so nothing
that only asks for the form of words can tell the two lines apart.  In particular a bundle that is
written again is not divided earlier than the line it was read from, whatever words the names hold.
-/

namespace Checkout

open Text (words unwords IsWord)
open Text.Case (upper)
open Text.Numeral (isDigits value ofNat)
open Money (ofUnits limit place)

/-! ## Lines of rules -/

/-- A whole number as it is shown, if it is short enough. -/
def Text.Numeral.shown? (number : Int) : Option String :=
  if isShort number then some (text number) else none

/-- The line that a discount is written as. -/
def Discount.line? (discount : Discount) : Option String :=
  match discount.percentage, discount.amount with
  | some percentage, _ => do
    some (discount.item.name ++ " " ++ (← Text.Numeral.shown? percentage) ++ "%")
  | none, some amount => some (discount.item.name ++ " " ++ amount.shown)
  | none, none => none

/-- The line that a bundle is written as. -/
def Bundle.line? (bundle : Bundle) : Option String := do
  let per ← Text.Numeral.shown? bundle.per
  some (bundle.discounted.name ++ " " ++ bundle.amount.shown ++ " per " ++ per ++ " " ++
    bundle.required.name)

/-- The line that a rule is written as; there is none for a custom rule. -/
def Rule.line? : Rule → Option String
  | .discount offer => offer.line?
  | .bundle offer => offer.line?
  | .custom _ => none

theorem Text.Numeral.shown?_value {digits : List Char} (areDigits : isDigits digits = true)
    (short : digits.length ≤ maxLength) :
    shown? (value digits) = some (String.ofList (ofNat (value digits))) := by
  obtain ⟨_, all⟩ := isDigits_iff.mp areDigits
  have below : value digits < tenTo maxLength :=
    Nat.lt_of_lt_of_le (value_lt_tenTo all) (tenTo_le_tenTo_iff.mpr short)
  have isShort : isShort (value digits) = true := decide_eq_true below
  have written : ofInt (value digits) = ofNat (value digits) := by
    rw [ofInt, if_neg (by omega), Int.natAbs_natCast]
  rw [shown?, if_pos isShort, text, written]

/-! ## Discounts -/

/-- What words write as a discount is written as words that write the same discount. -/
theorem Discount.Written.exists_line {catalog : Catalog} {all : List (List Char)}
    {discount : Discount} (written : Written catalog all discount) :
    ∃ others, (∀ word ∈ others, IsWord word) ∧
      discount.line? = some (String.ofList (unwords others)) ∧ Written catalog others discount := by
  cases written with
  | @percentage name item price digits named spelled found areDigits short most =>
    have isDigits := Text.Numeral.isDigits_ofNat (value digits)
    have noLonger : (ofNat (value digits)).length ≤ digits.length :=
      Text.Numeral.length_value_le areDigits
    have again := Written.percentage item.words_name_ne_nil item.normalizeName_unwords_words_name
      found isDigits (noLonger.trans short) (by rwa [Text.Numeral.value_ofNat])
    rw [Text.Numeral.value_ofNat] at again
    refine ⟨_, ?_, ?_, again⟩
    · rw [List.forall_mem_append, List.forall_mem_singleton]
      exact ⟨fun _ => Text.isWord_of_mem_words,
        (Text.isWord_of_isDigits isDigits).append (by decide)⟩
    · rw [item.ofList_unwords_words_append, String.ofList_append, ← String.append_assoc]
      simp only [line?, Text.Numeral.shown?_value areDigits short]
      rfl
  | @amount name item price word units named spelled found written small most =>
    have again := Written.amount item.words_name_ne_nil item.normalizeName_unwords_words_name
      found (Money.writes_write units) small most
    refine ⟨_, ?_, ?_, again⟩
    · rw [List.forall_mem_append, List.forall_mem_singleton]
      exact ⟨fun _ => Text.isWord_of_mem_words, Money.isWord_write false units⟩
    · rw [item.ofList_unwords_words_append]
      rfl

/-! ## Bundles -/

namespace Bundle

/-! ### The form of words -/

theorem not_isDigits_of_isPointed {word : List Char} (pointed : Discount.isPointed word = true) :
    ¬isDigits word = true := by
  obtain ⟨whole, fraction, rfl, _⟩ := Discount.isPointed_iff.mp pointed
  intro digits
  have point := (Text.Numeral.isDigits_iff.mp digits).2 '.' (by simp)
  exact absurd point (by decide)

theorem not_isPer_of_isPointed {word : List Char} (pointed : Discount.isPointed word = true) :
    ¬isPer word = true := by
  obtain ⟨whole, fraction, rfl, _⟩ := Discount.isPointed_iff.mp pointed
  intro per
  have point := mem_perLetters_of_isPer per '.' (by simp)
  exact absurd point (by decide)

theorem not_isPer_of_isDigits {word : List Char} (digits : isDigits word = true) :
    ¬isPer word = true := by
  obtain ⟨some, all⟩ := Text.Numeral.isDigits_iff.mp digits
  obtain ⟨c, isIn⟩ := List.exists_mem_of_ne_nil word some
  intro per
  have noDigit : (perLetters.any Char.isDigit) = false := by decide
  exact List.any_eq_false.mp noDigit c (mem_perLetters_of_isPer per c isIn) (all c isIn)

/-- The first word has each of the forms that the second has, so it can stand in its place. -/
structure StandsFor (first second : List Char) : Prop where
  pointed : Discount.isPointed second = true → Discount.isPointed first = true
  per : isPer second = true → isPer first = true
  digits : isDigits second = true → isDigits first = true

theorem standsFor_of_isPointed {first second : List Char}
    (isFirst : Discount.isPointed first = true) (isSecond : Discount.isPointed second = true) :
    StandsFor first second where
  pointed _ := isFirst
  per isPer := absurd isPer (not_isPer_of_isPointed isSecond)
  digits isDigits := absurd isDigits (not_isDigits_of_isPointed isSecond)

theorem standsFor_of_isPer {first second : List Char} (isFirst : isPer first = true)
    (isSecond : isPer second = true) : StandsFor first second where
  pointed isPointed := absurd isSecond (not_isPer_of_isPointed isPointed)
  per _ := isFirst
  digits isDigits := absurd isSecond (not_isPer_of_isDigits isDigits)

theorem standsFor_of_isDigits {first second : List Char} (isFirst : isDigits first = true)
    (isSecond : isDigits second = true) : StandsFor first second where
  pointed isPointed := absurd isSecond (not_isDigits_of_isPointed isPointed)
  per isPer := absurd isPer (not_isPer_of_isDigits isSecond)
  digits _ := isFirst

/-- A word has the forms that it has in upper case. -/
theorem standsFor_upper (word : List Char) : StandsFor word (upper word) := by
  have same := Text.Case.upper_upper word
  have pointed := Text.Case.check_of_upper_eq Discount.mem_figures_of_isPointed same
  have counted := Text.Case.check_of_upper_eq mem_figures_of_isDigits same
  exact ⟨pointed.symm.trans, (isPer_of_upper_eq same).symm.trans, counted.symm.trans⟩

theorem forall₂_standsFor_upper (all : List (List Char)) :
    List.Forall₂ StandsFor all (all.map upper) :=
  List.forall₂_map_right_iff.mpr (List.forall₂_same.mpr fun word _ => standsFor_upper word)

/-- Words that can stand for others can be divided wherever these can. -/
theorem Unsplit.of_forall₂ {all others : List (List Char)} {index : Nat}
    (same : List.Forall₂ StandsFor all others) (unsplit : Unsplit all index) :
    Unsplit others index := by
  intro amount count required splits
  obtain ⟨per, isPer, whole⟩ := splits.whole
  have rest := List.forall₂_drop index same
  rw [whole] at rest
  obtain ⟨firstAmount, _, sameAmount, fromPer, known⟩ := List.forall₂_cons_right_iff.mp rest
  obtain ⟨firstPer, _, samePer, fromCount, rfl⟩ := List.forall₂_cons_right_iff.mp fromPer
  obtain ⟨firstCount, firstRequired, sameCount, sameNames, rfl⟩ :=
    List.forall₂_cons_right_iff.mp fromCount
  have named : firstRequired ≠ [] := by
    rintro rfl
    cases sameNames
    exact splits.named rfl
  exact unsplit firstAmount firstCount firstRequired
    ⟨splits.behind, sameAmount.pointed splits.pointed, sameCount.digits splits.counted, named,
      firstPer, samePer.per isPer, known⟩

/-! ### The words of a bundle -/

/-- The words of the line that a bundle is written as. -/
def lineWords (discounted required : ItemId) (amount count : List Char) : List (List Char) :=
  words discounted.name.toList ++ amount :: "per".toList :: count :: words required.name.toList

theorem isWord_of_mem_lineWords {discounted required : ItemId} {amount count : List Char}
    (isAmount : IsWord amount) (isCount : IsWord count) :
    ∀ word ∈ lineWords discounted required amount count, IsWord word := by
  rw [lineWords, List.forall_mem_append, List.forall_mem_cons, List.forall_mem_cons,
    List.forall_mem_cons]
  exact ⟨fun _ => Text.isWord_of_mem_words, isAmount, by decide, isCount,
    fun _ => Text.isWord_of_mem_words⟩

theorem ofList_unwords_lineWords (discounted required : ItemId) (amount count : List Char) :
    String.ofList (unwords (lineWords discounted required amount count)) =
      discounted.name ++ " " ++ String.ofList amount ++ " per " ++ String.ofList count ++ " " ++
        required.name := by
  rw [lineWords, Text.unwords_append discounted.words_name_ne_nil (by simp),
    Text.unwords_cons (by simp), Text.unwords_cons (by simp),
    Text.unwords_cons required.words_name_ne_nil, discounted.unwords_words_name,
    required.unwords_words_name]
  apply String.toList_injective
  simp

/-- Where words are divided, the same items and other figures are written with as many words in
front, and the words that are divided can stand for those that are written. -/
theorem SplitsAt.forall₂_lineWords {all back : List (List Char)} {index : Nat}
    {amount count again more : List Char} {discounted required : ItemId}
    (splits : SplitsAt all index amount count back) (areWords : ∀ word ∈ all, IsWord word)
    (named : normalizeName (String.ofList (unwords (all.take index))) = discounted.name)
    (namedOther : normalizeName (String.ofList (unwords back)) = required.name)
    (pointed : Discount.isPointed again = true) (counted : isDigits more = true) :
    (words discounted.name.toList).length = index ∧
      List.Forall₂ StandsFor all (lineWords discounted required again more) := by
  obtain ⟨per, isPer, whole⟩ := splits.whole
  have shape : all = all.take index ++ amount :: per :: count :: back := by
    rw [← whole, List.take_append_drop]
  have inBack : ∀ word ∈ back, word ∈ all := fun word isIn => by
    rw [shape]
    simp [isIn]
  have front : words discounted.name.toList = (all.take index).map upper :=
    ItemId.words_name_of_normalizeName (fun word isIn => areWords word (List.mem_of_mem_take isIn))
      named
  have rear : words required.name.toList = back.map upper :=
    ItemId.words_name_of_normalizeName (fun word isIn => areWords word (inBack word isIn))
      namedOther
  constructor
  · have within : index ≤ all.length := by
      by_contra beyond
      rw [List.drop_eq_nil_of_le (Nat.le_of_not_le beyond)] at whole
      cases whole
    rw [front, List.length_map, List.length_take, Nat.min_eq_left within]
  · rw [shape, lineWords, front, rear]
    refine List.rel_append (forall₂_standsFor_upper _) ?_
    exact .cons (standsFor_of_isPointed splits.pointed pointed)
      (.cons (standsFor_of_isPer isPer (by decide))
        (.cons (standsFor_of_isDigits splits.counted counted) (forall₂_standsFor_upper back)))

/-- What words write as a bundle is written as words that write the same bundle. -/
theorem Written.exists_line {catalog : Catalog} {all : List (List Char)} {bundle : Bundle}
    (areWords : ∀ word ∈ all, IsWord word) (written : Written catalog all bundle) :
    ∃ others, (∀ word ∈ others, IsWord word) ∧
      bundle.line? = some (String.ofList (unwords others)) ∧ Written catalog others bundle := by
  cases written with
  | @bundle index amount count back discounted required price other units splits first named
      namedOther found foundOther written small most short nonzero =>
    have pointed := Discount.isPointed_of_writes (Money.writes_write units)
    have counted := Text.Numeral.isDigits_ofNat (value count)
    obtain ⟨isIndex, same⟩ := splits.forall₂_lineWords areWords named namedOther pointed counted
    let others := lineWords discounted required (ofUnits units).write (ofNat (value count))
    have splitsAgain : SplitsAt others index (ofUnits units).write (ofNat (value count))
        (words required.name.toList) :=
      ⟨splits.behind, pointed, counted, required.words_name_ne_nil, "per".toList, by decide,
        List.drop_left' isIndex⟩
    have front : others.take index = words discounted.name.toList := List.take_left' isIndex
    have noLonger : (ofNat (value count)).length ≤ count.length :=
      Text.Numeral.length_value_le splits.counted
    have again := Written.bundle splitsAgain
      (fun earlier less => (first earlier less).of_forall₂ same)
      (by rw [front, discounted.normalizeName_unwords_words_name])
      required.normalizeName_unwords_words_name found foundOther (Money.writes_write units) small
      most (noLonger.trans short) (by rwa [Text.Numeral.value_ofNat])
    rw [Text.Numeral.value_ofNat] at again
    refine ⟨others, ?_, ?_, again⟩
    · exact isWord_of_mem_lineWords (Money.isWord_write false units)
        (Text.isWord_of_isDigits counted)
    · rw [ofList_unwords_lineWords]
      simp only [line?, Text.Numeral.shown?_value splits.counted short]
      rfl

end Bundle

/-! ## Parsers -/

theorem Discount.read?_eq_some_iff_written {catalog : Catalog} {line : List Char}
    (oneLine : '\n' ∉ line) {discount : Discount} :
    read? catalog line = some discount ↔ Written catalog (words line) discount := by
  rw [read?_eq_some_iff, judge_eq_judgeWords catalog oneLine, judgeWords_eq_some_ok_iff]

theorem Discount.exists_read?_line {catalog : Catalog} {line : List Char} (oneLine : '\n' ∉ line)
    {discount : Discount} (read : read? catalog line = some discount) :
    ∃ canonical, discount.line? = some canonical ∧
      read? catalog canonical.toList = some discount := by
  obtain ⟨others, areWords, isLine, written⟩ :=
    ((read?_eq_some_iff_written oneLine).mp read).exists_line
  have stillOneLine := Text.not_mem_unwords areWords (c := '\n') (by decide) (by decide)
  refine ⟨_, isLine, ?_⟩
  rw [String.toList_ofList, read?_eq_some_iff_written stillOneLine, Text.words_unwords areWords]
  exact written

theorem Bundle.read?_eq_some_iff_written {catalog : Catalog} {line : List Char}
    (oneLine : '\n' ∉ line) {bundle : Bundle} :
    read? catalog line = some bundle ↔ Written catalog (words line) bundle := by
  rw [← exists_form_iff, read?, judge_eq_readWords? catalog oneLine]
  simp [Option.bind_eq_some_iff, toOption_eq_some_iff]

theorem Bundle.exists_read?_line {catalog : Catalog} {line : List Char} (oneLine : '\n' ∉ line)
    {bundle : Bundle} (read : read? catalog line = some bundle) :
    ∃ canonical, bundle.line? = some canonical ∧
      read? catalog canonical.toList = some bundle := by
  obtain ⟨others, areWords, isLine, written⟩ :=
    ((read?_eq_some_iff_written oneLine).mp read).exists_line fun _ => Text.isWord_of_mem_words
  have stillOneLine := Text.not_mem_unwords areWords (c := '\n') (by decide) (by decide)
  refine ⟨_, isLine, ?_⟩
  rw [String.toList_ofList, read?_eq_some_iff_written stillOneLine, Text.words_unwords areWords]
  exact written

/-- A rule that a built-in parser reads from a line can be written as a line again, and the parser
reads the same rule from that line. -/
theorem Parser.parse_line_of_parse {parser : Parser} (isBuiltIn : parser ∈ builtIn)
    {catalog : Catalog} {line : List Char} (oneLine : '\n' ∉ line) {rule : Rule}
    (parsed : parser.parse catalog line = .ok (some rule)) :
    ∃ canonical, rule.line? = some canonical ∧
      parser.parse catalog canonical.toList = .ok (some rule) := by
  cases parser with
  | discount =>
    rw [parse, Except.ok.injEq] at parsed
    obtain ⟨discount, read, rfl⟩ := Option.map_eq_some_iff.mp parsed
    obtain ⟨canonical, isLine, again⟩ := Discount.exists_read?_line oneLine read
    exact ⟨canonical, isLine, by rw [parse, again]; rfl⟩
  | bundle =>
    rw [parse, Except.ok.injEq] at parsed
    obtain ⟨bundle, read, rfl⟩ := Option.map_eq_some_iff.mp parsed
    obtain ⟨canonical, isLine, again⟩ := Bundle.exists_read?_line oneLine read
    exact ⟨canonical, isLine, by rw [parse, again]; rfl⟩
  | custom parser => simp [builtIn] at isBuiltIn

/-- An item whose name ends like the front of a bundle. -/
def soupPer : ItemId :=
  ⟨"SOUP 0.50 PER", ⟨"Soup 0.50 per", by decide +kernel⟩, by decide⟩

/-- A catalog of this item and bread. -/
def unfinished : Catalog :=
  ⟨[(soupPer, .finite false 65 (-2)), (Basket.bread, .finite false 80 (-2))], by decide, by decide⟩

/-- The line is not divided behind its first word, although an amount and the word `per` follow
there, and neither is the line that the bundle is written as. -/
theorem parse_line_of_parse_soup :
    let bundle : Bundle := { discounted := soupPer, required := Basket.bread,
                             amount := .decimal (ofUnits 40), per := 2 }
    let line := "Soup 0.50 per  0.4 PER 02 bread".toList
    '\n' ∉ line ∧
      Parser.bundle.parse unfinished line = .ok (some (.bundle bundle)) ∧
      Rule.line? (.bundle bundle) = some "SOUP 0.50 PER 0.40 per 2 BREAD" ∧
      Parser.bundle.parse unfinished "SOUP 0.50 PER 0.40 per 2 BREAD".toList =
        .ok (some (.bundle bundle)) := by
  intro bundle line
  have oneLine : '\n' ∉ line := by decide
  have parsed : Parser.bundle.parse unfinished line = .ok (some (.bundle bundle)) := rfl
  have isLine : Rule.line? (.bundle bundle) = some "SOUP 0.50 PER 0.40 per 2 BREAD" := by
    decide +kernel
  obtain ⟨canonical, alsoLine, again⟩ :=
    Parser.parse_line_of_parse (by simp [Parser.builtIn]) oneLine parsed
  rw [isLine, Option.some.injEq] at alsoLine
  rw [← alsoLine] at again
  exact ⟨oneLine, parsed, isLine, again⟩

end Checkout
