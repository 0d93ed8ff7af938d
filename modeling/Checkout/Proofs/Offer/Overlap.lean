import Checkout.Proofs.Layout

/-!
# Lines that both built-in parsers accept

A discount and a bundle name their items freely, so there are lines that have both forms.  The last
word of such a line is what the discount takes off, and the words in front of it are the name of its
item.  These words also begin like a bundle: a name, an amount, the word `per` and a count.  So only
an item whose name reads like the rule of a bundle makes a line ambiguous, and offers on a catalog
without such an item never are.

Nothing is assumed about line feeds here: a parser can be asked about any characters.
-/

namespace Checkout

open Text (words trim)
open Text.Case (upper)
open Text.Numeral (isDigits)

/-! ## The words of a discount -/

namespace Discount

/-- The words of a discount are those of its item and one more. -/
theorem words_of_readForm? {line item : List Char} {reduction : Reduction}
    (form : readForm? line = some (item, reduction)) :
    ∃ word, words line = words item ++ [word] := by
  unfold readForm? at form
  rcases splitLast_cases line with ⟨_, divided⟩ | ⟨known, word, divided, whole, _⟩
  · rw [divided] at form
    cases form
  · rw [divided] at form
    obtain ⟨_, _, rest⟩ := Option.bind_eq_some_iff.mp form
    split at rest
    · cases rest
    · cases rest
      exact ⟨word, whole⟩

theorem item_of_ofReduction {catalog : Catalog} {item : ItemId} {price : Decimal}
    {reduction : Reduction} {discount : Discount}
    (given : ofReduction catalog item price reduction = .ok discount) : discount.item = item := by
  unfold ofReduction at given
  split at given
  · split at given
    · split at given <;> cases given
      rfl
    · cases given
  · split at given
    · split at given <;> cases given
      rfl
    · cases given

/-- The item of a discount is in the catalog, and all words of the line but the last are its
name. -/
theorem exists_name_of_read? {catalog : Catalog} {line : List Char} {discount : Discount}
    (read : read? catalog line = some discount) :
    ∃ name word, words line = words name ++ [word] ∧
      normalizeName (String.ofList name) = discount.item.name ∧
      discount.item ∈ catalog.items := by
  obtain ⟨⟨name, reduction⟩, form, formed⟩ :=
    Option.bind_eq_some_iff.mp (read?_eq_some_iff.mp read)
  obtain ⟨word, whole⟩ := words_of_readForm? form
  obtain ⟨item, price, named, found, given⟩ := ofForm_eq_some_ok_iff.mp formed
  rw [item_of_ofReduction given]
  exact ⟨name, word, whole, named, Entries.get?_isSome_iff.mp (Option.isSome_of_eq_some found)⟩

end Discount

/-! ## The words of a bundle -/

namespace Bundle

/-- A text of words begins with an amount, the word `per` and a count, and goes on with the words of
the required item. -/
structure IsTail (all : List (List Char)) (amount count required : List Char) : Prop where
  pointed : Discount.isPointed amount = true
  counted : isDigits count = true
  named : words required ≠ []
  whole : ∃ per, isPer per = true ∧ all = amount :: per :: count :: words required

theorem isTail_of_readTail? {text amount count required : List Char}
    (tail : readTail? text = some (amount, count, required)) :
    IsTail (words text) amount count required := by
  have first := takeWord_cases text
  have second := takeWord_cases (takeWord text).2
  have third := takeWord_cases (takeWord (takeWord text).2).2
  unfold readTail? at tail
  dsimp only at tail
  split at tail
  · rename_i checks
    rw [Option.some.injEq, Prod.mk.injEq, Prod.mk.injEq] at tail
    obtain ⟨rfl, rfl, rfl⟩ := tail
    simp only [Bool.and_eq_true, Bool.not_eq_true', List.isEmpty_eq_false_iff] at checks
    obtain ⟨⟨⟨⟨pointed, isPer⟩, counted⟩, more⟩, _⟩ := checks
    -- None of the three words is missing, since the check that it has to pass fails on no letters.
    have whole := first.resolve_left fun missing => by
      rw [missing.2] at pointed
      exact absurd pointed (by decide)
    have afterAmount := second.resolve_left fun missing => by
      rw [missing.2] at isPer
      exact absurd isPer (by decide)
    have afterPer := third.resolve_left fun missing => by
      rw [missing.2] at counted
      exact absurd counted (by decide)
    refine ⟨pointed, counted, ?_, _, isPer, ?_⟩
    · rwa [Text.words_trimStart, ne_eq, ← Text.trimStart_eq_nil_iff]
    · rw [whole, afterAmount, afterPer, Text.words_trimStart]
  · cases tail

/-- A text that is divided behind some characters has the words of the discounted item, which begins
with these characters, and of the rest of the rule. -/
theorem exists_tail_of_divide? {before text : List Char} {form : Form}
    (divided : divide? before text = some form) :
    ∃ front tail, form.discounted = before.reverse ++ front ∧
      words (before.reverse ++ text) = words form.discounted ++ tail ∧
      IsTail tail form.amount form.per form.required := by
  induction text generalizing before with
  | nil =>
    rw [divide?_nil] at divided
    cases divided
  | cons c rest ih =>
    have moved : (c :: before).reverse ++ rest = before.reverse ++ c :: rest := by simp
    have later : divide? (c :: before) rest = some form →
        ∃ front tail, form.discounted = before.reverse ++ front ∧
          words (before.reverse ++ c :: rest) = words form.discounted ++ tail ∧
          IsTail tail form.amount form.per form.required := by
      intro divided
      obtain ⟨front, tail, begins, whole, isTail⟩ := ih divided
      rw [moved] at whole
      exact ⟨c :: front, tail, by rw [begins]; simp, whole, isTail⟩
    rw [divide?_cons] at divided
    split at divided
    · rename_i atBlank
      rw [Bool.and_eq_true] at atBlank
      cases tail : readTail? (c :: rest) with
      | none =>
        rw [tail] at divided
        dsimp only at divided
        split at divided
        · cases divided
        · exact later divided
      | some parts =>
        obtain ⟨amount, count, required⟩ := parts
        rw [tail, Option.some.injEq] at divided
        rw [← divided]
        refine ⟨[], words (c :: rest), (List.append_nil _).symm, ?_, isTail_of_readTail? tail⟩
        rw [Text.words_append_cons atBlank.2, Text.words_cons_of_isBlank atBlank.2]
    · split at divided
      · cases divided
      · exact later divided

/-- The words of a bundle are those of the discounted item, which has at least one, and of the rest
of the rule. -/
theorem exists_tail_of_readForm? {line : List Char} {form : Form}
    (isForm : readForm? line = some form) :
    ∃ front tail, front ≠ [] ∧ words line = front ++ tail ∧
      IsTail tail form.amount form.per form.required := by
  rw [readForm?] at isForm
  rw [← Text.words_trim line]
  rcases Text.trim_cases line with empty | ⟨c, rest, start, notBlank⟩
  · rw [empty] at isForm
    cases isForm
  · rw [start, divide?_cons_of_not_isBlank notBlank] at isForm
    obtain ⟨front, tail, begins, whole, isTail⟩ := exists_tail_of_divide? isForm
    refine ⟨words form.discounted, tail, ?_, ?_, isTail⟩
    · rw [begins, List.reverse_singleton, List.singleton_append, Text.words_eq_cons notBlank]
      exact List.cons_ne_nil _ _
    · rw [start]
      exact whole

theorem exists_tail_of_read? {catalog : Catalog} {line : List Char} {bundle : Bundle}
    (read : read? catalog line = some bundle) :
    ∃ front tail amount count required, front ≠ [] ∧ words line = front ++ tail ∧
      IsTail tail amount count required := by
  unfold read? judge at read
  obtain ⟨verdict, judged, _⟩ := Option.bind_eq_some_iff.mp read
  obtain ⟨form, isForm, _⟩ := Option.map_eq_some_iff.mp judged
  obtain ⟨front, tail, named, whole, isTail⟩ := exists_tail_of_readForm? isForm
  exact ⟨front, tail, _, _, _, named, whole, isTail⟩

/-- The word `per` in upper case. -/
theorem upper_of_isPer {word : List Char} (per : isPer word = true) :
    upper word = ['P', 'E', 'R'] := by
  have letters : (perLetters.all fun c => capital c == capital c.toLower) = true := by decide
  have known := mem_perLetters_of_isPer per
  calc
    upper word = word.map capital := isClass_perLetters.upper_eq_map known
    _ = (word.map Char.toLower).map capital := by
      rw [List.map_map]
      exact List.map_congr_left fun c isIn =>
        eq_of_beq (List.all_eq_true.mp letters c (known c isIn))
    _ = ['P', 'E', 'R'] := by
      rw [of_decide_eq_true per]
      rfl

end Bundle

/-! ## Names that read like a rule -/

/-- Behind at least one other word stand digits with a point between them, the word `PER` and
digits. -/
def HoldsRule (all : List (List Char)) : Prop :=
  ∃ front whole fraction count back, front ≠ [] ∧ isDigits whole = true ∧
    isDigits fraction = true ∧ isDigits count = true ∧
    all = front ++ (whole ++ '.' :: fraction) :: ['P', 'E', 'R'] :: count :: back

/-- The name of the item reads like the rule of a bundle. -/
def ItemId.IsRuleLike (item : ItemId) : Prop :=
  HoldsRule (words item.name.toList)

theorem HoldsRule.four_le_length {all : List (List Char)} (holds : HoldsRule all) :
    4 ≤ all.length := by
  obtain ⟨front, _, _, _, _, named, _, _, _, rfl⟩ := holds
  have positive := List.length_pos_iff.mpr named
  simp only [List.length_append, List.length_cons]
  omega

/-- A tail of a rule in upper case is one with the word `PER`, without the last word of the line. -/
theorem Bundle.IsTail.exists_upper {all : List (List Char)} {amount count required : List Char}
    (isTail : IsTail all amount count required) :
    ∃ init last whole fraction back, all = init ++ [last] ∧ isDigits whole = true ∧
      isDigits fraction = true ∧
      init.map upper = (whole ++ '.' :: fraction) :: ['P', 'E', 'R'] :: count :: back := by
  obtain ⟨per, isPer, whole⟩ := isTail.whole
  obtain ⟨digits, fraction, amountShape, isWhole, isFraction⟩ :=
    Discount.isPointed_iff.mp isTail.pointed
  obtain ⟨others, last, named⟩ :=
    (List.eq_nil_or_concat' (words required)).resolve_left isTail.named
  have sameAmount : upper amount = amount := by
    rw [Text.Case.isClass_figures.upper_eq_map (Discount.mem_figures_of_isPointed isTail.pointed),
      List.map_id]
  have sameCount : upper count = count := by
    rw [Text.Case.isClass_figures.upper_eq_map (mem_figures_of_isDigits isTail.counted),
      List.map_id]
  refine ⟨amount :: per :: count :: others, last, digits, fraction, others.map upper, ?_, isWhole,
    isFraction, ?_⟩
  · rw [whole, named]
    rfl
  · rw [List.map_cons, List.map_cons, List.map_cons, sameAmount, sameCount, upper_of_isPer isPer,
      ← amountShape]

/-- The item of a discount on a line that is also a bundle is named like a rule. -/
theorem Discount.isRuleLike_of_read? {catalog : Catalog} {line : List Char} {discount : Discount}
    {bundle : Bundle} (read : read? catalog line = some discount)
    (readBundle : Bundle.read? catalog line = some bundle) :
    discount.item ∈ catalog.items ∧ discount.item.IsRuleLike := by
  obtain ⟨name, word, wholeLine, spelled, isKnown⟩ := exists_name_of_read? read
  obtain ⟨front, tail, amount, count, required, named, divided, isTail⟩ :=
    Bundle.exists_tail_of_read? readBundle
  obtain ⟨init, last, whole, fraction, back, cut, isWhole, isFraction, shape⟩ :=
    isTail.exists_upper
  refine ⟨isKnown, front.map upper, whole, fraction, count, back, ?_, isWhole, isFraction,
    isTail.counted, ?_⟩
  · rwa [ne_eq, List.map_eq_nil_iff]
  · -- Both readings end with the same word, so the words of the name are all others.
    rw [wholeLine, cut, ← List.append_assoc] at divided
    obtain ⟨sameName, _⟩ := List.append_inj' divided rfl
    rw [← spelled, normalizeName, String.toList_ofList, String.toList_ofList,
      words_normalizeChars, sameName, List.map_append, shape]

/-! ## The main result -/

namespace Offer.Book

/-- A line that two of the built-in parsers accept is a discount and a bundle. -/
theorem exists_of_two_le_accepting {catalog : Catalog} {line : List Char}
    (several : 2 ≤ (accepting Parser.builtIn catalog line).length) :
    ∃ discount bundle, Discount.read? catalog line = some discount ∧
      Bundle.read? catalog line = some bundle := by
  cases discounted : Discount.read? catalog line with
  | none =>
    cases bundled : Bundle.read? catalog line <;>
      simp [accepting, Parser.builtIn, Parser.parse, discounted, bundled] at several
  | some discount =>
    cases bundled : Bundle.read? catalog line with
    | none => simp [accepting, Parser.builtIn, Parser.parse, discounted, bundled] at several
    | some bundle => exact ⟨discount, bundle, rfl, rfl⟩

/-- A text is only refused as ambiguous if both built-in parsers accept one of its lines. -/
theorem exists_of_ofText_ambiguous {catalog : Catalog} {source place : Option String}
    {text row : String} {labels : List Value} {number : Nat}
    (refused : (ofText Parser.builtIn catalog source text).outcome =
      .error (.problem (.corruptData ⟨.ambiguousRule row labels, number, place⟩))) :
    ∃ line discount bundle, Discount.read? catalog line = some discount ∧
      Bundle.read? catalog line = some bundle := by
  rw [ofText, ofLines, Logged.outcome_bind] at refused
  rcases readLines_cases (neverFail_builtIn catalog) source
      (DataFile.dataLines (DataFile.linesOf text.toList)) with
    ⟨rules, read, areReadings⟩ | ⟨_, line, later, _, fault, divided, _, isRefusal, ends⟩
  · rw [read, Except.bind, ofRules_of_forall₂ areReadings] at refused
    cases refused
  · rw [divided, ends, Except.bind, Except.error.injEq] at refused
    obtain ⟨defect, shape, ⟨_, rfl⟩ | ⟨several, _⟩⟩ := exists_of_isRefusal isRefusal
    · rw [shape] at refused
      cases refused
    · exact ⟨line.text, exists_of_two_le_accepting several⟩

end Offer.Book

/-- The two built-in kinds of rules overlap only through strangely named items.  If both parsers
accept a line, then the item of the discount, which is in the catalog, is named like the rule of a
bundle.  So with a catalog without such a name no text of offers is refused as ambiguous. -/
theorem isRuleLike_of_parse_both (catalog : Catalog) :
    (∀ line first second, Parser.discount.parse catalog line = .ok (some first) →
      Parser.bundle.parse catalog line = .ok (some second) →
      ∃ discount, first = .discount discount ∧ discount.item ∈ catalog.items ∧
        discount.item.IsRuleLike) ∧
    ((∀ item ∈ catalog.items, ¬item.IsRuleLike) →
      ∀ source text row labels number place,
        (Offer.Book.ofText Parser.builtIn catalog source text).outcome ≠
          .error (.problem (.corruptData ⟨.ambiguousRule row labels, number, place⟩))) := by
  constructor
  · intro line first second isFirst isSecond
    rw [Parser.parse, Except.ok.injEq] at isFirst
    rw [Parser.parse, Except.ok.injEq] at isSecond
    obtain ⟨discount, read, rfl⟩ := Option.map_eq_some_iff.mp isFirst
    obtain ⟨bundle, readBundle, rfl⟩ := Option.map_eq_some_iff.mp isSecond
    exact ⟨discount, rfl, Discount.isRuleLike_of_read? read readBundle⟩
  · intro plain source text row labels number place refused
    obtain ⟨line, discount, bundle, read, readBundle⟩ :=
      Offer.Book.exists_of_ofText_ambiguous refused
    obtain ⟨isKnown, isRuleLike⟩ := Discount.isRuleLike_of_read? read readBundle
    exact plain discount.item isKnown isRuleLike

/-- An item that is named by an amount. -/
def cheapBread : ItemId :=
  ⟨"BREAD 0.50", ⟨"Bread 0.50", by decide +kernel⟩, by decide⟩

/-- An item that is named like the rule of a bundle. -/
def soupBundle : ItemId :=
  ⟨"SOUP 0.40 PER 2 BREAD", ⟨"Soup 0.40 per 2 Bread", by decide +kernel⟩, by decide⟩

/-- A catalog with soup and both of these items. -/
def oddities : Catalog :=
  ⟨[(Basket.soup, .finite false 65 (-2)), (cheapBread, .finite false 50 (-2)),
    (soupBundle, .finite false 90 (-2))], by decide, by decide⟩

/-- One line is a discount on the item with the odd name and a bundle of the two others; the catalog
of bread and soup has no odd name, and an offers file for it is not ambiguous. -/
theorem isRuleLike_of_parse_both_soup :
    (∃ first second,
      Parser.discount.parse oddities "Soup 0.40 per 2 Bread 0.50".toList = .ok (some first) ∧
      Parser.bundle.parse oddities "Soup 0.40 per 2 Bread 0.50".toList = .ok (some second) ∧
      ∃ discount, first = .discount discount ∧ discount.item ∈ oddities.items ∧
        discount.item.IsRuleLike) ∧
    (∀ item ∈ Basket.pantry.items, ¬item.IsRuleLike) ∧
      (Offer.Book.ofText Parser.builtIn Basket.pantry none "Soup 0.40 per 2 Bread 0.50").outcome ≠
        .error (.problem (.corruptData
          ⟨.ambiguousRule "Soup 0.40 per 2 Bread 0.50" [.text "discount", .text "bundle"], 1,
            none⟩)) := by
  have plain : ∀ item ∈ Basket.pantry.items, ¬item.IsRuleLike := by
    intro item isItem isRuleLike
    have long := isRuleLike.four_le_length
    simp only [Basket.pantry, Catalog.items, List.map_cons, List.map_nil, List.mem_cons,
      List.not_mem_nil, or_false] at isItem
    rcases isItem with rfl | rfl
    · exact absurd long (by decide)
    · exact absurd long (by decide)
  refine ⟨?_, plain, (isRuleLike_of_parse_both Basket.pantry).2 plain none _ _ _ _ _⟩
  have isDiscount : Parser.discount.parse oddities "Soup 0.40 per 2 Bread 0.50".toList =
      .ok (some (.discount { catalog := oddities, item := soupBundle,
                             amount := some (.decimal (Money.ofUnits 50)),
                             percentage := none })) := rfl
  have isBundle : Parser.bundle.parse oddities "Soup 0.40 per 2 Bread 0.50".toList =
      .ok (some (.bundle { discounted := Basket.soup, required := cheapBread,
                           amount := .decimal (Money.ofUnits 40), per := 2 })) := rfl
  exact ⟨_, _, isDiscount, isBundle,
    (isRuleLike_of_parse_both oddities).1 _ _ _ isDiscount isBundle⟩

end Checkout
