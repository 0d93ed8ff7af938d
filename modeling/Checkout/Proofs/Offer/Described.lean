import Checkout.Proofs.Money.Shown
import Checkout.Proofs.Offer.Accepted

/-!
# What descriptions tell

A description puts the titles of items, an amount and a few small words one behind the other, with
nothing to mark where a title ends, and an item may be named by any words.  Still the description of
a rule that was read tells all that it shows.  The last word sets discounts and bundles apart, and
the word in front of it is what a discount takes off.  The titles of a bundle are parted by the
first `and`: every word of a title is capitalised, and so none of them is that word.
-/

namespace Checkout

open Text (words unwords IsWord)
open Text.Numeral (ofInt)
open Money (ofUnits limit shownChars)

/-! ## Words of a description -/

theorem ItemId.words_title_ne_nil (item : ItemId) : words item.title.toList ≠ [] := by
  rw [words_title, ne_eq, List.map_eq_nil_iff]
  exact item.words_name_ne_nil

/-- The word between the titles of a bundle is no word of a title. -/
theorem ItemId.and_not_mem_title (item : ItemId) : "and".toList ∉ words item.title.toList := by
  rw [words_title]
  intro isIn
  obtain ⟨word, _, same⟩ := List.mem_map.mp isIn
  exact Text.Case.head?_capitalize_ne word (by rw [same]; rfl)

/-- The words of the description of a discount. -/
def discountWords (item : ItemId) (reduction : List Char) : List (List Char) :=
  words item.title.toList ++ [reduction, "off".toList]

/-- The words of the description of a bundle. -/
def bundleWords (discounted required : ItemId) : List (List Char) :=
  words discounted.title.toList ++
    "and".toList :: (words required.title.toList ++ ["bundle".toList])

theorem discountWords_inj {first second : ItemId} {reduction other : List Char} :
    discountWords first reduction = discountWords second other ↔
      first.title = second.title ∧ reduction = other := by
  rw [ItemId.title_eq_iff]
  constructor
  · intro same
    obtain ⟨titles, ends⟩ := List.append_inj' same rfl
    exact ⟨titles, (List.cons.inj ends).1⟩
  · rintro ⟨titles, rfl⟩
    rw [discountWords, titles, discountWords]

theorem bundleWords_inj {discounted required other another : ItemId} :
    bundleWords discounted required = bundleWords other another ↔
      discounted.title = other.title ∧ required.title = another.title := by
  have noAnd : "and".toList ∉ words required.title.toList ++ ["bundle".toList] := by
    rw [List.mem_append, not_or]
    exact ⟨required.and_not_mem_title, by decide⟩
  rw [bundleWords, bundleWords, List.append_cons_inj_of_notMem discounted.and_not_mem_title noAnd,
    List.append_cancel_right_eq, ItemId.title_eq_iff, ItemId.title_eq_iff]
  exact and_congr_right fun _ => and_iff_right rfl

/-- A discount is described by another last word than a bundle. -/
theorem discountWords_ne_bundleWords (item discounted required : ItemId) (reduction : List Char) :
    discountWords item reduction ≠ bundleWords discounted required := by
  intro same
  have lastWords := congrArg List.getLast? same
  have discount : (discountWords item reduction).getLast? = some "off".toList := by
    rw [discountWords, List.getLast?_append]
    rfl
  have bundle : (bundleWords discounted required).getLast? = some "bundle".toList := by
    rw [bundleWords, ← List.cons_append, ← List.append_assoc, List.getLast?_append]
    rfl
  rw [discount, bundle] at lastWords
  exact absurd lastWords (by decide)

theorem isWord_of_mem_discountWords {item : ItemId} {reduction : List Char}
    (isWord : IsWord reduction) : ∀ word ∈ discountWords item reduction, IsWord word := by
  rw [discountWords, List.forall_mem_append, List.forall_mem_cons, List.forall_mem_singleton]
  exact ⟨fun _ => Text.isWord_of_mem_words, isWord, by decide⟩

theorem isWord_of_mem_bundleWords {discounted required : ItemId} :
    ∀ word ∈ bundleWords discounted required, IsWord word := by
  rw [bundleWords, List.forall_mem_append, List.forall_mem_cons, List.forall_mem_append,
    List.forall_mem_singleton]
  exact ⟨fun _ => Text.isWord_of_mem_words, by decide, fun _ => Text.isWord_of_mem_words,
    by decide⟩

theorem ofList_unwords_discountWords (item : ItemId) (reduction : List Char) :
    String.ofList (unwords (discountWords item reduction)) =
      item.title ++ " " ++ String.ofList reduction ++ " off" := by
  rw [discountWords, Text.unwords_append item.words_title_ne_nil (by simp),
    item.unwords_words_title]
  apply String.toList_injective
  simp [Text.unwords]

theorem ofList_unwords_bundleWords (discounted required : ItemId) :
    String.ofList (unwords (bundleWords discounted required)) =
      discounted.title ++ " and " ++ required.title ++ " bundle" := by
  rw [bundleWords, Text.unwords_append discounted.words_title_ne_nil (by simp),
    Text.unwords_cons (by simp), Text.unwords_append required.words_title_ne_nil (by simp),
    discounted.unwords_words_title, required.unwords_words_title]
  apply String.toList_injective
  simp [Text.unwords]

/-! ## Rules with their descriptions -/

namespace Rule

/-- A rule that passed the checks has a description of these words. -/
inductive IsDescribed : Rule → List (List Char) → Prop
  | percentage {catalog : Catalog} {item : ItemId} {percentage : Nat} :
      IsDescribed (.discount { catalog, item, amount := none, percentage := some percentage })
        (discountWords item (ofInt percentage ++ ['%']))
  | amount {catalog : Catalog} {item : ItemId} {units : Nat} : units < limit →
      IsDescribed
        (.discount { catalog, item, amount := some (.decimal (ofUnits units)), percentage := none })
        (discountWords item (shownChars false units))
  | bundle {discounted required : ItemId} {amount : Amount} {per : Int} :
      IsDescribed (.bundle { discounted, required, amount, per }) (bundleWords discounted required)

theorem Accepted.exists_isDescribed {catalog : Catalog} {rule : Rule}
    (accepted : Accepted catalog rule) : ∃ all, IsDescribed rule all := by
  cases accepted with
  | percentage found most => exact ⟨_, .percentage⟩
  | amount found small most => exact ⟨_, .amount small⟩
  | bundle found small most positive => exact ⟨_, .bundle⟩

variable {rule : Rule} {all : List (List Char)}

theorem IsDescribed.description_eq (described : IsDescribed rule all) :
    rule.description = .ok (String.ofList (unwords all)) := by
  cases described with
  | @percentage _ item percentage =>
    have behind : "% off" = "%" ++ " off" := rfl
    rw [ofList_unwords_discountWords, String.ofList_append]
    dsimp only [description, Discount.description]
    rw [behind, ← String.append_assoc, ← String.append_assoc, Text.Numeral.text]
  | @amount _ item units small =>
    have shown : Amount.show {} (.decimal (ofUnits units)) =
        .ok (String.ofList (shownChars false units)) := Money.show_place false small
    rw [ofList_unwords_discountWords]
    dsimp only [description, Discount.description]
    rw [shown]
    rfl
  | bundle => rw [ofList_unwords_bundleWords, description, Bundle.description]

theorem IsDescribed.isWord (described : IsDescribed rule all) : ∀ word ∈ all, IsWord word := by
  cases described with
  | percentage =>
    exact isWord_of_mem_discountWords ((Text.isWord_ofInt _).append (by decide))
  | amount => exact isWord_of_mem_discountWords (Money.isWord_shownChars _ _)
  | bundle => exact isWord_of_mem_bundleWords

/-- Every accepted rule has a description. -/
theorem Accepted.description_eq_ok {catalog : Catalog} (accepted : Accepted catalog rule) :
    ∃ description, rule.description = .ok description := by
  obtain ⟨all, isDescribed⟩ := accepted.exists_isDescribed
  exact ⟨_, isDescribed.description_eq⟩

/-- The word for a percentage is none for an amount, which either ends in another sign or starts
with one. -/
theorem percent_ne_shownChars (percentage : Int) (units : Nat) :
    ofInt percentage ++ ['%'] ≠ shownChars false units := by
  have noSymbol := Text.Numeral.not_mem_ofInt (c := '£') (by decide) (by decide) percentage
  unfold shownChars
  split
  · intro same
    exact absurd (List.append_inj_right' same rfl) (by decide)
  · intro same
    have isIn : '£' ∈ ofInt percentage ++ ['%'] := same ▸ List.mem_cons_self
    simp [noSymbol] at isIn

/-- Two rules show the same: both take the same percentage or equal amounts off items of one title,
or both are bundles of items of the same titles. -/
def ShowsSame : Rule → Rule → Prop
  | .discount first, .discount second =>
    first.item.title = second.item.title ∧
      ((∃ percentage, first.percentage = some percentage ∧ second.percentage = some percentage) ∨
        ∃ amount other, first.amount = some amount ∧ second.amount = some other ∧
          amount.same other = .ok true)
  | .bundle first, .bundle second =>
    first.discounted.title = second.discounted.title ∧
      first.required.title = second.required.title
  | _, _ => False

/-- What sort of rule it is. -/
inductive Kind
  | percentage
  | amount
  | bundle
  | custom

def kind : Rule → Kind
  | .discount offer => if offer.isPercentage then .percentage else .amount
  | .bundle _ => .bundle
  | .custom _ => .custom

/-- Rules are described by the same words exactly if they show the same. -/
theorem IsDescribed.eq_iff {first second : Rule} {all others : List (List Char)}
    (isFirst : IsDescribed first all) (isSecond : IsDescribed second others) :
    all = others ↔ ShowsSame first second := by
  cases isFirst with
  | percentage =>
    cases isSecond with
    | percentage =>
      rw [discountWords_inj, List.append_cancel_right_eq, Text.Numeral.ofInt_inj]
      simp [ShowsSame, eq_comm]
    | amount =>
      rw [discountWords_inj]
      simp [ShowsSame, percent_ne_shownChars]
    | bundle => simp [ShowsSame, discountWords_ne_bundleWords]
  | amount small =>
    cases isSecond with
    | percentage =>
      rw [discountWords_inj]
      simp [ShowsSame, (percent_ne_shownChars _ _).symm]
    | amount alsoSmall =>
      have sameUnits := Money.shownChars_eq_iff small alsoSmall
      rw [discountWords_inj]
      simp [ShowsSame, Money.same_ofUnits_iff, sameUnits]
    | bundle => simp [ShowsSame, discountWords_ne_bundleWords]
  | bundle =>
    cases isSecond with
    | percentage => simp [ShowsSame, (discountWords_ne_bundleWords _ _ _ _).symm]
    | amount => simp [ShowsSame, (discountWords_ne_bundleWords _ _ _ _).symm]
    | bundle => rw [bundleWords_inj, ShowsSame]

/-- Rules of different sorts show something different. -/
theorem IsDescribed.kind_eq {first second : Rule} {all others : List (List Char)}
    (isFirst : IsDescribed first all) (isSecond : IsDescribed second others)
    (same : ShowsSame first second) : first.kind = second.kind := by
  cases isFirst <;> cases isSecond <;>
    simp_all [ShowsSame, kind, Discount.isPercentage]

/-- Every rule that a built-in parser reads has a description.  Two such rules are described alike
exactly if they show the same, whatever words their items are named by, and in particular no two
rules of different sorts are. -/
theorem description_eq_iff_showsSame {catalog other : Catalog} {first second : Rule}
    (isFirst : first.IsRead catalog) (isSecond : second.IsRead other) :
    ∃ text more, first.description = .ok text ∧ second.description = .ok more ∧
      (text = more ↔ ShowsSame first second) ∧ (text = more → first.kind = second.kind) := by
  obtain ⟨all, isDescribed⟩ := isFirst.accepted.exists_isDescribed
  obtain ⟨others, alsoDescribed⟩ := isSecond.accepted.exists_isDescribed
  have readBack : String.ofList (unwords all) = String.ofList (unwords others) ↔
      all = others := by
    constructor
    · intro same
      rw [← Text.words_unwords isDescribed.isWord, String.ofList_injective same,
        Text.words_unwords alsoDescribed.isWord]
    · rintro rfl
      rfl
  have sameWords := isDescribed.eq_iff alsoDescribed
  refine ⟨_, _, isDescribed.description_eq, alsoDescribed.description_eq,
    readBack.trans sameWords, fun same => ?_⟩
  exact isDescribed.kind_eq alsoDescribed (sameWords.mp (readBack.mp same))

def fish : ItemId :=
  ⟨"FISH", ⟨"Fish", rfl⟩, by decide⟩

def peas : ItemId :=
  ⟨"PEAS", ⟨"Peas", rfl⟩, by decide⟩

def fishAndChips : ItemId :=
  ⟨"FISH AND CHIPS", ⟨"Fish and chips", by decide +kernel⟩, by decide⟩

def chipsAndPeas : ItemId :=
  ⟨"CHIPS AND PEAS", ⟨"Chips and peas", by decide +kernel⟩, by decide⟩

/-- Dishes whose names can be put together in two ways. -/
def dishes : Catalog :=
  ⟨[(fish, .finite false 350 (-2)), (peas, .finite false 90 (-2)),
    (fishAndChips, .finite false 500 (-2)), (chipsAndPeas, .finite false 240 (-2))],
    by decide, by decide⟩

/-- Fish with chips and peas is another bundle than fish and chips with peas.  Only one letter of
the descriptions tells it. -/
theorem description_eq_iff_showsSame_fish :
    let first : Rule := .bundle { discounted := fish, required := chipsAndPeas,
                                  amount := .decimal (ofUnits 50), per := 1 }
    let second : Rule := .bundle { discounted := fishAndChips, required := peas,
                                   amount := .decimal (ofUnits 50), per := 1 }
    first.IsRead dishes ∧ second.IsRead dishes ∧
      first.description = .ok "Fish and Chips And Peas bundle" ∧
      second.description = .ok "Fish And Chips and Peas bundle" ∧ ¬ShowsSame first second := by
  intro first second
  have isFirst : first.IsRead dishes :=
    ⟨.bundle, by simp [Parser.builtIn], "Fish 0.50 per 1 Chips and peas".toList, rfl⟩
  have isSecond : second.IsRead dishes :=
    ⟨.bundle, by simp [Parser.builtIn], "Fish and chips 0.50 per 1 Peas".toList, rfl⟩
  have described : first.description = .ok "Fish and Chips And Peas bundle" := rfl
  have alsoDescribed : second.description = .ok "Fish And Chips and Peas bundle" := rfl
  refine ⟨isFirst, isSecond, described, alsoDescribed, ?_⟩
  obtain ⟨text, more, isText, isMore, same, _⟩ := description_eq_iff_showsSame isFirst isSecond
  rw [← same, ← Except.ok.inj (described.symm.trans isText),
    ← Except.ok.inj (alsoDescribed.symm.trans isMore)]
  decide

end Rule

end Checkout
