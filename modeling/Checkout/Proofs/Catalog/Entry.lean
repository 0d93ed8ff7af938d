import Checkout.Catalog
import Checkout.Proofs.Entries
import Checkout.Proofs.Item
import Checkout.Proofs.Money.Reading
import Checkout.Report
import Mathlib.Logic.Relator

/-!
# Entries of a catalog

A row of a catalog file is an entry if its last word writes a unit price and at least one word
stands in front of it.  A row is an entry of at most one item and price.  A row that adds no entry
to a catalog is too short, or its last word writes no unit price, or the catalog has the item
already, and only the first of these that is the case is told.
-/

namespace Checkout.Catalog

open Text (words unwords)

/-- A word writes an amount that is not below zero. -/
def Prices (word : List Char) (price : Decimal) : Prop :=
  Money.read? word = some price ∧ Decimal.compare? price Decimal.zeroCents ≠ some .lt

instance (word : List Char) (price : Decimal) : Decidable (Prices word price) :=
  inferInstanceAs (Decidable (_ ∧ _))

/-- The last word of a row writes the price of the item that the words in front of it name. -/
def IsEntry (row : List Char) (entry : ItemId × Decimal) : Prop :=
  ∃ name word, words row = name ++ [word] ∧ name ≠ [] ∧ Prices word entry.2 ∧
    normalizeName (String.ofList (unwords name)) = entry.1.name

/-- What is wrong with a row behind entries of some known items, and the kind of problem that it is
reported as. -/
inductive IsDefect (known : List ItemId) (row : List Char) : Defect → Report.Kind → Prop
  | short : (words row).length < 2 → IsDefect known row .missingPrice .malformedEntry
  | unpriced {name : List (List Char)} {word : List Char} :
      words row = name ++ [word] → name ≠ [] → (¬∃ price, Prices word price) →
        IsDefect known row (.badPrice (String.ofList word)) .malformedPrice
  | repeated {entry : ItemId × Decimal} : IsEntry row entry → entry.1 ∈ known →
      IsDefect known row (.duplicateEntry entry.1.name) .duplicateEntry

theorem IsDefect.kind_report {known : List ItemId} {row : List Char} {defect : Defect}
    {kind : Report.Kind} (isDefect : IsDefect known row defect kind) (line : Nat)
    (source : Option String) : (Corruption.report ⟨defect, line, source⟩).kind = kind := by
  cases isDefect <;> rfl

/-- A row is the entry of one item and one price. -/
theorem isEntry_rightUnique : Relator.RightUnique IsEntry := by
  rintro row first second ⟨name, word, divided, _, prices, names⟩
    ⟨name', word', divided', _, prices', names'⟩
  obtain ⟨rfl, sameWord⟩ := List.append_inj' (divided.symm.trans divided') rfl
  cases sameWord
  have samePrice := Option.some.inj (prices.1.symm.trans prices'.1)
  exact Prod.ext (ItemId.ext (names.symm.trans names')) samePrice

/-- Only a row of a known item is both an entry and defective. -/
theorem IsDefect.mem_of_isEntry {known : List ItemId} {row : List Char} {defect : Defect}
    {kind : Report.Kind} {entry : ItemId × Decimal} (isDefect : IsDefect known row defect kind)
    (isEntry : IsEntry row entry) : entry.1 ∈ known := by
  obtain ⟨name, word, divided, named, prices, _⟩ := id isEntry
  cases isDefect with
  | short isShort =>
    have positive := List.length_pos_iff.mpr named
    rw [divided, List.length_append, List.length_singleton] at isShort
    omega
  | unpriced divided' _ unpriced =>
    obtain ⟨_, sameWord⟩ := List.append_inj' (divided.symm.trans divided') rfl
    cases sameWord
    exact absurd ⟨entry.2, prices⟩ unpriced
  | repeated isEntry' isKnown => exact isEntry_rightUnique isEntry' isEntry ▸ isKnown

/-! ## Reading one row -/

theorem readPrice?_eq_some_iff {word : List Char}
    {price : { price : Decimal // isPrice price = true }} :
    readPrice? word = some price ↔ Prices word price.val := by
  obtain ⟨price, priced⟩ := price
  have notBelow : Decimal.compare? price Decimal.zeroCents ≠ some .lt := by
    rw [isPrice, Bool.and_eq_true, bne_iff_ne] at priced
    exact priced.2
  unfold readPrice? Prices
  cases found : Money.read? word with
  | none => simp
  | some amount =>
    constructor
    · intro read
      simp only [Option.bind_eq_bind, Option.bind_some] at read
      split at read
      · cases read
        exact ⟨rfl, notBelow⟩
      · cases read
    · rintro ⟨same, _⟩
      cases same
      simp [priced]

theorem exists_readPrice? {word : List Char} {price : Decimal} (prices : Prices word price) :
    ∃ priced, readPrice? word = some ⟨price, priced⟩ := by
  have isMoney := Money.isMoney_of_read? prices.1
  have priced : isPrice price = true := by
    rw [isPrice, Bool.and_eq_true, bne_iff_ne]
    exact ⟨isMoney, prices.2⟩
  exact ⟨priced, readPrice?_eq_some_iff.mpr prices⟩

theorem splitWords?_append {name : List (List Char)} (named : name ≠ []) (word : List Char) :
    splitWords? (name ++ [word]) = some (name, word) := by
  obtain ⟨others, last, rfl⟩ := (List.eq_nil_or_concat' name).resolve_left named
  simp [splitWords?]

/-- The words of a row are those of a name and the word of a price, unless there are fewer than
two. -/
theorem splitWords?_cases (all : List (List Char)) :
    (all.length < 2 ∧ splitWords? all = none) ∨
      ∃ name word, all = name ++ [word] ∧ name ≠ [] ∧ splitWords? all = some (name, word) := by
  rcases List.eq_nil_or_concat' all with rfl | ⟨name, word, rfl⟩
  · exact .inl ⟨by decide, rfl⟩
  · by_cases named : name = []
    · subst named
      exact .inl ⟨by simp, rfl⟩
    · exact .inr ⟨name, word, rfl, named, splitWords?_append named word⟩

/-- The words of a row name an item. -/
theorem exists_ofName?_unwords {row : List Char} {name : List (List Char)}
    (within : ∀ word ∈ name, word ∈ words row) (named : name ≠ []) :
    ∃ item, ItemId.ofName? (String.ofList (unwords name)) = some item := by
  have readBack : words (unwords name) = name :=
    Text.words_unwords fun word isIn => Text.isWord_of_mem_words (within word isIn)
  cases found : ItemId.ofName? (String.ofList (unwords name)) with
  | some item => exact ⟨item, rfl⟩
  | none =>
    rw [ItemId.ofName?_eq_none_iff, String.toList_ofList, readBack] at found
    exact absurd found named

/-- A row is read to its entry, or to its defect, whatever items are known. -/
theorem readEntry_cases (row : List Char) :
    (∃ item price, readEntry (words row) = .ok (item, price) ∧ IsEntry row (item, price.val)) ∨
      ∃ defect kind, readEntry (words row) = .error defect ∧
        ∀ known, IsDefect known row defect kind := by
  unfold readEntry
  rcases splitWords?_cases (words row) with ⟨isShort, divided⟩ | ⟨name, word, whole, named, divided⟩
  · rw [divided]
    exact .inr ⟨_, _, rfl, fun _ => .short isShort⟩
  · rw [divided]
    dsimp only
    cases read : readPrice? word with
    | none =>
      refine .inr ⟨_, _, rfl, fun _ => .unpriced whole named ?_⟩
      rintro ⟨price, prices⟩
      obtain ⟨priced, known⟩ := exists_readPrice? prices
      rw [known] at read
      cases read
    | some price =>
      have within : ∀ part ∈ name, part ∈ words row := by
        intro part isIn
        rw [whole]
        exact List.mem_append_left _ isIn
      obtain ⟨item, found⟩ := exists_ofName?_unwords within named
      rw [found]
      exact .inl ⟨item, price, rfl, name, word, whole, named, readPrice?_eq_some_iff.mp read,
        ItemId.ofName?_eq_some_iff.mp found⟩

end Checkout.Catalog
