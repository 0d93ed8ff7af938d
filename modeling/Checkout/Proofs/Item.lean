import Checkout.Item
import Checkout.Proofs.Text.Case.Forms
import Mathlib.Data.List.Forall2

/-!
# Normalized names

Upper-casing neither makes nor removes a blank, so a normalized name has the words of the name it
was made from, in upper case.  Hence two names are names of the same item exactly when they have the
same words in upper case, and every name with a word on it is the name of an item.  The name that an
item goes by is normalized already, so it is a name of the same item, and the words of its title are
those of the name, each capitalised.
-/

namespace Checkout

open Text (words unwords IsWord)
open Text.Case (upper capitalize)

theorem isWord_of_mem_map_upper {text word : List Char} (isIn : word ∈ (words text).map upper) :
    IsWord word := by
  obtain ⟨source, isSource, rfl⟩ := List.mem_map.mp isIn
  exact Text.Case.isWord_upper (Text.isWord_of_mem_words isSource)

/-- A normalized name has the words of the name in upper case. -/
theorem words_normalizeChars (name : List Char) :
    words (normalizeChars name) = (words name).map upper :=
  Text.words_unwords fun _ => isWord_of_mem_map_upper

/-- Names are normalized to the same name exactly when their words are the same in upper case. -/
theorem normalizeChars_eq_iff {first second : List Char} :
    normalizeChars first = normalizeChars second ↔
      (words first).map upper = (words second).map upper := by
  constructor
  · intro same
    rw [← words_normalizeChars, same, words_normalizeChars]
  · intro same
    rw [normalizeChars, same, normalizeChars]

theorem normalizeChars_eq_nil_iff {name : List Char} :
    normalizeChars name = [] ↔ words name = [] := by
  constructor
  · intro empty
    have noWords := words_normalizeChars name
    rw [empty] at noWords
    exact List.map_eq_nil_iff.mp noWords.symm
  · intro noWords
    rw [normalizeChars, noWords]
    rfl

/-- A normalized name is normalized to itself. -/
theorem normalizeChars_normalizeChars (name : List Char) :
    normalizeChars (normalizeChars name) = normalizeChars name := by
  have fixed : upper ∘ upper = upper := funext Text.Case.upper_upper
  rw [normalizeChars, words_normalizeChars, List.map_map, fixed, ← normalizeChars]

/-! ## Names as texts -/

theorem toList_normalizeName (name : String) :
    (normalizeName name).toList = normalizeChars name.toList :=
  String.toList_ofList

theorem normalizeName_eq_empty_iff {name : String} :
    normalizeName name = "" ↔ words name.toList = [] := by
  rw [← String.toList_eq_nil_iff, toList_normalizeName, normalizeChars_eq_nil_iff]

theorem normalizeName_normalizeName (name : String) :
    normalizeName (normalizeName name) = normalizeName name := by
  rw [normalizeName, toList_normalizeName, normalizeChars_normalizeChars, ← normalizeName]

/-! ## The same words -/

/-- Texts of some kind that have pairwise the same form. -/
theorem forall₂_of_map_eq {form : List Char → List Char} {holds : List Char → Prop}
    {first second : List (List Char)} (same : first.map form = second.map form)
    (areFirst : ∀ text ∈ first, holds text) (areSecond : ∀ text ∈ second, holds text) :
    List.Forall₂ (fun one other => holds one ∧ holds other ∧ form one = form other) first
      second := by
  induction first generalizing second with
  | nil =>
    rw [List.map_nil, eq_comm, List.map_eq_nil_iff] at same
    rw [same]
    exact .nil
  | cons text rest ih =>
    cases second with
    | nil => cases same
    | cons other others =>
      rw [List.map_cons, List.map_cons, List.cons.injEq] at same
      rw [List.forall_mem_cons] at areFirst areSecond
      exact .cons ⟨areFirst.1, areSecond.1, same.1⟩ (ih same.2 areFirst.2 areSecond.2)

/-- Two words that are the same in upper case. -/
structure SameWord (first second : List Char) : Prop where
  isFirst : IsWord first
  isSecond : IsWord second
  upper_eq : upper first = upper second

/-- Names that are normalized to the same name have the same words. -/
theorem forall₂_sameWord {first second : List Char}
    (same : (words first).map upper = (words second).map upper) :
    List.Forall₂ SameWord (words first) (words second) :=
  (forall₂_of_map_eq same (fun _ => Text.isWord_of_mem_words)
    fun _ => Text.isWord_of_mem_words).imp fun _ _ pair => ⟨pair.1, pair.2.1, pair.2.2⟩

/-- Words that are the same in upper case are read back as such from names written with them. -/
theorem words_unwords_of_forall₂ {first second : List (List Char)}
    (same : List.Forall₂ SameWord first second) :
    (words (unwords first)).map upper = (words (unwords second)).map upper := by
  have areWords : (∀ word ∈ first, IsWord word) ∧ (∀ word ∈ second, IsWord word) ∧
      first.map upper = second.map upper := by
    induction same with
    | nil => simp
    | cons sameWord _ ih =>
      obtain ⟨areFirst, areSecond, sameUpper⟩ := ih
      refine ⟨List.forall_mem_cons.mpr ⟨sameWord.isFirst, areFirst⟩,
        List.forall_mem_cons.mpr ⟨sameWord.isSecond, areSecond⟩, ?_⟩
      rw [List.map_cons, List.map_cons, sameWord.upper_eq, sameUpper]
  rw [Text.words_unwords areWords.1, Text.words_unwords areWords.2.1, areWords.2.2]

namespace ItemId

theorem ofName?_eq_some_iff {raw : String} {item : ItemId} :
    ofName? raw = some item ↔ normalizeName raw = item.name := by
  unfold ofName?
  constructor
  · intro found
    split at found
    · cases found
      rfl
    · cases found
  · intro same
    have notBlank : normalizeName raw ≠ "" := same ▸ item.normalized.2
    rw [dif_pos notBlank, Option.some.injEq]
    exact ItemId.ext same

/-- A name without a word is the name of no item, and every other name is the name of one. -/
theorem ofName?_eq_none_iff {raw : String} : ofName? raw = none ↔ words raw.toList = [] := by
  rw [← normalizeName_eq_empty_iff]
  unfold ofName?
  split
  · rename_i notBlank
    exact iff_of_false (Option.some_ne_none _) notBlank
  · rename_i blank
    exact iff_of_true rfl (Decidable.not_not.mp blank)

/-- Names with the same words in upper case are names of the same item, or of none. -/
theorem ofName?_congr {first second : List Char}
    (same : (words first).map upper = (words second).map upper) :
    ofName? (String.ofList first) = ofName? (String.ofList second) := by
  have sameName : normalizeName (String.ofList first) = normalizeName (String.ofList second) := by
    simp only [normalizeName, String.toList_ofList, normalizeChars_eq_iff.mpr same]
  unfold ofName?
  simp only [sameName]

/-- Words that are the same in upper case name the same item, or none. -/
theorem ofName?_of_forall₂ {first second : List (List Char)}
    (same : List.Forall₂ SameWord first second) :
    ofName? (String.ofList (unwords first)) = ofName? (String.ofList (unwords second)) :=
  ofName?_congr (words_unwords_of_forall₂ same)

/-! ## The name and the title of an item -/

variable (item : ItemId)

theorem exists_name_eq : ∃ raw, item.name.toList = normalizeChars raw := by
  obtain ⟨raw, normal⟩ := item.normalized.1
  exact ⟨raw.toList, by rw [← normal, toList_normalizeName]⟩

/-- The name of an item is a name of that item. -/
theorem normalizeName_name : normalizeName item.name = item.name := by
  obtain ⟨raw, normal⟩ := item.normalized.1
  rw [← normal, normalizeName_normalizeName]

/-- An item is found again by its name. -/
theorem ofName_name : ofName item.name = .ok item := by
  rw [ofName, ofName?_eq_some_iff.mpr item.normalizeName_name]

/-- The name of an item is its words with single spaces between them. -/
theorem unwords_words_name : unwords (words item.name.toList) = item.name.toList := by
  obtain ⟨raw, normal⟩ := item.exists_name_eq
  rw [normal, words_normalizeChars, normalizeChars]

theorem words_name_ne_nil : words item.name.toList ≠ [] := by
  rw [ne_eq, ← ofName?_eq_none_iff, ofName?_eq_some_iff.mpr item.normalizeName_name]
  exact nofun

/-- The words of the name, put together again, name the item. -/
theorem normalizeName_unwords_words_name :
    normalizeName (String.ofList (unwords (words item.name.toList))) = item.name := by
  rw [unwords_words_name, String.ofList_toList, normalizeName_name]

variable {item} in
/-- The words that an item is named by are the words of its name in other cases. -/
theorem words_name_of_normalizeName {all : List (List Char)} (areWords : ∀ word ∈ all, IsWord word)
    (named : normalizeName (String.ofList (unwords all)) = item.name) :
    words item.name.toList = all.map upper := by
  rw [← named, toList_normalizeName, String.toList_ofList, words_normalizeChars,
    Text.words_unwords areWords]

/-- The words of the name and one word behind them. -/
theorem ofList_unwords_words_append (word : List Char) :
    String.ofList (unwords (words item.name.toList ++ [word])) =
      item.name ++ " " ++ String.ofList word := by
  rw [Text.unwords_append item.words_name_ne_nil (by simp), unwords_words_name]
  apply String.toList_injective
  simp [Text.unwords]

/-- The words of the title are those of the name, capitalised. -/
theorem words_title : words item.title.toList = (words item.name.toList).map capitalize := by
  rw [title, String.toList_ofList, Text.words_unwords]
  intro word isIn
  obtain ⟨source, isSource, rfl⟩ := List.mem_map.mp isIn
  exact Text.Case.isWord_capitalize (Text.isWord_of_mem_words isSource)

theorem unwords_words_title : unwords (words item.title.toList) = item.title.toList := by
  rw [words_title, title, String.toList_ofList]

/-- Items are shown alike exactly when the words of their titles are the same. -/
theorem title_eq_iff {first second : ItemId} :
    first.title = second.title ↔ words first.title.toList = words second.title.toList := by
  constructor
  · intro same
    rw [same]
  · intro same
    rw [words_title, words_title] at same
    rw [title, same, title]

end ItemId

end Checkout
