import Checkout.Proofs.Item
import Checkout.Proofs.Text.Spacing

/-!
# Normalized names as canonical forms

A normalized name is spaced as plainly as its words allow, and nothing but the words of the name in
upper case is told by it.  Upper-casing a text again changes nothing, never makes or removes a blank
and never leaves nothing of a word.  So normalizing is done once and for all: the name of an item
names that item, the names on both sides of some blanks are normalized each by itself, and two names
have the same normalized form exactly if their words are pairwise the same in upper case.
-/

namespace Checkout

open Text (words unwords fragments isBlank IsSingleSpaced)
open Text.Case (upper)

theorem isSingleSpaced_normalizeName (name : String) :
    IsSingleSpaced (normalizeName name).toList := by
  rw [toList_normalizeName]
  exact Text.isSingleSpaced_unwords fun _ => isWord_of_mem_map_upper

/-- Names are normalized to the same name exactly if the fragments between their blanks are pairwise
the same in upper case. -/
theorem normalizeName_eq_iff {first second : String} :
    normalizeName first = normalizeName second ↔
      List.Forall₂ (fun one other => upper one = upper other) (fragments first.toList)
        (fragments second.toList) := by
  rw [← String.toList_inj, toList_normalizeName, toList_normalizeName, normalizeChars_eq_iff,
    ← Text.words_eq_fragments, ← Text.words_eq_fragments, ← List.forall₂_eq_eq_eq,
    List.forall₂_map_left_iff, List.forall₂_map_right_iff]

/-! ## Names put together -/

section

variable {blanks : String} (some : blanks ≠ "") (areBlank : ∀ c ∈ blanks.toList, isBlank c = true)
  (first second : String)

include some areBlank

/-- Of two names with blanks between them all words are left. -/
theorem normalizeName_append_eq_ofList :
    normalizeName (first ++ blanks ++ second) =
      String.ofList
        (unwords ((words first.toList).map upper ++ (words second.toList).map upper)) := by
  have someChars : blanks.toList ≠ [] := fun none => some (String.toList_eq_nil_iff.mp none)
  rw [normalizeName, normalizeChars, String.toList_append, String.toList_append,
    Text.words_append_blanks_append someChars areBlank, List.map_append]

/-- Names with blanks between them are normalized each by itself, and joined by a single space if
there is something of both. -/
theorem normalizeName_append :
    normalizeName (first ++ blanks ++ second) =
      " ".intercalate ([normalizeName first, normalizeName second].filter (· ≠ "")) := by
  rw [normalizeName_append_eq_ofList some areBlank]
  -- A space only stands where there are words on both sides of it.
  by_cases noFirst : words first.toList = []
  · have empty := normalizeName_eq_empty_iff.mpr noFirst
    rw [noFirst, List.map_nil, List.nil_append, ← normalizeChars, ← normalizeName, empty]
    by_cases noSecond : normalizeName second = ""
    · rw [noSecond]
      rfl
    · simp [noSecond]
  · have notEmpty : normalizeName first ≠ "" := mt normalizeName_eq_empty_iff.mp noFirst
    by_cases noSecond : words second.toList = []
    · have empty := normalizeName_eq_empty_iff.mpr noSecond
      rw [noSecond, List.map_nil, List.append_nil, ← normalizeChars, ← normalizeName, empty]
      simp [notEmpty]
    · have notEmptyEither : normalizeName second ≠ "" := mt normalizeName_eq_empty_iff.mp noSecond
      have joined : " ".intercalate ([normalizeName first, normalizeName second].filter (· ≠ "")) =
          normalizeName first ++ " " ++ normalizeName second := by
        simp [notEmpty, notEmptyEither]
      rw [joined, Text.unwords_append (by simpa using noFirst) (by simpa using noSecond)]
      apply String.toList_injective
      simp [toList_normalizeName, normalizeChars]

end

/-! ## The canonical form -/

/-- A normalized name has no blanks but single spaces between its words, and it is empty just for a
name of blanks.  It is normalized already, so an item is found again by its name.  Names on both
sides of some blanks are normalized each by itself, and two names have the same normalized form
exactly if they divide into fragments that are pairwise the same in upper case. -/
theorem normalizeName_canonical (first second : String) :
    IsSingleSpaced (normalizeName first).toList ∧
      (normalizeName first = "" ↔ ∀ c ∈ first.toList, isBlank c = true) ∧
      (normalizeName (normalizeName first) = normalizeName first ∧
        ∀ item : ItemId, ItemId.ofName item.name = .ok item) ∧
      (∀ blanks : String, blanks ≠ "" → (∀ c ∈ blanks.toList, isBlank c = true) →
        normalizeName (first ++ blanks ++ second) =
          " ".intercalate ([normalizeName first, normalizeName second].filter (· ≠ ""))) ∧
      (normalizeName first = normalizeName second ↔
        List.Forall₂ (fun one other => upper one = upper other) (fragments first.toList)
          (fragments second.toList)) := by
  refine ⟨isSingleSpaced_normalizeName first, ?_, ?_, ?_, normalizeName_eq_iff⟩
  · rw [normalizeName_eq_empty_iff, Text.words_eq_nil_iff]
  · exact ⟨normalizeName_normalizeName first, ItemId.ofName_name⟩
  · exact fun blanks some areBlank => normalizeName_append some areBlank first second

/-- A sharp s and a ligature are longer in upper case, and other blanks than spaces divide them. -/
theorem normalizeName_canonical_fish :
    ("\u0085\u3000" ≠ "" ∧ ∀ c ∈ "\u0085\u3000".toList, isBlank c = true) ∧
      normalizeName ("\u001Fgroß" ++ "\u0085\u3000" ++ "ﬁsch\t") = "GROSS FISCH" ∧
      normalizeName "\u001Fgroß" = normalizeName "Gross" := by
  have some : "\u0085\u3000" ≠ "" := by decide
  have areBlank : ∀ c ∈ "\u0085\u3000".toList, isBlank c = true :=
    List.all_eq_true.mp (by decide +kernel)
  obtain ⟨_, _, _, joins, _⟩ := normalizeName_canonical "\u001Fgroß" "ﬁsch\t"
  obtain ⟨_, _, _, _, same⟩ := normalizeName_canonical "\u001Fgroß" "Gross"
  have firstName : normalizeName "\u001Fgroß" = "GROSS" := by decide +kernel
  have secondName : normalizeName "ﬁsch\t" = "FISCH" := by decide +kernel
  refine ⟨⟨some, areBlank⟩, ?_, same.mpr ?_⟩
  · rw [joins _ some areBlank, firstName, secondName]
    rfl
  · have sameWord : upper "groß".toList = upper "Gross".toList := by decide +kernel
    exact .cons sameWord .nil

end Checkout
