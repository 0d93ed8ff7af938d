import Checkout.Proofs.Text.Words
import Mathlib.Data.List.Chain

/-!
# Blanks between words

Blanks divide a text into its words and leave no other trace.  The words are the fragments between
the blanks that are not empty, so it makes no difference how many blanks stand at a place, or which,
and any run of them divides a text like a single one.  Words that are written with single spaces
between them have no other blanks around them.
-/

namespace Checkout.Text

/-! ## The fragments between blanks -/

/-- What stands between the blanks of a text, without the fragments that are empty. -/
def fragments (text : List Char) : List (List Char) :=
  (text.splitOnP isBlank).filter (· ≠ [])

theorem fragments_cons_of_isBlank {c : Char} (blank : isBlank c = true) (rest : List Char) :
    fragments (c :: rest) = fragments rest := by
  rw [fragments, List.splitOnP_cons_eq_if_modifyHead, if_pos blank,
    List.filter_cons_of_neg (by simp), fragments]

/-- A complete word in front of a text is its first fragment. -/
theorem fragments_append {word rest : List Char} (isWord : IsWord word) (apart : IsApart rest) :
    fragments (word ++ rest) = word :: fragments rest := by
  have kept : ∀ others : List (List Char),
      (word :: others).filter (· ≠ []) = word :: others.filter (· ≠ []) :=
    fun _ => List.filter_cons_of_pos (decide_eq_true isWord.1)
  cases rest with
  | nil =>
    rw [List.append_nil, fragments, List.splitOnP_eq_singleton isWord.2, kept]
    rfl
  | cons c rest =>
    rw [fragments_cons_of_isBlank apart, fragments,
      List.splitOnP_append_cons_of_forall_mem isWord.2 c apart, kept, fragments]

/-- The words of a text are the fragments between its blanks. -/
theorem words_eq_fragments (text : List Char) : words text = fragments text := by
  -- The induction is on the length, for a text goes on behind its whole first word.
  induction size : text.length using Nat.strong_induction_on generalizing text with
  | _ size ih =>
    subst size
    cases text with
    | nil => rfl
    | cons c rest =>
      by_cases blank : isBlank c = true
      · rw [words_cons_of_isBlank blank, fragments_cons_of_isBlank blank]
        exact ih rest.length (Nat.lt_succ_self _) rest rfl
      · rw [Bool.not_eq_true] at blank
        have shorter : (afterWord (c :: rest)).length < (c :: rest).length := by
          rw [afterWord_cons blank]
          exact Nat.lt_succ_of_le (List.length_dropWhile_le _ _)
        have behind := ih _ shorter (afterWord (c :: rest)) rfl
        have divided :=
          fragments_append (isWord_firstWord blank rest) (isApart_afterWord (c :: rest))
        rw [firstWord_append_afterWord] at divided
        rw [words_eq_cons blank, behind, divided]

/-! ## Runs of blanks -/

/-- Any run of blanks divides the words of a text. -/
theorem words_append_blanks_append {blanks : List Char} (some : blanks ≠ [])
    (areBlank : ∀ c ∈ blanks, isBlank c = true) (first second : List Char) :
    words (first ++ blanks ++ second) = words first ++ words second := by
  obtain ⟨c, rest, rfl⟩ := List.exists_cons_of_ne_nil some
  rw [List.forall_mem_cons] at areBlank
  rw [List.append_assoc, List.cons_append, words_append_cons areBlank.1,
    words_append_of_blanks areBlank.2]

/-! ## Single spaces -/

/-- A text whose only blanks are single plain spaces inside of it. -/
structure IsSingleSpaced (text : List Char) : Prop where
  plain : ∀ c ∈ text, isBlank c = true → c = ' '
  starts : ∀ c ∈ text.head?, isBlank c = false
  ends : ∀ c ∈ text.getLast?, isBlank c = false
  /-- Of two characters side by side at most one is blank. -/
  single : text.IsChain fun c d => isBlank c = false ∨ isBlank d = false

theorem isSingleSpaced_nil : IsSingleSpaced [] :=
  ⟨by simp, by simp, by simp, .nil⟩

theorem IsWord.isSingleSpaced {word : List Char} (isWord : IsWord word) : IsSingleSpaced word where
  plain c isIn blank := by
    rw [isWord.2 c isIn] at blank
    cases blank
  starts c isHead := isWord.2 c (List.mem_of_mem_head? isHead)
  ends c isLast := isWord.2 c (List.mem_of_mem_getLast? isLast)
  single := by
    have apart : word.Pairwise fun c d => isBlank c = false ∨ isBlank d = false :=
      List.pairwise_of_forall_mem_list fun c isIn _ _ => .inl (isWord.2 c isIn)
    exact apart.isChain

/-- A single space parts a word from what follows. -/
theorem IsSingleSpaced.append {word text : List Char} (isWord : IsWord word)
    (spaced : IsSingleSpaced text) (more : text ≠ []) : IsSingleSpaced (word ++ ' ' :: text) := by
  have isFirst := isWord.isSingleSpaced
  constructor
  case plain =>
    intro c isIn blank
    rw [List.mem_append, List.mem_cons] at isIn
    rcases isIn with inWord | isSpace | inText
    · exact isFirst.plain c inWord blank
    · exact isSpace
    · exact spaced.plain c inText blank
  case starts =>
    rw [List.head?_append_of_ne_nil _ isWord.1]
    exact isFirst.starts
  case ends =>
    rw [List.getLast?_append_of_ne_nil _ (List.cons_ne_nil _ _), ← List.singleton_append,
      List.getLast?_append_of_ne_nil _ more]
    exact spaced.ends
  case single =>
    rw [List.isChain_append, List.isChain_cons]
    refine ⟨isFirst.single, ⟨fun c isHead => .inr (spaced.starts c isHead), spaced.single⟩, ?_⟩
    exact fun c isLast _ _ => .inl (isFirst.ends c isLast)

theorem unwords_ne_nil {list : List (List Char)} (each : ∀ word ∈ list, IsWord word)
    (some : list ≠ []) : unwords list ≠ [] := by
  intro empty
  rw [← words_unwords each, empty] at some
  exact some rfl

/-- Words with single spaces between them have no other blanks around them. -/
theorem isSingleSpaced_unwords {list : List (List Char)} (each : ∀ word ∈ list, IsWord word) :
    IsSingleSpaced (unwords list) := by
  induction list with
  | nil => exact isSingleSpaced_nil
  | cons word others ih =>
    rw [List.forall_mem_cons] at each
    by_cases more : others = []
    · rw [more]
      exact each.1.isSingleSpaced
    · rw [unwords_cons more]
      exact (ih each.2).append each.1 (unwords_ne_nil each.2 more)

theorem not_mem_unwords {list : List (List Char)} (each : ∀ word ∈ list, IsWord word) {c : Char}
    (blank : isBlank c = true) (noSpace : c ≠ ' ') : c ∉ unwords list :=
  fun isIn => noSpace ((isSingleSpaced_unwords each).plain c isIn blank)

end Checkout.Text
