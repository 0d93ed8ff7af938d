import Checkout.Text.Blank
import Mathlib.Data.List.TakeWhile

/-!
# Words of a text

A word is a text without blanks that is not empty.  Everything about the words of a text follows
from one equation: a blank divides them.  So trimming keeps the words, words that are written with
single spaces between them are read back, and a text is read word by word from its start.
-/

namespace Checkout.Text

/-- A text that is one word. -/
def IsWord (word : List Char) : Prop :=
  word ≠ [] ∧ ∀ c ∈ word, isBlank c = false

instance (word : List Char) : Decidable (IsWord word) :=
  decidable_of_iff (word ≠ [] ∧ (word.all fun c => !isBlank c) = true) (by simp [IsWord])

/-- A text that goes on with a blank or not at all, so that a word in front of it is complete. -/
def IsApart : List Char → Prop
  | [] => True
  | c :: _ => isBlank c = true

theorem IsWord.append {first second : List Char} (isFirst : IsWord first)
    (isSecond : IsWord second) : IsWord (first ++ second) :=
  ⟨List.append_ne_nil_of_left_ne_nil isFirst.1 second,
    List.forall_mem_append.mpr ⟨isFirst.2, isSecond.2⟩⟩

theorem words_singleton {c : Char} (notBlank : isBlank c = false) : words [c] = [[c]] := by
  simp [words, notBlank]

/-- A character that is not blank in front of a blank is a word. -/
theorem words_cons_cons_of_isBlank {c d : Char} (notBlank : isBlank c = false)
    (blank : isBlank d = true) (rest : List Char) :
    words (c :: d :: rest) = [c] :: words (d :: rest) := by
  simp [words, notBlank, blank]

/-- A character that is not blank in front of another goes to its word. -/
theorem exists_words_cons_cons {c d : Char} (notBlank : isBlank c = false)
    (second : isBlank d = false) (rest : List Char) :
    ∃ word others, words (d :: rest) = word :: others ∧
      words (c :: d :: rest) = (c :: word) :: others := by
  induction rest generalizing c d with
  | nil => exact ⟨[d], [], words_singleton second, by simp [words, notBlank, second]⟩
  | cons e rest ih =>
    by_cases blank : isBlank e = true
    · have first := words_cons_cons_of_isBlank second blank rest
      exact ⟨[d], words (e :: rest), first, by simp [words, notBlank, second, blank]⟩
    · rw [Bool.not_eq_true] at blank
      obtain ⟨word, others, _, known⟩ := ih second blank
      refine ⟨d :: word, others, known, ?_⟩
      rw [words, if_neg (by simp [notBlank]), if_neg (by simp [second]), known]

/-- A blank divides the words of a text. -/
theorem words_append_cons {c : Char} (blank : isBlank c = true) (first second : List Char) :
    words (first ++ c :: second) = words first ++ words second := by
  induction first with
  | nil => exact words_cons_of_isBlank blank second
  | cons d rest ih =>
    by_cases leading : isBlank d = true
    · rw [List.cons_append, words_cons_of_isBlank leading, words_cons_of_isBlank leading, ih]
    · rw [Bool.not_eq_true] at leading
      cases rest with
      | nil =>
        rw [List.nil_append] at ih
        rw [List.singleton_append, words_cons_cons_of_isBlank leading blank, ih,
          words_singleton leading]
        rfl
      | cons e rest =>
        rw [List.cons_append] at ih
        by_cases next : isBlank e = true
        · rw [List.cons_append, List.cons_append, words_cons_cons_of_isBlank leading next, ih,
            words_cons_cons_of_isBlank leading next, List.cons_append]
        · rw [Bool.not_eq_true] at next
          obtain ⟨word, others, tail, whole⟩ := exists_words_cons_cons leading next rest
          obtain ⟨word', others', tail', whole'⟩ :=
            exists_words_cons_cons leading next (rest ++ c :: second)
          rw [tail', tail, List.cons_append, List.cons.injEq] at ih
          rw [List.cons_append, List.cons_append, whole', whole, ih.1, ih.2, List.cons_append]

theorem words_of_isWord {word : List Char} (isWord : IsWord word) : words word = [word] := by
  obtain ⟨notEmpty, noBlank⟩ := isWord
  induction word with
  | nil => exact absurd rfl notEmpty
  | cons c rest ih =>
    have notBlank := noBlank c List.mem_cons_self
    cases rest with
    | nil => exact words_singleton notBlank
    | cons d rest =>
      have second := noBlank d (List.mem_cons_of_mem _ List.mem_cons_self)
      have tail := ih (by simp) fun e isIn => noBlank e (List.mem_cons_of_mem _ isIn)
      obtain ⟨word, others, known, whole⟩ := exists_words_cons_cons notBlank second rest
      rw [known, List.cons.injEq] at tail
      rw [whole, tail.1, tail.2]

/-- A complete word in front of a text is its first word. -/
theorem words_append {word rest : List Char} (isWord : IsWord word) (apart : IsApart rest) :
    words (word ++ rest) = word :: words rest := by
  cases rest with
  | nil => rw [List.append_nil, words_of_isWord isWord, words_nil]
  | cons c rest =>
    rw [words_append_cons apart, words_of_isWord isWord, words_cons_of_isBlank apart]
    rfl

theorem isWord_of_mem_words {text word : List Char} (isIn : word ∈ words text) : IsWord word := by
  induction text generalizing word with
  | nil => cases isIn
  | cons c rest ih =>
    by_cases blank : isBlank c = true
    · rw [words_cons_of_isBlank blank] at isIn
      exact ih isIn
    · rw [Bool.not_eq_true] at blank
      have single : IsWord [c] := ⟨by simp, by simp [blank]⟩
      cases rest with
      | nil =>
        rw [words_singleton blank, List.mem_singleton] at isIn
        rw [isIn]
        exact single
      | cons d rest =>
        by_cases next : isBlank d = true
        · rw [words_cons_cons_of_isBlank blank next, List.mem_cons] at isIn
          rcases isIn with rfl | isIn
          · exact single
          · exact ih isIn
        · rw [Bool.not_eq_true] at next
          obtain ⟨first, others, tail, whole⟩ := exists_words_cons_cons blank next rest
          rw [tail] at ih
          rw [whole, List.mem_cons] at isIn
          rcases isIn with rfl | isIn
          · have known := ih List.mem_cons_self
            exact ⟨by simp, List.forall_mem_cons.mpr ⟨blank, known.2⟩⟩
          · exact ih (List.mem_cons_of_mem _ isIn)

/-- Words that are written with single spaces between them are read back. -/
theorem words_unwords {list : List (List Char)} (each : ∀ word ∈ list, IsWord word) :
    words (unwords list) = list := by
  induction list with
  | nil => rfl
  | cons word others ih =>
    have isWord := each word List.mem_cons_self
    cases others with
    | nil => exact words_of_isWord isWord
    | cons next others =>
      have rest := ih fun other isOther => each other (List.mem_cons_of_mem _ isOther)
      have opened : unwords (word :: next :: others) =
          word ++ ' ' :: unwords (next :: others) := rfl
      rw [opened, words_append_cons (by decide), words_of_isWord isWord, rest]
      rfl

theorem unwords_cons {word : List Char} {others : List (List Char)} (more : others ≠ []) :
    unwords (word :: others) = word ++ ' ' :: unwords others := by
  obtain ⟨next, rest, rfl⟩ := List.exists_cons_of_ne_nil more
  rfl

theorem unwords_append {first second : List (List Char)} (some : first ≠ []) (more : second ≠ []) :
    unwords (first ++ second) = unwords first ++ ' ' :: unwords second := by
  induction first with
  | nil => exact absurd rfl some
  | cons word others ih =>
    cases others with
    | nil => exact unwords_cons more
    | cons next others =>
      rw [List.cons_append, unwords_cons (by simp), ih (List.cons_ne_nil next others),
        unwords_cons (List.cons_ne_nil next others), List.append_assoc, List.cons_append]

theorem words_unwords_words (text : List Char) : words (unwords (words text)) = words text :=
  words_unwords fun _ => isWord_of_mem_words

/-- Blanks in front of a text add no word. -/
theorem words_append_of_blanks {blanks : List Char} (areBlank : ∀ c ∈ blanks, isBlank c = true)
    (text : List Char) : words (blanks ++ text) = words text := by
  induction blanks with
  | nil => rfl
  | cons c rest ih =>
    rw [List.forall_mem_cons] at areBlank
    rw [List.cons_append, words_cons_of_isBlank areBlank.1, ih areBlank.2]

theorem words_of_blanks {blanks : List Char} (areBlank : ∀ c ∈ blanks, isBlank c = true) :
    words blanks = [] := by
  rw [← List.append_nil blanks, words_append_of_blanks areBlank, words_nil]

/-! ## The first word -/

/-- The characters that a text starts with, up to the first blank. -/
def firstWord (text : List Char) : List Char :=
  text.takeWhile fun c => !isBlank c

/-- What follows these characters. -/
def afterWord (text : List Char) : List Char :=
  text.dropWhile fun c => !isBlank c

theorem firstWord_append_afterWord (text : List Char) : firstWord text ++ afterWord text = text :=
  List.takeWhile_append_dropWhile

theorem firstWord_cons_of_isBlank {c : Char} (blank : isBlank c = true) (rest : List Char) :
    firstWord (c :: rest) = [] :=
  List.takeWhile_cons_of_neg (by simp [blank])

theorem afterWord_cons_of_isBlank {c : Char} (blank : isBlank c = true) (rest : List Char) :
    afterWord (c :: rest) = c :: rest :=
  List.dropWhile_cons_of_neg (by simp [blank])

theorem firstWord_cons {c : Char} (notBlank : isBlank c = false) (rest : List Char) :
    firstWord (c :: rest) = c :: firstWord rest :=
  List.takeWhile_cons_of_pos (by simp [notBlank])

theorem afterWord_cons {c : Char} (notBlank : isBlank c = false) (rest : List Char) :
    afterWord (c :: rest) = afterWord rest :=
  List.dropWhile_cons_of_pos (by simp [notBlank])

theorem isApart_afterWord (text : List Char) : IsApart (afterWord text) := by
  induction text with
  | nil => trivial
  | cons c rest ih =>
    by_cases blank : isBlank c = true
    · rw [afterWord_cons_of_isBlank blank]
      exact blank
    · rw [afterWord_cons (Bool.eq_false_iff.mpr blank)]
      exact ih

theorem isWord_firstWord {c : Char} (notBlank : isBlank c = false) (rest : List Char) :
    IsWord (firstWord (c :: rest)) := by
  constructor
  · simp [firstWord_cons notBlank]
  · intro d isIn
    simpa using List.mem_takeWhile_imp isIn

/-- A text that starts with a character of a word starts with that word. -/
theorem words_eq_cons {c : Char} (notBlank : isBlank c = false) (rest : List Char) :
    words (c :: rest) = firstWord (c :: rest) :: words (afterWord (c :: rest)) := by
  rw [← words_append (isWord_firstWord notBlank rest) (isApart_afterWord _),
    firstWord_append_afterWord]

theorem words_eq_nil_iff {text : List Char} : words text = [] ↔ ∀ c ∈ text, isBlank c = true := by
  constructor
  · intro noWords
    induction text with
    | nil => simp
    | cons c rest ih =>
      by_cases blank : isBlank c = true
      · rw [words_cons_of_isBlank blank] at noWords
        exact List.forall_mem_cons.mpr ⟨blank, ih noWords⟩
      · rw [words_eq_cons (Bool.eq_false_iff.mpr blank)] at noWords
        cases noWords
  · exact words_of_blanks

/-! ## Trimming -/

/-- What trimming the end of a text takes off is blank. -/
theorem exists_trimEnd_append (text : List Char) :
    ∃ blanks, text = trimEnd text ++ blanks ∧ ∀ c ∈ blanks, isBlank c = true := by
  induction text with
  | nil => exact ⟨[], rfl, by simp⟩
  | cons c rest ih =>
    obtain ⟨blanks, whole, areBlank⟩ := ih
    cases trimmed : trimEnd rest with
    | nil =>
      rw [trimmed, List.nil_append] at whole
      by_cases blank : isBlank c = true
      · refine ⟨c :: rest, by simp [trimEnd, trimmed, blank], ?_⟩
        rw [whole]
        exact List.forall_mem_cons.mpr ⟨blank, areBlank⟩
      · exact ⟨rest, by simp [trimEnd, trimmed, blank], whole ▸ areBlank⟩
    | cons d kept =>
      refine ⟨blanks, ?_, areBlank⟩
      rw [trimEnd, trimmed, List.cons_append, ← trimmed, ← whole]

theorem words_trimEnd (text : List Char) : words (trimEnd text) = words text := by
  obtain ⟨blanks, whole, areBlank⟩ := exists_trimEnd_append text
  cases blanks with
  | nil =>
    rw [List.append_nil] at whole
    rw [← whole]
  | cons c rest =>
    have others := words_of_blanks fun d isIn => areBlank d (List.mem_cons_of_mem _ isIn)
    calc
      words (trimEnd text) = words (trimEnd text ++ c :: rest) := by
        rw [words_append_cons (areBlank c List.mem_cons_self), others, List.append_nil]
      _ = words text := by rw [← whole]

/-- Trimming a text keeps its words. -/
theorem words_trim (text : List Char) : words (trim text) = words text := by
  rw [trim, words_trimEnd, words_trimStart]

theorem trimEnd_eq_nil_iff {text : List Char} : trimEnd text = [] ↔ words text = [] := by
  constructor
  · intro empty
    rw [← words_trimEnd, empty]
    rfl
  · intro noWords
    rw [words_eq_nil_iff] at noWords
    induction text with
    | nil => rfl
    | cons c rest ih =>
      have blank := noWords c List.mem_cons_self
      rw [trimEnd, ih fun d isIn => noWords d (List.mem_cons_of_mem _ isIn)]
      exact if_pos blank

theorem trimStart_eq_nil_iff {text : List Char} : trimStart text = [] ↔ words text = [] := by
  rw [trimStart, List.dropWhile_eq_nil_iff, words_eq_nil_iff]

theorem trim_eq_nil_iff {text : List Char} : trim text = [] ↔ words text = [] := by
  rw [trim, trimEnd_eq_nil_iff, words_trimStart]

/-- A trimmed end is no blank. -/
theorem not_isBlank_of_trimEnd {text init : List Char} {c : Char}
    (trimmed : trimEnd text = init ++ [c]) : isBlank c = false := by
  induction text generalizing init with
  | nil => simp at trimmed
  | cons d rest ih =>
    rw [trimEnd] at trimmed
    split at trimmed
    · split at trimmed
      · simp at trimmed
      · rename_i notBlank
        obtain ⟨_, last⟩ := List.append_inj' (show [] ++ [d] = init ++ [c] from trimmed) rfl
        cases last
        exact Bool.eq_false_iff.mpr notBlank
    · rename_i kept notEmpty
      cases init with
      | nil =>
        rw [List.nil_append, List.cons.injEq] at trimmed
        exact absurd trimmed.2 notEmpty
      | cons e init =>
        rw [List.cons_append, List.cons.injEq] at trimmed
        exact ih trimmed.2

/-- Trimming keeps a first character that is not blank. -/
theorem exists_trim_cons {c : Char} (notBlank : isBlank c = false) (text : List Char) :
    ∃ rest, trim (c :: text) = c :: rest := by
  have start : trimStart (c :: text) = c :: text := by
    rw [trimStart, List.dropWhile_cons_of_neg (by simp [notBlank])]
  rw [trim, start, trimEnd]
  split
  · rw [if_neg (by simp [notBlank])]
    exact ⟨[], rfl⟩
  · exact ⟨_, rfl⟩

theorem trim_cons_of_isBlank {c : Char} (blank : isBlank c = true) (text : List Char) :
    trim (c :: text) = trim text := by
  rw [trim, trim, trimStart, List.dropWhile_cons_of_pos blank]
  rfl

/-- A trimmed text starts with a word, if there is anything in it. -/
theorem trim_cases (text : List Char) :
    trim text = [] ∨ ∃ c rest, trim text = c :: rest ∧ isBlank c = false := by
  induction text with
  | nil => exact .inl rfl
  | cons c rest ih =>
    by_cases blank : isBlank c = true
    · rw [trim_cons_of_isBlank blank]
      exact ih
    · rw [Bool.not_eq_true] at blank
      obtain ⟨kept, trimmed⟩ := exists_trim_cons blank rest
      exact .inr ⟨c, kept, trimmed, blank⟩

theorem mem_of_mem_trimEnd {text : List Char} {c : Char} (isIn : c ∈ trimEnd text) : c ∈ text := by
  obtain ⟨blanks, whole, _⟩ := exists_trimEnd_append text
  rw [whole]
  exact List.mem_append_left _ isIn

theorem mem_of_mem_trimStart {text : List Char} {c : Char} (isIn : c ∈ trimStart text) :
    c ∈ text :=
  (List.dropWhile_sublist _).subset isIn

theorem mem_of_mem_trim {text : List Char} {c : Char} (isIn : c ∈ trim text) : c ∈ text :=
  mem_of_mem_trimStart (mem_of_mem_trimEnd isIn)

/-- A text without blanks is not changed by trimming. -/
theorem trim_of_noBlank {text : List Char} (noBlank : ∀ c ∈ text, isBlank c = false) :
    trim text = text := by
  have start : trimStart text = text := by
    cases text with
    | nil => rfl
    | cons c rest =>
      have first := noBlank c List.mem_cons_self
      rw [trimStart, List.dropWhile_cons_of_neg (by simp [first])]
  obtain ⟨blanks, whole, areBlank⟩ := exists_trimEnd_append text
  have none : blanks = [] := by
    apply List.eq_nil_iff_forall_not_mem.mpr
    intro c isIn
    have inText : c ∈ text := by
      rw [whole]
      exact List.mem_append_right _ isIn
    have blank := areBlank c isIn
    rw [noBlank c inText] at blank
    cases blank
  rw [none, List.append_nil] at whole
  rw [trim, start, ← whole]

end Checkout.Text
