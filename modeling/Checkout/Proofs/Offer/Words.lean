import Checkout.Offer.Bundle
import Checkout.Proofs.Catalog.Entry

/-!
# Rules word by word

A rule is read from one line, character by character, but only the words of the line matter: neither
the blanks between them nor, in the names of items, anything else about them than their upper case.
This file reads a rule off a list of words and shows that a line without a line feed is read to the
same rule.

The form of a bundle may fit a line at several places.  The first division of the characters is the
first division of the words: a place inside a run of blanks is refused like the start of the run,
since the same words follow, and no place is tried inside a word.
-/

namespace Checkout

open Text (words unwords IsWord trim trimStart trimEnd firstWord afterWord)
open Text.Case (upper figures)

/-! ## Words of figures -/

theorem mem_figures_of_isDigits {text : List Char} (digits : Text.Numeral.isDigits text = true) :
    ∀ c ∈ text, c ∈ figures := by
  have all := (Text.Numeral.isDigits_iff.mp digits).2
  exact fun c isIn => Text.Case.mem_figures_of_isDigit (all c isIn)

namespace Discount

/-- A text with a point in it is a run of digits, the point and another run of digits. -/
theorem isPointed_iff {text : List Char} :
    isPointed text = true ↔ ∃ whole fraction, text = whole ++ '.' :: fraction ∧
      Text.Numeral.isDigits whole = true ∧ Text.Numeral.isDigits fraction = true := by
  constructor
  · intro pointed
    unfold isPointed at pointed
    split at pointed
    · rename_i fraction divided
      rw [Bool.and_eq_true] at pointed
      refine ⟨text.takeWhile Char.isDigit, fraction, ?_, pointed.1, pointed.2⟩
      rw [← divided, List.takeWhile_append_dropWhile]
    · cases pointed
  · rintro ⟨whole, fraction, rfl, isWhole, isFraction⟩
    have digits := (Text.Numeral.isDigits_iff.mp isWhole).2
    rw [isPointed, Text.Numeral.dropWhile_isDigit_point digits,
      Text.Numeral.takeWhile_isDigit_point digits, isWhole]
    exact isFraction

theorem mem_figures_of_isPointed {text : List Char} (pointed : isPointed text = true) :
    ∀ c ∈ text, c ∈ figures := by
  obtain ⟨whole, fraction, rfl, isWhole, isFraction⟩ := isPointed_iff.mp pointed
  intro c isIn
  rw [List.mem_append, List.mem_cons] at isIn
  rcases isIn with inWhole | rfl | inFraction
  · exact mem_figures_of_isDigits isWhole c inWhole
  · decide
  · exact mem_figures_of_isDigits isFraction c inFraction

theorem Reduction.mem_figures_of_ofWord? {word : List Char} {reduction : Reduction}
    (read : ofWord? word = some reduction) : ∀ c ∈ word, c ∈ figures := by
  unfold ofWord? at read
  split at read
  · rename_i pointed
    exact mem_figures_of_isPointed pointed
  · split at read
    · rename_i percentage
      obtain ⟨init, last⟩ := List.getLast?_eq_some_iff.mp percentage.1
      rw [last, List.dropLast_concat] at percentage
      rw [last]
      intro c isIn
      rcases List.mem_append.mp isIn with isDigit | isMark
      · exact mem_figures_of_isDigits percentage.2 c isDigit
      · rw [List.mem_singleton.mp isMark]
        decide
    · cases read

/-- Words that are the same in upper case write the same reduction, or none. -/
theorem Reduction.ofWord?_of_upper_eq {first second : List Char}
    (same : upper first = upper second) : ofWord? first = ofWord? second :=
  Text.Case.isClass_figures.read?_of_upper_eq (fun read => mem_figures_of_ofWord? read)
    (fun word => by rw [List.map_id]) same

/-! ## Discounts -/

/-- The last word of a text stands behind a blank, or nothing stands in front of it. -/
theorem exists_splitLast (text : List Char) :
    ∃ front word, splitLast text = (trimEnd front, word) ∧ text = front ++ word ∧
      (front = [] ∨ ∃ init blank, front = init ++ [blank] ∧ Text.isBlank blank = true) ∧
      ∀ c ∈ word, Text.isBlank c = false := by
  refine ⟨(afterWord text.reverse).reverse, (firstWord text.reverse).reverse, rfl, ?_, ?_, ?_⟩
  · have whole := congrArg List.reverse (Text.firstWord_append_afterWord text.reverse)
    rw [List.reverse_append, List.reverse_reverse] at whole
    exact whole.symm
  · have apart := Text.isApart_afterWord text.reverse
    cases remaining : afterWord text.reverse with
    | nil => exact .inl rfl
    | cons blank rest =>
      rw [remaining] at apart
      exact .inr ⟨rest.reverse, blank, List.reverse_cons, apart⟩
  · intro c isIn
    have inWord : c ∈ firstWord text.reverse := List.mem_reverse.mp isIn
    simpa using List.mem_takeWhile_imp inWord

/-- A trimmed line is divided into its last word and the words in front of it. -/
theorem splitLast_cases (line : List Char) :
    (words line = [] ∧ splitLast (trim line) = ([], [])) ∨
      ∃ item word, splitLast (trim line) = (item, word) ∧ words line = words item ++ [word] ∧
        (words item = [] → item = []) := by
  by_cases blank : words line = []
  · rw [Text.trim_eq_nil_iff.mpr blank]
    exact .inl ⟨blank, rfl⟩
  · obtain ⟨front, word, divided, whole, front_cases, noBlank⟩ := exists_splitLast (trim line)
    -- The last character of a trimmed line is not blank, so the line ends with a word.
    have notEmpty : word ≠ [] := by
      rintro rfl
      rw [List.append_nil] at whole
      rcases front_cases with rfl | ⟨init, c, rfl, isBlank⟩
      · exact blank (Text.trim_eq_nil_iff.mp whole)
      · rw [Text.not_isBlank_of_trimEnd whole] at isBlank
        cases isBlank
    have isWord : IsWord word := ⟨notEmpty, noBlank⟩
    refine .inr ⟨trimEnd front, word, divided, ?_, ?_⟩
    · rw [← Text.words_trim line, whole, Text.words_trimEnd]
      rcases front_cases with rfl | ⟨init, c, rfl, isBlank⟩
      · exact Text.words_of_isWord isWord
      · rw [List.append_assoc, List.singleton_append, Text.words_append_cons isBlank,
          Text.words_append_cons isBlank, Text.words_of_isWord isWord, Text.words_nil,
          List.append_nil]
    · rw [Text.words_trimEnd]
      exact Text.trimEnd_eq_nil_iff.mpr

/-- The discount that words write: the last word is the reduction, the words in front of it name the
item. -/
def judgeWords (catalog : Catalog) (all : List (List Char)) :
    Option (Except Rejection Discount) :=
  match Catalog.splitWords? all with
  | none => none
  | some (name, word) => (Reduction.ofWord? word).bind (ofForm catalog (unwords name))

theorem ofForm_congr {first second : List Char}
    (same : (words first).map upper = (words second).map upper) (catalog : Catalog)
    (reduction : Reduction) : ofForm catalog first reduction = ofForm catalog second reduction := by
  rw [ofForm, ofForm, ItemId.ofName?_congr same]

/-- A line is judged by its words. -/
theorem judge_eq_judgeWords (catalog : Catalog) {line : List Char} (oneLine : '\n' ∉ line) :
    judge catalog line = judgeWords catalog (words line) := by
  rcases splitLast_cases line with ⟨noWords, divided⟩ | ⟨item, word, divided, whole, named⟩
  · have noForm : readForm? line = none := by
      rw [readForm?, divided]
      rfl
    rw [judge, noForm, noWords]
    rfl
  · have itemLine : '\n' ∉ item := by
      intro isIn
      obtain ⟨front, last, known, trimmed, _, _⟩ := exists_splitLast (trim line)
      obtain ⟨rfl, rfl⟩ := Prod.mk.inj (known.symm.trans divided)
      have inLine : '\n' ∈ trim line := by
        rw [trimmed]
        exact List.mem_append_left _ (Text.mem_of_mem_trimEnd isIn)
      exact oneLine (Text.mem_of_mem_trim inLine)
    cases read : Reduction.ofWord? word with
    | none =>
      have noForm : readForm? line = none := by simp [readForm?, divided, read]
      rw [judge, noForm, judgeWords, whole]
      rcases Catalog.splitWords?_cases (words item ++ [word]) with
        ⟨_, short⟩ | ⟨name, last, same, _, found⟩
      · rw [short]
        rfl
      · obtain ⟨_, sameWord⟩ := List.append_inj' same rfl
        cases sameWord
        rw [found]
        simp [read]
    | some reduction =>
      by_cases isNamed : words item = []
      · have noForm : readForm? line = none := by simp [readForm?, divided, read, named isNamed]
        rw [judge, noForm, judgeWords, whole, isNamed]
        rfl
      · have notEmpty : item ≠ [] := by
          rintro rfl
          exact isNamed rfl
        have form : readForm? line = some (item, reduction) := by
          simp [readForm?, divided, read, itemLine, notEmpty]
        rw [judge, form, judgeWords, whole, Catalog.splitWords?_append isNamed]
        simp only [Option.bind_eq_bind, Option.bind_some, read]
        exact ofForm_congr (by rw [Text.words_unwords_words]) catalog reduction

end Discount

/-! ## Bundles -/

namespace Bundle

/-- The letters of the word between the amount and the count. -/
def perLetters : List Char :=
  ['p', 'e', 'r', 'P', 'E', 'R']

/-- Such a letter in upper case, and every other character as it is. -/
def capital (c : Char) : Char :=
  if c = 'p' then 'P' else if c = 'e' then 'E' else if c = 'r' then 'R' else c

theorem isClass_perLetters : Text.Case.IsClass perLetters capital :=
  .of_check (by decide +kernel) (by decide +kernel)

theorem mem_perLetters_of_toLower {c : Char} (isLetter : c.toLower ∈ ['p', 'e', 'r']) :
    c ∈ perLetters := by
  have codes : ∀ code ∈ List.range 91, (Char.ofNat code).toLower ∈ ['p', 'e', 'r'] →
      Char.ofNat code ∈ perLetters := by decide
  by_cases small : c.toNat < 91
  · have known := codes c.toNat (List.mem_range.mpr small)
    rw [Char.ofNat_toNat] at known
    exact known isLetter
  · have notCapital : ¬(c.val ≥ 'A'.val ∧ c.val ≤ 'Z'.val) := by
      rintro ⟨_, most⟩
      exact small (Nat.lt_succ_of_le (UInt32.le_iff_toNat_le.mp most))
    have unchanged : c.toLower = c := dif_neg notCapital
    rw [unchanged] at isLetter
    exact List.mem_append_left ['P', 'E', 'R'] isLetter

theorem toLower_capital (c : Char) : (capital c).toLower = c.toLower := by
  unfold capital
  split
  · rename_i same
    subst same
    rfl
  · split
    · rename_i same
      subst same
      rfl
    · split
      · rename_i same
        subst same
        rfl
      · rfl

theorem mem_perLetters_of_isPer {word : List Char} (per : isPer word = true) :
    ∀ c ∈ word, c ∈ perLetters := by
  intro c isIn
  have lowered : c.toLower ∈ word.map Char.toLower := List.mem_map_of_mem isIn
  rw [of_decide_eq_true per] at lowered
  exact mem_perLetters_of_toLower lowered

theorem isPer_map_capital (word : List Char) : isPer (word.map capital) = isPer word := by
  have lowered : Char.toLower ∘ capital = Char.toLower := funext toLower_capital
  rw [isPer, isPer, List.map_map, lowered]

/-- Words that are the same in upper case are both that word, or both another. -/
theorem isPer_of_upper_eq {first second : List Char} (same : upper first = upper second) :
    isPer first = isPer second :=
  Bool.eq_iff_iff.mpr (isClass_perLetters.iff_of_upper_eq mem_perLetters_of_isPer
    (fun word => by rw [isPer_map_capital]) same)

/-- The amount, the count and the words of the required item that words go on with. -/
def readTailWords? :
    List (List Char) → Option (List Char × List Char × List (List Char))
  | amount :: word :: per :: required =>
    if Discount.isPointed amount && isPer word && Text.Numeral.isDigits per &&
        !required.isEmpty then
      some (amount, per, required)
    else none
  | _ => none

/-- The first division of words into the four parts of a rule, behind some words of the discounted
item. -/
def divideWords? (before : List (List Char)) : List (List Char) → Option Form
  | [] => none
  | word :: rest =>
    match readTailWords? (word :: rest) with
    | some (amount, per, required) => some ⟨unwords before, amount, per, unwords required⟩
    | none => divideWords? (before ++ [word]) rest

/-- The four parts of the rule that words write.  The discounted item has at least one word. -/
def readWords? : List (List Char) → Option Form
  | [] => none
  | word :: rest => divideWords? [word] rest

/-- Two forms with the same figures and the same names of items. -/
structure Form.Alike (first second : Form) : Prop where
  discounted : (words first.discounted).map upper = (words second.discounted).map upper
  amount : first.amount = second.amount
  per : first.per = second.per
  required : (words first.required).map upper = (words second.required).map upper

/-- The first word of a text and the words behind it. -/
theorem takeWord_cases (text : List Char) :
    (words text = [] ∧ (takeWord text).1 = []) ∨
      words text = (takeWord text).1 :: words (takeWord text).2 := by
  rw [← Text.words_trimStart text]
  cases start : trimStart text with
  | nil => exact .inl ⟨rfl, by rw [takeWord, start]; rfl⟩
  | cons c rest =>
    have notBlank : Text.isBlank c = false := by
      have stopped := List.head?_dropWhile_not Text.isBlank text
      rw [trimStart] at start
      simpa [start] using stopped
    refine .inr ?_
    rw [takeWord, start]
    exact Text.words_eq_cons notBlank rest

theorem mem_of_mem_takeWord {text : List Char} {c : Char} (isIn : c ∈ (takeWord text).2) :
    c ∈ text :=
  Text.mem_of_mem_trimStart ((List.dropWhile_sublist _).subset isIn)

/-- What a text of one line goes on with is seen from its words. -/
theorem readTail?_words {text : List Char} (oneLine : '\n' ∉ text) :
    (readTail? text).map (fun tail => (tail.1, tail.2.1, words tail.2.2)) =
      readTailWords? (words text) := by
  have first := takeWord_cases text
  have second := takeWord_cases (takeWord text).2
  have third := takeWord_cases (takeWord (takeWord text).2).2
  have behind : ∀ c ∈ trimStart (takeWord (takeWord (takeWord text).2).2).2, c ∈ text :=
    fun c isIn => mem_of_mem_takeWord (mem_of_mem_takeWord (mem_of_mem_takeWord
      (Text.mem_of_mem_trimStart isIn)))
  unfold readTail?
  cases isAmount : takeWord text with
  | mk amount afterAmount =>
    rw [isAmount] at first second third behind
    dsimp only at first second third behind ⊢
    rcases first with ⟨noWords, rfl⟩ | whole
    · rw [noWords]
      rfl
    · rw [whole]
      cases isWord : takeWord afterAmount with
      | mk word afterWord =>
        rw [isWord] at second third behind
        dsimp only at second third behind ⊢
        rcases second with ⟨noWords, rfl⟩ | wholeAmount
        · rw [noWords]
          simp [readTailWords?, isPer]
        · rw [wholeAmount]
          cases isCount : takeWord afterWord with
          | mk per afterPer =>
            rw [isCount] at third behind
            dsimp only at third behind ⊢
            rcases third with ⟨noWords, rfl⟩ | wholeWord
            · rw [noWords]
              simp [readTailWords?, Text.Numeral.isDigits]
            · have sameEnd : (trimStart afterPer).isEmpty = (words afterPer).isEmpty := by
                rw [Bool.eq_iff_iff, List.isEmpty_iff, List.isEmpty_iff, Text.trimStart_eq_nil_iff]
              have noBreak : (trimStart afterPer).contains '\n' = false := by
                rw [Bool.eq_false_iff]
                intro isIn
                exact oneLine (behind _ (List.contains_iff_mem.mp isIn))
              rw [wholeWord]
              simp only [readTailWords?, sameEnd, noBreak, Bool.not_false, Bool.and_true]
              split
              · rw [Option.map_some, Text.words_trimStart]
              · rfl

theorem divide?_nil (before : List Char) : divide? before [] = none :=
  rfl

theorem divide?_cons (before : List Char) (c : Char) (rest : List Char) :
    divide? before (c :: rest) =
      if !before.isEmpty && Text.isBlank c then
        match readTail? (c :: rest) with
        | some (amount, per, required) => some ⟨before.reverse, amount, per, required⟩
        | none => if c = '\n' then none else divide? (c :: before) rest
      else if c = '\n' then none
      else divide? (c :: before) rest := by
  delta divide?
  rfl

/-- Where a text does not begin with the rest of a rule, the division goes on behind its first
character. -/
theorem divide?_cons_of_none {before : List Char} {c : Char} {rest : List Char}
    (notBreak : c ≠ '\n') (noTail : readTail? (c :: rest) = none) :
    divide? before (c :: rest) = divide? (c :: before) rest := by
  rw [divide?_cons, noTail, if_neg notBreak]
  split <;> rfl

/-- No line is divided inside a word. -/
theorem divide?_cons_of_not_isBlank {c : Char} (notBlank : Text.isBlank c = false)
    (before rest : List Char) : divide? before (c :: rest) = divide? (c :: before) rest := by
  have notBreak : c ≠ '\n' := by
    rintro rfl
    exact absurd notBlank (by decide)
  rw [divide?_cons, if_neg (by simp [notBlank]), if_neg notBreak]

/-- Where words do not begin with the rest of a rule, the division goes on behind the first of
them. -/
theorem divideWords?_of_none {text : List Char} (noTail : readTailWords? (words text) = none)
    (before : List (List Char)) :
    divideWords? before (words text) =
      divideWords? (before ++ words (firstWord text)) (words (afterWord text)) := by
  cases text with
  | nil => rfl
  | cons c rest =>
    by_cases blank : Text.isBlank c = true
    · rw [Text.firstWord_cons_of_isBlank blank, Text.afterWord_cons_of_isBlank blank,
        Text.words_nil, List.append_nil]
    · rw [Bool.not_eq_true] at blank
      rw [Text.words_eq_cons blank] at noTail ⊢
      rw [divideWords?, noTail, Text.words_of_isWord (Text.isWord_firstWord blank rest)]

/-- The first division of the characters is the first division of the words.  What stands in front
is taken with the rest of the word that the text begins inside of. -/
theorem divide?_alike {before text : List Char}
    (started : words (before.reverse ++ firstWord text) ≠ []) (oneLine : '\n' ∉ text) :
    Option.Rel Form.Alike (divide? before text)
      (divideWords? (words (before.reverse ++ firstWord text)) (words (afterWord text))) := by
  induction text generalizing before with
  | nil => exact .none
  | cons c rest ih =>
    have restLine : '\n' ∉ rest := fun isIn => oneLine (List.mem_cons_of_mem _ isIn)
    by_cases blank : Text.isBlank c = true
    · have tail := readTail?_words oneLine
      rw [Text.firstWord_cons_of_isBlank blank, List.append_nil] at started
      rw [Text.firstWord_cons_of_isBlank blank, Text.afterWord_cons_of_isBlank blank,
        List.append_nil]
      cases found : readTail? (c :: rest) with
      | some parts =>
        rw [found] at tail
        have notEmpty : before ≠ [] := by
          rintro rfl
          exact started rfl
        have divided : divide? before (c :: rest) =
            some ⟨before.reverse, parts.1, parts.2.1, parts.2.2⟩ := by
          rw [divide?_cons, if_pos (by simp [notEmpty, blank]), found]
        cases all : words (c :: rest) with
        | nil =>
          rw [all] at tail
          cases tail
        | cons word others =>
          rw [all] at tail
          rw [divided, divideWords?, ← tail]
          exact .some ⟨by rw [Text.words_unwords_words], rfl, rfl,
            by rw [Text.words_unwords_words]⟩
      | none =>
        -- The words that follow are the same behind the blank, so they have no rest either.
        have notBreak : c ≠ '\n' := fun same => oneLine (same ▸ List.mem_cons_self)
        have front : words ((c :: before).reverse ++ firstWord rest) =
            words before.reverse ++ words (firstWord rest) := by
          rw [List.reverse_cons, List.append_assoc, List.singleton_append,
            Text.words_append_cons blank]
        rw [found, Option.map_none, Text.words_cons_of_isBlank blank] at tail
        rw [divide?_cons_of_none notBreak found, Text.words_cons_of_isBlank blank,
          divideWords?_of_none tail.symm, ← front]
        refine ih ?_ restLine
        rw [front]
        exact List.append_ne_nil_of_left_ne_nil started _
    · rw [Bool.not_eq_true] at blank
      have front : before.reverse ++ firstWord (c :: rest) =
          (c :: before).reverse ++ firstWord rest := by
        rw [Text.firstWord_cons blank, List.reverse_cons, List.append_assoc,
          List.singleton_append]
      rw [front] at started ⊢
      rw [divide?_cons_of_not_isBlank blank, Text.afterWord_cons blank]
      exact ih started restLine

/-- The form of a bundle is seen from the words of a line. -/
theorem readForm?_alike {line : List Char} (oneLine : '\n' ∉ line) :
    Option.Rel Form.Alike (readForm? line) (readWords? (words line)) := by
  rw [readForm?, ← Text.words_trim line]
  rcases Text.trim_cases line with empty | ⟨c, rest, start, notBlank⟩
  · rw [empty]
    exact .none
  · have single := Text.words_of_isWord (Text.isWord_firstWord notBlank rest)
    have noBreak : '\n' ∉ c :: rest := fun isIn => oneLine (Text.mem_of_mem_trim (start ▸ isIn))
    have divided : Option.Rel Form.Alike (divide? [] (c :: rest))
        (divideWords? (words (firstWord (c :: rest))) (words (afterWord (c :: rest)))) :=
      divide?_alike (by simp [single]) noBreak
    rw [start, Text.words_eq_cons notBlank, readWords?]
    rw [single] at divided
    exact divided

theorem ofForm_of_alike {first second : Form} (alike : first.Alike second) (catalog : Catalog) :
    ofForm catalog first = ofForm catalog second := by
  simp only [ofForm, ItemId.ofName?_congr alike.discounted, ItemId.ofName?_congr alike.required,
    alike.amount, alike.per]

theorem map_ofForm_of_rel {first second : Option Form} (alike : Option.Rel Form.Alike first second)
    (catalog : Catalog) : first.map (ofForm catalog) = second.map (ofForm catalog) := by
  cases alike with
  | none => rfl
  | some alike => rw [Option.map_some, Option.map_some, ofForm_of_alike alike]

/-- A line is judged by its words. -/
theorem judge_eq_readWords? (catalog : Catalog) {line : List Char} (oneLine : '\n' ∉ line) :
    judge catalog line = (readWords? (words line)).map (ofForm catalog) :=
  map_ofForm_of_rel (readForm?_alike oneLine) catalog

end Bundle

end Checkout
