import Checkout.Proofs.Money.Literal

/-!
# Amounts that are read

Whatever a text writes, an amount that is read from it has exactly two decimals, the sign of its
literal, and no more minor units than can be held.

The only letter of a literal is the mark of its exponent, which may stand in either case, and no
other letter becomes that mark or a digit in upper case.  So a word writes the same amount as every
word that is the same in upper case.
-/

namespace Checkout

/-! ## The characters of literals -/

namespace Decimal.Literal

open Text.Case (IsClass upper)

/-- The characters of literals. -/
def marks : List Char :=
  ['0', '1', '2', '3', '4', '5', '6', '7', '8', '9', '.', '+', '-', 'e', 'E']

/-- The mark of an exponent in upper case, and every other character of a literal as it is. -/
def capital (c : Char) : Char :=
  if c = 'e' then 'E' else c

theorem isClass_marks : IsClass marks capital :=
  .of_check (by decide +kernel) (by decide +kernel)

theorem mem_marks_of_isDigit {c : Char} (digit : c.isDigit = true) : c ∈ marks := by
  have within : (Text.Case.figures.all fun c => !c.isDigit || marks.contains c) = true := by decide
  have isMark := List.all_eq_true.mp within c (Text.Case.mem_figures_of_isDigit digit)
  rw [digit, Bool.not_true, Bool.false_or] at isMark
  exact List.contains_iff_mem.mp isMark

theorem mem_marks_of_takeSign {text : List Char} (rest : ∀ c ∈ (takeSign text).2, c ∈ marks) :
    ∀ c ∈ text, c ∈ marks := by
  unfold takeSign at rest
  split at rest
  · exact List.forall_mem_cons.mpr ⟨by decide, rest⟩
  · exact List.forall_mem_cons.mpr ⟨by decide, rest⟩
  · exact rest

theorem mem_marks_of_isDigits {text : List Char} (digits : Text.Numeral.isDigits text = true) :
    ∀ c ∈ text, c ∈ marks := by
  rw [Text.Numeral.isDigits, Bool.and_eq_true, List.all_eq_true] at digits
  exact fun c isIn => mem_marks_of_isDigit (digits.2 c isIn)

theorem mem_marks_of_readExponent? {text : List Char} {exponent : Int}
    (read : readExponent? text = some exponent) : ∀ c ∈ text, c ∈ marks := by
  cases text with
  | nil => simp
  | cons mark rest =>
    by_cases isMark : mark = 'e' ∨ mark = 'E'
    · have known : mark ∈ marks := by
        rcases isMark with rfl | rfl <;> decide
      simp only [readExponent?, if_pos isMark] at read
      by_cases digits : Text.Numeral.isDigits (takeSign rest).2 = true
      · exact List.forall_mem_cons.mpr
          ⟨known, mem_marks_of_takeSign (mem_marks_of_isDigits digits)⟩
      · rw [if_neg digits] at read
        cases read
    · rw [readExponent?, if_neg isMark] at read
      cases read

/-- Digits that a text starts with are characters of literals. -/
theorem mem_marks_of_dropWhile {text : List Char}
    (rest : ∀ c ∈ text.dropWhile Char.isDigit, c ∈ marks) : ∀ c ∈ text, c ∈ marks := by
  intro c isIn
  have whole : text.takeWhile Char.isDigit ++ text.dropWhile Char.isDigit = text :=
    List.takeWhile_append_dropWhile
  rw [← whole, List.mem_append] at isIn
  rcases isIn with isDigit | isLater
  · exact mem_marks_of_isDigit (List.all_eq_true.mp List.all_takeWhile c isDigit)
  · exact rest c isLater

theorem mem_marks_of_takeFraction {text : List Char}
    (rest : ∀ c ∈ (takeFraction text).2, c ∈ marks) : ∀ c ∈ text, c ∈ marks := by
  unfold takeFraction at rest
  split at rest
  · exact List.forall_mem_cons.mpr ⟨by decide, mem_marks_of_dropWhile rest⟩
  · exact rest

theorem mem_marks_of_read? {text : List Char} {literal : Literal}
    (read : read? text = some literal) : ∀ c ∈ text, c ∈ marks := by
  unfold read? at read
  dsimp only at read
  split at read
  · cases read
  · obtain ⟨exponent, isExponent, _⟩ := Option.map_eq_some_iff.mp read
    have behind := mem_marks_of_readExponent? isExponent
    exact mem_marks_of_takeSign (mem_marks_of_dropWhile (mem_marks_of_takeFraction behind))

/-! ## The case of the exponent mark -/

theorem capital_of_isDigit {c : Char} (digit : c.isDigit = true) : capital c = c := by
  rw [capital, if_neg]
  rintro rfl
  exact absurd digit (by decide)

theorem isDigit_comp_capital : Char.isDigit ∘ capital = Char.isDigit := by
  funext c
  by_cases isMark : c = 'e'
  · subst isMark
    rfl
  · simp [capital, isMark]

theorem map_capital_of_all {digits : List Char} (all : ∀ c ∈ digits, c.isDigit = true) :
    digits.map capital = digits := by
  rw [List.map_congr_left fun c isIn => capital_of_isDigit (all c isIn), List.map_id']

theorem takeWhile_map_capital (text : List Char) :
    (text.map capital).takeWhile Char.isDigit = text.takeWhile Char.isDigit := by
  rw [List.takeWhile_map, isDigit_comp_capital]
  exact map_capital_of_all (List.all_eq_true.mp List.all_takeWhile)

theorem dropWhile_map_capital (text : List Char) :
    (text.map capital).dropWhile Char.isDigit = (text.dropWhile Char.isDigit).map capital := by
  rw [List.dropWhile_map, isDigit_comp_capital]

theorem takeSign_map_capital (text : List Char) :
    takeSign (text.map capital) = ((takeSign text).1, (takeSign text).2.map capital) := by
  cases text with
  | nil => rfl
  | cons c rest =>
    by_cases minus : c = '-'
    · subst minus
      rfl
    · by_cases plus : c = '+'
      · subst plus
        rfl
      · by_cases isMark : c = 'e'
        · subst isMark
          rfl
        · simp [takeSign, capital, minus, plus, isMark]

theorem isDigits_map_capital (text : List Char) :
    Text.Numeral.isDigits (text.map capital) = Text.Numeral.isDigits text := by
  rw [Text.Numeral.isDigits, Text.Numeral.isDigits, List.isEmpty_map, List.all_map,
    isDigit_comp_capital]

theorem takeFraction_map_capital (text : List Char) :
    takeFraction (text.map capital) =
      ((takeFraction text).1, (takeFraction text).2.map capital) := by
  cases text with
  | nil => rfl
  | cons c rest =>
    by_cases point : c = '.'
    · subst point
      simp only [List.map_cons, capital, takeFraction, if_neg (show '.' ≠ 'e' by decide)]
      rw [takeWhile_map_capital, dropWhile_map_capital]
    · by_cases isMark : c = 'e'
      · subst isMark
        rfl
      · simp [takeFraction, capital, point, isMark]

theorem readExponent?_map_capital (text : List Char) :
    readExponent? (text.map capital) = readExponent? text := by
  cases text with
  | nil => rfl
  | cons c rest =>
    have sameMark : (capital c = 'e' ∨ capital c = 'E') ↔ (c = 'e' ∨ c = 'E') := by
      by_cases isMark : c = 'e'
      · subst isMark
        decide
      · simp [capital, isMark]
    simp only [List.map_cons, readExponent?, sameMark, takeSign_map_capital,
      isDigits_map_capital]
    by_cases digits : Text.Numeral.isDigits (takeSign rest).2 = true
    · have all := digits
      rw [Text.Numeral.isDigits, Bool.and_eq_true, List.all_eq_true] at all
      rw [map_capital_of_all all.2]
    · simp [digits]

theorem read?_map_capital (text : List Char) : read? (text.map capital) = read? text := by
  simp only [read?, takeSign_map_capital, takeWhile_map_capital, dropWhile_map_capital,
    takeFraction_map_capital, readExponent?_map_capital]

/-- Texts that are the same in upper case are the same literal, or none of them is one. -/
theorem read?_of_upper_eq {first second : List Char} (same : upper first = upper second) :
    read? first = read? second :=
  isClass_marks.read?_of_upper_eq (fun read => mem_marks_of_read? read) read?_map_capital same

end Decimal.Literal

namespace Money

open Text (IsWord)

theorem isMoney_of_read? {text : List Char} {amount : Decimal} (read : read? text = some amount) :
    isMoney amount = true := by
  obtain ⟨literal, units, _, _, _, _, rfl⟩ := read?_eq_some_iff.mp read
  rfl

/-- Words that are the same in upper case write the same amount, or none. -/
theorem read?_of_upper_eq {first second : List Char} (isFirst : IsWord first)
    (isSecond : IsWord second) (same : Text.Case.upper first = Text.Case.upper second) :
    read? first = read? second := by
  rw [read?, read?, Text.trim_of_noBlank isFirst.2, Text.trim_of_noBlank isSecond.2,
    Decimal.Literal.read?_of_upper_eq same]

end Money

end Checkout
