/-!
# Blank characters and words

Names, prices and offer rules are read word by word, and any of twenty-nine blank characters may
stand between two words.  This module holds that class, the trimming of a line, and its words.
Words are found by structural recursion, so that a fact about the words of a line follows from the
line itself.
-/

namespace Checkout.Text

/-- The blank characters: the controls from tab to carriage return, the four information
separators, the plain space, and the spaces and line separators beyond ASCII. -/
def isBlank (c : Char) : Bool :=
  let code := c.toNat
  (0x09 ≤ code && code ≤ 0x0D) || (0x1C ≤ code && code ≤ 0x20) || code == 0x85 ||
    code == 0xA0 || code == 0x1680 || (0x2000 ≤ code && code ≤ 0x200A) || code == 0x2028 ||
    code == 0x2029 || code == 0x202F || code == 0x205F || code == 0x3000

/-- The text without the blanks that it starts with. -/
def trimStart (text : List Char) : List Char :=
  text.dropWhile isBlank

/-- The text without the blanks that it ends with. -/
def trimEnd : List Char → List Char
  | [] => []
  | c :: rest =>
    match trimEnd rest with
    | [] => if isBlank c then [] else [c]
    | kept => c :: kept

/-- The text without the blanks around it. -/
def trim (text : List Char) : List Char :=
  trimEnd (trimStart text)

/-- The maximal runs of characters that are not blank, in order. -/
def words : List Char → List (List Char)
  | [] => []
  | [c] => if isBlank c then [] else [[c]]
  | c :: d :: rest =>
    if isBlank c then words (d :: rest)
    else if isBlank d then [c] :: words (d :: rest)
    else
      match words (d :: rest) with
      | [] => [[c]]
      | word :: others => (c :: word) :: others

/-- Words written one after another with a single space between two of them. -/
def unwords : List (List Char) → List Char
  | [] => []
  | [word] => word
  | word :: others => word ++ ' ' :: unwords others

@[simp]
theorem words_nil : words [] = [] :=
  rfl

@[simp]
theorem unwords_nil : unwords [] = [] :=
  rfl

@[simp]
theorem trimStart_nil : trimStart [] = [] :=
  rfl

@[simp]
theorem trimEnd_nil : trimEnd [] = [] :=
  rfl

/-- A blank in front of a text adds no word. -/
theorem words_cons_of_isBlank {c : Char} (blank : isBlank c = true) (text : List Char) :
    words (c :: text) = words text := by
  cases text with
  | nil => simp [words, blank]
  | cons d rest => simp [words, blank]

/-- Trimming the start of a text keeps its words. -/
theorem words_trimStart (text : List Char) : words (trimStart text) = words text := by
  induction text with
  | nil => rfl
  | cons c rest ih =>
    by_cases blank : isBlank c = true
    · rw [words_cons_of_isBlank blank, ← ih]
      simp [trimStart, blank]
    · simp [trimStart, blank]

end Checkout.Text
