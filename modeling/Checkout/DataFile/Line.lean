import Checkout.Text.Blank

/-!
# Lines of a data file

A data file is read line by line.  Lines end at a line feed, a carriage return or the pair of both,
and at nothing else.  Every line keeps its number, counted from one, so that a defect can be
reported where it stands; blank lines and comments carry no data but are counted.
-/

namespace Checkout.DataFile

/-- A line of a data file with its number. -/
structure Line where
  number : Nat
  text : List Char
  deriving DecidableEq

/-- The lines of a text, without their ends.  A text that ends with a line end has no line behind
it. -/
def splitLines : List Char → List (List Char)
  | [] => []
  | '\r' :: '\n' :: rest => [] :: splitLines rest
  | c :: rest =>
    if c = '\n' ∨ c = '\r' then [] :: splitLines rest
    else
      match splitLines rest with
      | [] => [[c]]
      | first :: others => (c :: first) :: others

/-- The texts numbered from a first number on. -/
def numberFrom (first : Nat) : List (List Char) → List Line
  | [] => []
  | text :: rest => ⟨first, text⟩ :: numberFrom (first + 1) rest

/-- The texts numbered from one. -/
def number (texts : List (List Char)) : List Line :=
  numberFrom 1 texts

/-- The numbered lines of a text. -/
def linesOf (text : List Char) : List Line :=
  number (splitLines text)

/-- A trimmed line that begins with a number sign is a comment. -/
def isComment : List Char → Bool
  | '#' :: _ => true
  | _ => false

/-- The line without blanks around it, if there is data on it. -/
def Line.data? (line : Line) : Option Line :=
  let text := Text.trim line.text
  if text.isEmpty || isComment text then none else some { line with text }

/-- The trimmed lines that are neither blank nor comments, with their numbers. -/
def dataLines (lines : List Line) : List Line :=
  lines.filterMap Line.data?

end Checkout.DataFile
