import Checkout.Command.Style
import Checkout.Entries
import Checkout.Text.Split

/-!
# Printing on the console

The console reads square brackets as marks for styles, so the parts of a message are escaped before
they are put together.  A mark may still arise where one part ends and the next begins: one that
opens a style is not shown, and one that closes a style is a fault, since none is open there.  Of a
line that is longer than the console is wide, blanks at the end are left out.

A message is put together first, then the console is asked how wide it is, then the styles are read,
and last the text is written.  The first of these that fails is told.
-/

namespace Checkout.Command.Console

/-! ## Marks -/

/-- Whether what stands behind an opening bracket makes a mark: a lower-case letter or one of three
signs, and a closing bracket with no other opening one before it. -/
def isMark : List Char → Bool
  | [] => false
  | c :: rest =>
    (('a' ≤ c && c ≤ 'z') || c = '#' || c = '/' || c = '@') &&
      (rest.takeWhile (· ≠ '[')).contains ']'

/-- Some backslashes. -/
def backslashes (count : Nat) : List Char :=
  List.replicate count '\\'

/-- The characters of a text with its marks escaped, given how many backslashes stand in front:
those in front of a mark are doubled, and one more escapes the mark. -/
def escapeMarks (before : Nat) : List Char → List Char
  | [] => []
  | c :: rest =>
    if c = '\\' then c :: escapeMarks (before + 1) rest
    else
      let added := if c = '[' && isMark rest then backslashes (before + 1) else []
      added ++ c :: escapeMarks 0 rest

/-- Whether a text ends with one backslash and no more. -/
def endsWithOne (text : List Char) : Bool :=
  (text.reverse.takeWhile (· = '\\')).length = 1

/-- The characters of a text as it goes into a message: with its marks escaped, and a single
backslash at its end doubled, which keeps it from a mark behind. -/
def escape (text : List Char) : List Char :=
  let escaped := escapeMarks 0 text
  if endsWithOne escaped then escaped ++ ['\\'] else escaped

/-- How many of some backslashes are shown in front of a character: every second one in front of a
mark, all but one in front of another opening bracket, and else all. -/
def keptBefore (c : Char) (rest : List Char) (count : Nat) : Nat :=
  if c = '[' then (if isMark rest then count / 2 else count - 1) else count

/-- A marked text as it is shown. -/
structure Shown where
  characters : List Char
  /-- The words of its marks that are read when it is printed. -/
  styles : List (List (List Char))

namespace Shown

/-- Nothing but characters. -/
def plain (characters : List Char) : Shown :=
  ⟨characters, []⟩

/-- Characters in front of a text. -/
def behind (characters : List Char) (shown : Shown) : Shown :=
  { shown with characters := characters ++ shown.characters }

end Shown

/-- A marked text as it is shown, given whether it starts inside a mark, of which nothing is shown,
and how many backslashes stand in front.  A mark behind an odd number of backslashes is escaped. -/
def shown (inside : Bool) (before : Nat) : List Char → Except Fault Shown
  | [] => .ok (.plain (backslashes before))
  | c :: rest => do
    if inside then shown (c ≠ ']') 0 rest
    else if c = '\\' then shown false (before + 1) rest
    else if c = '[' && isMark rest && before % 2 = 0 then
      let words ← (Mark.ofText (rest.takeWhile (· ≠ ']'))).met
      let others ← shown true 0 rest
      .ok ⟨backslashes (before / 2) ++ others.characters, words :: others.styles⟩
    else
      let others ← shown false 0 rest
      .ok (others.behind (backslashes (keptBefore c rest before) ++ [c]))

/-! ## Lines -/

/-- How wide a console is where nothing else is said. -/
def usualWidth : Nat :=
  80

/-- The variable of the environment that tells how wide the console is. -/
def widthVariable : String :=
  "COLUMNS"

/-- The variable of the environment that tells how high the console is. -/
def heightVariable : String :=
  "LINES"

/-- Whether the environment says that the console is a terminal. -/
def isTerminal (environment : List (String × String)) : Bool :=
  match Entries.get? "TTY_COMPATIBLE" environment with
  | some "0" => false
  | some "1" => true
  | _ => (Entries.get? "FORCE_COLOR" environment).any (!·.isEmpty)

/-- The names of terminals of which nothing is known. -/
def unknownTerminals : List String :=
  ["dumb", "unknown"]

/-- Whether the console is said to be a terminal of which nothing is known. -/
def isUnknown (environment : List (String × String)) : Bool :=
  isTerminal environment &&
    (Entries.get? "TERM" environment).any fun name =>
      unknownTerminals.contains (String.ofList (Style.lower name.toList))

/-- The number that a variable of the environment gives, if it consists of digits. -/
def numberIn? (environment : List (String × String)) (name : String) :
    Except Fault (Option Nat) :=
  match Entries.get? name environment with
  | none => .ok none
  | some text =>
    if Number.isDigits text.toList then (Number.read text.toList).map some else .ok none

/-- How wide the console is.  A width of zero says nothing.  The height has no use, but has to be a
number where it consists of digits.  A terminal of which nothing is known is not asked. -/
def widthIn (environment : List (String × String)) : Except Fault Nat := do
  if isUnknown environment then .ok usualWidth
  else
    let width ← numberIn? environment widthVariable
    let _ ← numberIn? environment heightVariable
    .ok (match width with
      | none | some 0 => usualWidth
      | some width => width)

/-- A line with as many blanks left out at its end as it is too long by. -/
def fitLine (width : Nat) (line : List Char) : List Char :=
  let blanks := line.reverse.takeWhile Text.isBlank
  line.take (line.length - min (Text.count line - width) blanks.length)

/-- A text with every line fitted to a width. -/
def fit (width : Nat) (text : String) : String :=
  let lines := (Text.splitAt '\n' text.toList).map (fitLine width)
  "\n".intercalate (lines.map String.ofList)

/-- A text as it is printed on the console of an environment. -/
def print (environment : List (String × String)) (text : String) : Except Fault String := do
  let width ← widthIn environment
  if Text.holdsHalf text.toList then .error .unencodable else .ok (fit width text ++ "\n")

/-- A message, made of a label and some parts, as it is printed on the console of errors, where
every half is written as an escape. -/
def printMessage (environment : List (String × String)) (label : String) (parts : List String) :
    Except Fault String := do
  let shown ← shown false 0 (parts.flatMap fun part => escape part.toList)
  let width ← widthIn environment
  shown.styles.forM fun words => do
    let _ ← Style.read words
  .ok (Text.escapeHalves (fit width (label ++ ": " ++ String.ofList shown.characters) ++ "\n"))

end Checkout.Command.Console
