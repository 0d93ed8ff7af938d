import Checkout.Text.Case.Mapping
import Checkout.Text.Case.Context

/-!
# Upper case and capitalised words

Full case mapping: a letter may become several letters, and the lower-case form of a capital sigma
depends on the word around it.  Upper-casing looks at one letter at a time, so it distributes over
concatenation; capitalising a word puts its first letter into title case and the rest into lower
case.
-/

namespace Checkout.Text.Case

/-- The image of a code point: its special entry, else its run, else itself. -/
def image (specials : List (Nat × List Nat)) (runs : List Run) (code : Nat) : List Nat :=
  match specials.lookup code with
  | some codes => codes
  | none => [(runs.findSome? (·.image? code)).getD code]

/-- The upper-case form of a letter. -/
def upperChar (c : Char) : List Char :=
  (image upperSpecials upperRuns c.toNat).map Char.ofNat

/-- The lower-case form of a letter, without regard to its word. -/
def lowerChar (c : Char) : List Char :=
  (image lowerSpecials lowerRuns c.toNat).map Char.ofNat

/-- The title-case form of a letter. -/
def titleChar (c : Char) : List Char :=
  match titleExceptions.lookup c.toNat with
  | some codes => codes.map Char.ofNat
  | none => upperChar c

/-- The upper-case form of a text. -/
def upper (text : List Char) : List Char :=
  text.flatMap upperChar

/-- Whether a capital sigma with `before` in front of it, nearest character first, and `after`
behind it ends a word: a letter stands before it and none after it. -/
def endsWord (before after : List Char) : Bool :=
  (before.dropWhile isIgnorable).head?.any isCased &&
    !(after.dropWhile isIgnorable).head?.any isCased

/-- The lower-case form of the text that follows `before`, given nearest character first. -/
def lowerAfter (before : List Char) : List Char → List Char
  | [] => []
  | c :: rest =>
    let form := if c = 'Σ' then (if endsWord before rest then ['ς'] else ['σ']) else lowerChar c
    form ++ lowerAfter (c :: before) rest

/-- The word with its first letter in title case and the others in lower case. -/
def capitalize : List Char → List Char
  | [] => []
  | c :: rest => titleChar c ++ lowerAfter [c] rest

@[simp]
theorem upper_nil : upper [] = [] :=
  rfl

@[simp]
theorem upper_cons (c : Char) (rest : List Char) : upper (c :: rest) = upperChar c ++ upper rest :=
  rfl

end Checkout.Text.Case
