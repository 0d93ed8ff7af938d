import Checkout.Text.Template.Layout

/-!
# Templates with percent signs

A template is a text with directives: a percent sign, optionally a name in parentheses, flags, a
width, a precision and the size of a number, which says nothing, and a letter that says how a value
is shown.  Values are taken by name, or one after another; a star in place of the width or the
precision takes a value as well.  Two percent signs stand for one.
-/

namespace Checkout.Text.Template

/-! ## Values -/

/-- Where the values of a template come from. -/
inductive Arguments
  /-- Values that are taken one after another and have all to be used. -/
  | listed (values : List Value)
  /-- Values that are taken by name.  The one that was named last waits to be taken; before any is
  named, all of them wait together. -/
  | named (values : Mapping) (waiting : Option Value)
  /-- A value without names that need not be used. -/
  | spare (waiting : Option Value)

namespace Arguments

/-- Values with names. -/
def ofMapping (values : Mapping) : Arguments :=
  .named values (some (.mapping values))

/-- The next value, and the arguments after it is taken. -/
def take : Arguments → Except Fault (Value × Arguments)
  | .listed (value :: rest) => .ok (value, .listed rest)
  | .named values (some value) => .ok (value, .named values none)
  | .spare (some value) => .ok (value, .spare none)
  | _ => .error .wrongKind

/-- The arguments with the value of a name waiting. -/
def select (values : Mapping) (name : String) : Except Fault Arguments :=
  match Mapping.get? name values with
  | some value => .ok (.named values (some value))
  | none => .error (.unknownName name)

/-- Whether a value is left that has to be used. -/
def isUnused : Arguments → Bool
  | .listed values => !values.isEmpty
  | _ => false

end Arguments

/-! ## Reading -/

/-- What is left of a template and of its arguments. -/
structure Position where
  text : List Char
  arguments : Arguments

/-- The fault of a template that ends inside a directive. -/
def incomplete : Fault :=
  .unusable "incomplete format"

/-- The name up to its closing parenthesis, where parentheses may be nested, and the rest. -/
def takeName? (depth : Nat) : List Char → Option (List Char × List Char)
  | [] => none
  | c :: rest =>
    if c = ')' then
      match depth with
      | 0 => some ([], rest)
      | depth + 1 => (takeName? depth rest).map fun (name, rest) => (c :: name, rest)
    else
      (takeName? (if c = '(' then depth + 1 else depth) rest).map fun (name, rest) =>
        (c :: name, rest)

/-- The position behind the name of a directive, if it has one. -/
def readName (position : Position) : Except Fault Position :=
  match position.text with
  | '(' :: rest =>
    match position.arguments with
    | .listed _ => .error .wrongKind
    | .named values _ =>
      match takeName? 0 rest with
      | none => .error (.unusable "incomplete format key")
      | some (name, rest) => do .ok ⟨rest, ← Arguments.select values (String.ofList name)⟩
    | .spare _ =>
      if (takeName? 0 rest).isNone then .error (.unusable "incomplete format key")
      else .error .wrongKind
  | _ => .ok position

/-- The range of a width or precision, and what is told about one that is too large. -/
structure Bounds where
  least : Int
  most : Int
  message : String

/-- The bounds of widths: what fits 64 binary digits. -/
def widthBounds : Bounds :=
  ⟨-9_223_372_036_854_775_808, 9_223_372_036_854_775_807, "width too big"⟩

/-- The bounds of precisions: what fits 32 binary digits. -/
def precisionBounds : Bounds :=
  ⟨-2_147_483_648, 2_147_483_647, "precision too big"⟩

/-- A width or precision as digits or as a star, if there is one, and the position behind it. -/
def readSize (bounds : Bounds) (position : Position) : Except Fault (Option Int × Position) :=
  match position.text with
  | '*' :: rest => do
    let (value, arguments) ← position.arguments.take
    let size ← Directive.whole value
    if bounds.least ≤ size ∧ size ≤ bounds.most then .ok (some size, ⟨rest, arguments⟩)
    else .error .outOfRange
  | text =>
    let digits := text.takeWhile Char.isDigit
    let size := Numeral.value digits
    if digits.isEmpty then .ok (none, position)
    else if bounds.most < size then .error (.unusable bounds.message)
    else .ok (some size, { position with text := text.drop digits.length })

/-- A precision behind its point, if there is one, and the position behind it.  A point alone asks
for a precision of zero. -/
def readPrecision (position : Position) : Except Fault (Option Nat × Position) :=
  match position.text with
  | '.' :: rest => do
    let (size, position) ← readSize precisionBounds { position with text := rest }
    .ok (some (size.getD 0).toNat, position)
  | _ => .ok (none, position)

/-- The characters that are flags. -/
def flagCharacters : List Char :=
  ['-', '+', ' ', '#', '0']

/-- The characters that tell the size of a number. -/
def sizeCharacters : List Char :=
  ['h', 'l', 'L']

/-- The text without the size of a number. -/
def skipSize : List Char → List Char
  | c :: rest => if sizeCharacters.contains c then rest else c :: rest
  | [] => []

/-- What the directive behind a percent sign shows, and the position behind it.  The template has a
length, by which places in it are told. -/
def readDirective (length : Nat) (position : Position) : Except Fault (List Char × Position) := do
  let named ← readName position
  let flags := named.text.takeWhile flagCharacters.contains
  let (width, sized) ← readSize widthBounds { named with text := named.text.drop flags.length }
  let (precision?, precise) ← readPrecision sized
  match firstPoint? (skipSize precise.text) with
  | none => .error incomplete
  | some (kind, rest) => do
    let (value, arguments) ← precise.arguments.take
    let size := width.getD 0
    let directive : Directive :=
      { flags := if size < 0 then '-' :: flags else flags,
        width := size.natAbs, precision?, kind, place := length - count rest - 1 }
    .ok (← directive.showValue value, ⟨rest, arguments⟩)

/-- The text of what is left of a template.  Every step takes at least one character. -/
def renderFrom (fuel length : Nat) (position : Position) : Except Fault (List Char) :=
  match fuel, position.text with
  | _, [] => if position.arguments.isUnused then .error .wrongKind else .ok []
  | 0, _ => .error incomplete
  | fuel + 1, '%' :: '%' :: rest => do
    .ok ('%' :: (← renderFrom fuel length { position with text := rest }))
  | fuel + 1, '%' :: rest => do
    let (shown, next) ← readDirective length { position with text := rest }
    .ok (shown ++ (← renderFrom fuel length next))
  | fuel + 1, c :: rest => do
    .ok (c :: (← renderFrom fuel length { position with text := rest }))

/-- The text of a template with its values. -/
def render (template : String) (arguments : Arguments) : Except Fault String := do
  let text := template.toList
  .ok (String.ofList (← renderFrom text.length (count text) ⟨text, arguments⟩))

end Checkout.Text.Template
