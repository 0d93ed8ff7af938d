import Checkout.Decimal.Basic
import Checkout.Text.Blank

/-!
# Reading decimal numbers

A plain literal is an optional sign, ASCII digits with an optional point (at least one digit before
or after it) and an optional exponent of ten.  Its digits are kept: reading never rounds, and only
an exponent beyond the range that a number can carry at all is refused.

Amounts handed over as free text may also be padded with blanks, grouped with underscores, written
with the digits of another script, or name an infinity or an undefined result.
-/

namespace Checkout.Decimal

/-- A finite literal as written: sign, coefficient and power of ten. -/
structure Literal where
  negative : Bool
  coefficient : Nat
  exponent : Int
  /-- How many of the digits stand behind the point. -/
  decimals : Nat := 0
  deriving DecidableEq

namespace Literal

/-- The sign that a text starts with, and the rest of the text. -/
def takeSign : List Char → Bool × List Char
  | '-' :: rest => (true, rest)
  | '+' :: rest => (false, rest)
  | text => (false, text)

/-- The exponent of ten behind the digits of a literal; none written is the exponent zero. -/
def readExponent? : List Char → Option Int
  | [] => some 0
  | mark :: rest =>
    if mark = 'e' ∨ mark = 'E' then
      let (negative, digits) := takeSign rest
      if Text.Numeral.isDigits digits then
        let magnitude : Int := Text.Numeral.value digits
        some (if negative then -magnitude else magnitude)
      else none
    else none

/-- The digits behind the point of a literal, and the rest of the text.  Without a point there are
none. -/
def takeFraction : List Char → List Char × List Char
  | '.' :: rest => (rest.takeWhile Char.isDigit, rest.dropWhile Char.isDigit)
  | text => ([], text)

/-- The literal that a text is, if it is one. -/
def read? (text : List Char) : Option Literal :=
  let (negative, unsigned) := takeSign text
  let whole := unsigned.takeWhile Char.isDigit
  let (fraction, rest) := takeFraction (unsigned.dropWhile Char.isDigit)
  if whole.isEmpty && fraction.isEmpty then none
  else
    (readExponent? rest).map fun exponent =>
      { negative, coefficient := Text.Numeral.value (whole ++ fraction),
        exponent := exponent - fraction.length, decimals := fraction.length }

/-- The largest power of ten that the first digit of any number can stand for. -/
def topExponent : Int :=
  999_999_999_999_999_999

/-- The smallest power of ten that the last digit of any number can stand for. -/
def leastExponent : Int :=
  -1_999_999_999_999_999_997

/-- Whether a number can carry the power of ten of the literal.  There is no limit to the digits
behind a point, so a power that only counts them can always be carried. -/
def inRange (literal : Literal) : Bool :=
  (leastExponent ≤ literal.exponent || literal.exponent = -literal.decimals) &&
    (if literal.coefficient = 0 then literal.exponent ≤ topExponent
     else adjusted literal.coefficient literal.exponent ≤ topExponent)

/-- The number that a literal writes, if it can be carried. -/
def toDecimal? (literal : Literal) : Option Decimal :=
  if literal.inRange then
    some (.finite literal.negative literal.coefficient literal.exponent)
  else none

end Literal

/-- The text in lower case, for texts of ASCII letters. -/
def lowerAscii (text : List Char) : List Char :=
  text.map Char.toLower

/-- The text with ASCII digits for those of other scripts and without underscores, if nothing else
beyond ASCII stands in it. -/
def plainText? : List Char → Option (List Char)
  | [] => some []
  | c :: rest =>
    if c = '_' then plainText? rest
    else if c.toNat = 0 then none
    else if c.toNat < 0x80 then (plainText? rest).map (c :: ·)
    else if Text.isBlank c then (plainText? rest).map (' ' :: ·)
    else
      match Text.Numeral.asciiDigit? c with
      | some digit => (plainText? rest).map (digit :: ·)
      | none => none

/-- The infinity or undefined result that a text names.  The digits behind the name of an undefined
result are its payload. -/
def readSpecial? (text : List Char) : Option Decimal :=
  let (negative, unsigned) := Literal.takeSign text
  let name := lowerAscii unsigned
  let payload? (digits : List Char) : Option Nat :=
    if digits.all Char.isDigit then some (Text.Numeral.value digits) else none
  if name = "inf".toList ∨ name = "infinity".toList then some (.infinite negative)
  else if name.take 3 = "nan".toList then
    (payload? (name.drop 3)).map (.undefined negative false)
  else if name.take 4 = "snan".toList then
    (payload? (name.drop 4)).map (.undefined negative true)
  else none

/-- The number that a free text stands for, with all its digits. -/
def ofText (text : List Char) : Except Failure Decimal :=
  let number? := do
    let plain ← plainText? (Text.trim text)
    match readSpecial? plain with
    | some special => some special
    | none => (← Literal.read? plain).toDecimal?
  match number? with
  | some number => .ok number
  | none => .error .invalidOperation

end Checkout.Decimal
