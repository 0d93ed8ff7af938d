import Checkout.Binary.Printer
import Checkout.Unreadable
import Checkout.Value

/-!
# Numbers of plain scalars

A plain scalar writes a whole number in decimal, binary, octal or hexadecimal digits, or a number
with a fraction, which is read to the nearest binary number.  Underscores may group digits.  Either
kind may also be written with sixties as its base, its digits between colons.
-/

namespace Checkout.Yaml

/-- The value of a hexadecimal digit. -/
def hexadecimalDigit? (c : Char) : Option Nat :=
  if c.isDigit then some (c.toNat - '0'.toNat)
  else if 'a' ≤ c ∧ c ≤ 'f' then some (c.toNat - 'a'.toNat + 10)
  else if 'A' ≤ c ∧ c ≤ 'F' then some (c.toNat - 'A'.toNat + 10)
  else none

/-- Whether a character may stand behind the first digit of a number. -/
def isGrouped (c : Char) : Bool :=
  c.isDigit || c = '_'

/-- Digits without the underscores that group them. -/
def ungroup (text : List Char) : List Char :=
  text.filter (· ≠ '_')

/-- The digits of a number, which underscores may group, if there is nothing else. -/
def digits? (isDigit : Char → Bool) (text : List Char) : Option (List Char) :=
  if text.all fun c => isDigit c || c = '_' then some (ungroup text) else none

/-- Whether a text is a digit to the base sixty. -/
def isSixtieth : List Char → Bool
  | [c] => c.isDigit
  | [c, d] => '0' ≤ c && c ≤ '5' && d.isDigit
  | _ => false

/-- The first digits of a number to the base sixty and the digits behind its colons, if the text has
colons. -/
def sixties? (text : List Char) : Option (List Char × List (List Char)) :=
  match text.splitOn ':' with
  | first :: second :: others => some (first, second :: others)
  | _ => none

/-! ## Whole numbers -/

/-- The value of digits to a base, of which there has to be one. -/
def valueOf (base : Nat) (digits : List Char) : Except Unreadable Nat :=
  if digits.isEmpty then .error (.noDigits base)
  else .ok (digits.foldl (fun value c => base * value + (hexadecimalDigit? c).getD 0) 0)

/-- The value of decimal digits, of which there may not be too many. -/
def decimalValue (digits : List Char) : Except Unreadable Nat :=
  match Text.Numeral.bounded? digits with
  | some value => .ok value
  | none => .error (.tooLong digits.length)

/-- The value of a whole number to the base sixty, whose first digit is not zero. -/
def sixtyfold? (text : List Char) : Option (Except Unreadable Nat) :=
  match sixties? text with
  | some (first, others) =>
    if first.all isGrouped && others.all isSixtieth then
      some ((decimalValue (ungroup first)).map fun start =>
        others.foldl (fun value digit => 60 * value + Text.Numeral.value digit) start)
    else none
  | none => none

/-- The magnitude of a whole number: binary behind `0b`, hexadecimal behind `0x`, octal behind
another zero, else decimal or to the base sixty. -/
def magnitude? (text : List Char) : Option (Except Unreadable Nat) :=
  match text with
  | '0' :: 'b' :: rest =>
    if rest.isEmpty then none
    else (digits? (fun c => c = '0' || c = '1') rest).map (valueOf 2)
  | '0' :: 'x' :: rest =>
    if rest.isEmpty then none
    else (digits? (fun c => (hexadecimalDigit? c).isSome) rest).map (valueOf 16)
  | '0' :: _ => (digits? (fun c => '0' ≤ c && c ≤ '7') text).map (valueOf 8)
  | c :: rest =>
    if c.isDigit then
      match digits? Char.isDigit rest with
      | some others => some (decimalValue (c :: others))
      | none => sixtyfold? text
    else none
  | [] => none

/-- The whole number that a plain scalar writes, if it writes one. -/
def whole? (text : List Char) : Option (Except Unreadable Value) :=
  let (negative, unsigned) := Decimal.Literal.takeSign text
  (magnitude? unsigned).map fun magnitude =>
    magnitude.map fun (value : Nat) => .whole (if negative then -(value : Int) else value)

/-! ## Numbers with a fraction -/

/-- Whether a text is a power of ten behind a number, which has a sign, or empty. -/
def isPower : List Char → Bool
  | [] => true
  | c :: sign :: digits =>
    (c = 'e' || c = 'E') && (sign = '+' || sign = '-') && Text.Numeral.isDigits digits
  | _ => false

/-- Whether a text is digits, a point, more digits and a power of ten.  With nothing in front of the
point there is no sign, and a digit behind it. -/
def isPointed (signed : Bool) (text : List Char) : Bool :=
  let whole := text.takeWhile isGrouped
  match text.dropWhile isGrouped with
  | '.' :: rest =>
    let starts :=
      match whole with
      | c :: _ => c.isDigit
      | [] => !signed && rest.head?.any Char.isDigit
    starts && isPower (rest.dropWhile isGrouped)
  | _ => false

/-- The first power of sixty that no binary number is near to. -/
def sixtiesLimit : Nat :=
  174

/-- The value of a number to the base sixty, its last digit first, put together from that end.
Every digit is rounded, and so is every sum. -/
def sixtyfoldSum (total : Binary) (base : Nat) : List (List Char) → Binary
  | [] => total
  | digit :: rest =>
    let part := ((Binary.read? digit).getD .undefined).mul (.ofInt base)
    sixtyfoldSum (total.add part) (60 * base) rest

/-- The value of a number to the base sixty whose last digit has a fraction. -/
def sixtyfoldFraction? (text : List Char) : Option (Except Unreadable Binary) :=
  match sixties? (text.takeWhile (· ≠ '.')) with
  | some (first, others) =>
    let decimals := text.dropWhile (· ≠ '.')
    let isNumber :=
      first.head?.any Char.isDigit && first.all isGrouped && others.all isSixtieth &&
        decimals.head? == some '.' && (decimals.drop 1).all isGrouped
    if !isNumber then none
    else if sixtiesLimit ≤ others.length then some (.error .outOfRange)
    else
      let digits := ((ungroup text).splitOn ':').reverse
      some (.ok (sixtyfoldSum (Binary.zero false) 1 digits))
  | none => none

/-- The magnitude of a number with a fraction, of which infinity counts as one. -/
def fractionMagnitude? (signed : Bool) (text : List Char) : Option (Except Unreadable Binary) :=
  if [".inf", ".Inf", ".INF"].contains (String.ofList text) then some (.ok (.infinite false))
  else if isPointed signed text then (Binary.read? (ungroup text)).map .ok
  else sixtyfoldFraction? text

/-- The number with a fraction that a plain scalar writes, if it writes one. -/
def fraction? (text : List Char) : Option (Except Unreadable Value) :=
  if [".nan", ".NaN", ".NAN"].contains (String.ofList text) then some (.ok (.fraction .undefined))
  else
    let (negative, unsigned) := Decimal.Literal.takeSign text
    (fractionMagnitude? (unsigned.length ≠ text.length) unsigned).map fun magnitude =>
      magnitude.map fun value => .fraction (if negative then value.negate else value)

end Checkout.Yaml
