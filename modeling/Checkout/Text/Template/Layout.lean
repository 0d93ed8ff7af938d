import Checkout.Problem

/-!
# How directives show values

A directive shows one value: as text, as a listing, as a whole number in some base, as a number
with a fraction or a power of ten, or as a single character.  What it shows is filled up to a
width.  The zeros that fill up a number stand behind its sign and the mark of its base.
-/

namespace Checkout.Text.Template

/-- What a directive asks for beside the value. -/
structure Directive where
  flags : List Char
  width : Nat
  precision? : Option Nat
  /-- The code point that says how the value is shown. -/
  kind : Nat
  /-- Where the directive ends in its template. -/
  place : Nat

namespace Directive

/-- The letter that says how the value is shown. -/
def letter (directive : Directive) : Char :=
  Char.ofNat directive.kind

/-- Whether a flag is set. -/
def has (directive : Directive) (flag : Char) : Bool :=
  directive.flags.contains flag

/-! ## Filling -/

/-- A text filled up to the width with blanks, on the right if the flags say so, else on the
left. -/
def fill (directive : Directive) (text : List Char) : List Char :=
  let blanks := List.replicate (directive.width - count text) ' '
  if directive.has '-' then text ++ blanks else blanks ++ text

/-- The sign in front of a number. -/
def sign (directive : Directive) (negative : Bool) : List Char :=
  if negative then ['-']
  else if directive.has '+' then ['+']
  else if directive.has ' ' then [' ']
  else []

/-- A number filled up to the width with blanks, or with zeros in front of its digits. -/
def fillNumber (directive : Directive) (negative : Bool) (mark digits : List Char) : List Char :=
  let front := directive.sign negative ++ mark
  if directive.has '0' && !directive.has '-' then
    front ++ List.replicate (directive.width - front.length - digits.length) '0' ++ digits
  else directive.fill (front ++ digits)

/-- A text cut to the precision. -/
def cut (directive : Directive) (text : List Char) : List Char :=
  match directive.precision? with
  | some number => takePoints number text
  | none => text

/-! ## Whole numbers -/

/-- The mark of a base and the digits in it. -/
def digits (directive : Directive) (magnitude : Nat) : List Char × List Char :=
  match directive.letter with
  | 'x' => (['0', 'x'], Nat.toDigits 16 magnitude)
  | 'X' => (['0', 'X'], (Nat.toDigits 16 magnitude).map Char.toUpper)
  | 'o' => (['0', 'o'], Nat.toDigits 8 magnitude)
  | _ => ([], Numeral.ofNat magnitude)

/-- A whole number with at least as many digits as the precision says. -/
def showWhole (directive : Directive) (number : Int) : List Char :=
  let (mark, digits) := directive.digits number.natAbs
  let zeros := List.replicate (directive.precision?.getD 0 - digits.length) '0'
  directive.fillNumber (number < 0) (if directive.has '#' then mark else []) (zeros ++ digits)

/-! ## Numbers with a fraction -/

/-- The leading digits of a quotient, rounded, and the power of ten of the first of them. -/
def leading (count numerator denominator : Nat) : List Char × Int :=
  if numerator = 0 then (List.replicate count '0', 0)
  else
    let first := Binary.firstPower numerator denominator
    let (upper, lower) := Binary.inTens numerator denominator (first - count + 1)
    let digits := Numeral.ofNat (Decimal.nearest upper lower)
    -- rounding up to a power of ten gains a digit
    (digits.take count, if count < digits.length then first + 1 else first)

/-- The digits of a quotient in front of the point and behind it, of which there are `count`. -/
def fixed (count numerator denominator : Nat) : List Char × List Char :=
  let digits := Numeral.ofNat (Decimal.nearest (numerator * Numeral.tenTo count) denominator)
  let padded := List.replicate (count + 1 - digits.length) '0' ++ digits
  (padded.take (padded.length - count), padded.drop (padded.length - count))

/-- Digits with a point between them; without a fraction the point stands only if it is asked
for. -/
def withPoint (directive : Directive) (whole fraction : List Char) : List Char :=
  if fraction.isEmpty && !directive.has '#' then whole else whole ++ '.' :: fraction

/-- Digits with a point behind the first, and a power of ten. -/
def withPower (directive : Directive) (digits : List Char) (power : Int) : List Char :=
  directive.withPoint (digits.take 1) (digits.drop 1) ++ Binary.writePower power

/-- Digits behind a point without the zeros at their end, unless these are asked for. -/
def trimmed (directive : Directive) (count : Nat) (digits : List Char) : List Char :=
  if directive.has '#' then digits
  else
    digits.take count ++ ((digits.drop count).reverse.dropWhile (· = '0')).reverse

/-- The least power of ten of a first digit that stands by position where the form is chosen. -/
def leastPosition : Int :=
  -4

/-- Leading digits by position, the first of which stands for a power of ten. -/
def byPosition (directive : Directive) (digits : List Char) (first : Int) : List Char :=
  if first < 0 then
    directive.withPoint ['0']
      (List.replicate (-first - 1).toNat '0' ++ directive.trimmed 0 digits)
  else
    let count := first.toNat + 1
    let digits := directive.trimmed count digits
    directive.withPoint (digits.take count) (digits.drop count)

/-- The digits of a magnitude, given as a quotient. -/
def approximateDigits (directive : Directive) (numerator denominator : Nat) : List Char :=
  let precision := directive.precision?.getD 6
  match directive.letter.toLower with
  | 'f' =>
    let (whole, decimals) := fixed precision numerator denominator
    directive.withPoint whole decimals
  | 'e' =>
    let (digits, power) := leading (precision + 1) numerator denominator
    directive.withPower digits power
  | _ =>
    let count := max 1 precision
    let (digits, power) := leading count numerator denominator
    if leastPosition ≤ power ∧ power < count then directive.byPosition digits power
    else directive.withPower (directive.trimmed 1 digits) power

/-- A binary number with a fraction or a power of ten. -/
def showApproximate (directive : Directive) (number : Binary) : List Char :=
  let filled (negative : Bool) (digits : List Char) : List Char :=
    directive.fillNumber negative []
      (if directive.letter.isUpper then digits.map Char.toUpper else digits)
  match number with
  | .finite negative significand power =>
    let (numerator, denominator) := Binary.quotient significand power
    filled negative (directive.approximateDigits numerator denominator)
  | .infinite negative => filled negative "inf".toList
  | .undefined => filled false "nan".toList

/-! ## Values -/

/-- The whole number that a value is. -/
def whole (value : Value) : Except Fault Int :=
  match value.whole? with
  | some number => .ok number
  | none => .error .wrongKind

/-- The whole number that is left of a value when its fraction is cut off. -/
def cutOff : Value → Except Fault Int
  | .fraction (.finite negative significand power) =>
    .ok (Decimal.signed negative (Binary.wholePart significand power))
  | .fraction (.infinite _) => .error .outOfRange
  | .fraction .undefined => .error (.unusable "cannot convert float NaN to integer")
  | value => whole value

/-- The binary number that a value is, or is near to. -/
def approximate : Value → Except Fault Binary
  | .fraction number => .ok number
  | value => do
    match Binary.ofInt (← whole value) with
    | .infinite _ => .error .outOfRange
    | number => .ok number

/-- The code point that a value is, or is the number of. -/
def point : Value → Except Fault Nat
  | .text text =>
    match points text.toList with
    | [point] => .ok point
    | _ => .error .wrongKind
  | value => do
    let number ← whole value
    if 0 ≤ number ∧ number < 0x110000 then .ok number.toNat else .error .outOfRange

/-- A code point as a message about a directive shows it. -/
def shownKind (kind : Nat) : Char :=
  if 31 ≤ kind ∧ kind < 127 then Char.ofNat kind else '?'

/-- The value as the directive shows it. -/
def showValue (directive : Directive) (value : Value) : Except Fault (List Char) :=
  match directive.letter with
  | 's' => .ok (directive.fill (directive.cut value.shown.toList))
  | 'r' => .ok (directive.fill (directive.cut value.listing))
  | 'a' => .ok (directive.fill (directive.cut (Quoted.inAscii value.listing)))
  | 'd' | 'i' | 'u' => do
    .ok (directive.showWhole (← cutOff value))
  | 'x' | 'X' | 'o' => do
    .ok (directive.showWhole (← whole value))
  | 'e' | 'E' | 'f' | 'F' | 'g' | 'G' => do
    .ok (directive.showApproximate (← approximate value))
  | 'c' => do
    .ok (directive.fill (spell (← point value)))
  | _ =>
    .error (.unusable ("unsupported format character '" ++
      String.ofList [shownKind directive.kind] ++
      "' (0x" ++ String.ofList (Nat.toDigits 16 directive.kind) ++ ") at index " ++
      Numeral.text directive.place))

end Directive

end Checkout.Text.Template
