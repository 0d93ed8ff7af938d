import Checkout.Problem

/-!
# Numbers from outside

A text from outside that consists of digits is taken for a whole number.  Digits of any script
count, but so do raised and circled ones, which write no number: such a text is a fault, and so is
one with too many digits.
-/

namespace Checkout.Command.Number

/-- The ranges of the digits of Unicode 14 that no number is written with. -/
def ornamentalRanges : List (Nat × Nat) :=
  [(0xB2, 0xB3), (0xB9, 0xB9), (0x1369, 0x1371), (0x19DA, 0x19DA), (0x2070, 0x2070),
   (0x2074, 0x2079), (0x2080, 0x2089), (0x2460, 0x2468), (0x2474, 0x247C), (0x2488, 0x2490),
   (0x24EA, 0x24EA), (0x24F5, 0x24FD), (0x24FF, 0x24FF), (0x2776, 0x277E), (0x2780, 0x2788),
   (0x278A, 0x2792), (0x10A40, 0x10A43), (0x10E60, 0x10E68), (0x11052, 0x1105A),
   (0x1F100, 0x1F10A)]

/-- Whether a character is a digit that no number is written with. -/
def isOrnamental (c : Char) : Bool :=
  ornamentalRanges.any fun range => range.1 ≤ c.toNat && c.toNat ≤ range.2

/-- Whether a character is a digit that numbers are written with. -/
def isDecimal (c : Char) : Bool :=
  (Text.Numeral.asciiDigit? c).isSome

/-- Whether a text is one or more digits. -/
def isDigits (text : List Char) : Bool :=
  !text.isEmpty && text.all fun c => isDecimal c || isOrnamental c

/-- The whole number that a text writes in decimal digits. -/
def read (text : List Char) : Except Fault Nat :=
  let start := text.takeWhile isDecimal
  if Text.Numeral.maxLength < start.length then .error (.tooLong start.length)
  else
    match text.mapM Text.Numeral.asciiDigit? with
    | some (digit :: digits) => .ok (Text.Numeral.value (digit :: digits))
    | _ => .error (.noNumber 10 (String.ofList text))

end Checkout.Command.Number
