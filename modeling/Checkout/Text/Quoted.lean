import Checkout.Text.Points
import Checkout.Text.Printable

/-!
# Quoted text

How a text is shown between quotes in a listing.  Single quotes are used unless the text holds a
single quote and no double quote.  A backslash, the quote in use, the three common controls and
every character that is not printable are escaped, the last by its code point in two, four or
eight hexadecimal digits.
-/

namespace Checkout.Text.Quoted

/-- A code point in lower-case hexadecimal digits, filled up with zeros to a width. -/
def hexadecimal (width code : Nat) : List Char :=
  let digits := Nat.toDigits 16 code
  List.replicate (width - digits.length) '0' ++ digits

/-- The quote that goes around a text. -/
def quoteFor (text : List Char) : Char :=
  if text.contains '\'' && !text.contains '"' then '"' else '\''

/-- A code point as an escape. -/
def byCode (point : Nat) : List Char :=
  if point < 0x100 then '\\' :: 'x' :: hexadecimal 2 point
  else if point < 0x10000 then '\\' :: 'u' :: hexadecimal 4 point
  else '\\' :: 'U' :: hexadecimal 8 point

/-- One code point as it stands between quotes. -/
def escape (quote : Char) (point : Nat) : List Char :=
  let c := Char.ofNat point
  if isPaired point then byCode point
  else if c = quote ∨ c = '\\' then ['\\', c]
  else if c = '\t' then ['\\', 't']
  else if c = '\n' then ['\\', 'n']
  else if c = '\r' then ['\\', 'r']
  else if isPrintable c then [c]
  else byCode point

/-- The text between quotes. -/
def encode (text : List Char) : List Char :=
  let quote := quoteFor text
  quote :: (points text).flatMap (escape quote) ++ [quote]

/-- A listing with every character beyond ASCII escaped as well. -/
def inAscii (listing : List Char) : List Char :=
  (points listing).flatMap fun point => if point < 0x80 then [Char.ofNat point] else byCode point

end Checkout.Text.Quoted

/-- The text between quotes, as listings show it. -/
def Checkout.Text.quoted (text : String) : String :=
  String.ofList (Quoted.encode text.toList)
