import Checkout.Decimal.Basic

/-!
# Writing decimal numbers

Every digit of a number is written.  The point is placed by position while the power of ten is not
positive and the number is not too small; otherwise one digit stands before the point and the power
of ten is written behind the digits.
-/

namespace Checkout.Decimal

/-- The first digit of a number written by position stands at least for this power of ten. -/
def leastPositional : Int :=
  -6

/-- A power of ten as it stands behind the digits: with its sign always. -/
def writeExponent (exponent : Int) : List Char :=
  'E' :: (if exponent < 0 then '-' else '+') :: Text.Numeral.ofNat exponent.natAbs

/-- The digits with a point behind the first `count` of them.  Where there are none in front of the
point, zeros stand in. -/
def placePoint (digits : List Char) (count : Int) : List Char :=
  if count ≤ 0 then '0' :: '.' :: List.replicate (-count).toNat '0' ++ digits
  else if digits.length ≤ count.toNat then digits
  else digits.take count.toNat ++ '.' :: digits.drop count.toNat

/-- The digits of a finite number without its sign. -/
def writeMagnitude (coefficient : Nat) (exponent : Int) : List Char :=
  let digits := Text.Numeral.ofNat coefficient
  let first := adjusted coefficient exponent
  if exponent ≤ 0 ∧ leastPositional ≤ first then placePoint digits (first + 1)
  else placePoint digits 1 ++ (if first = 0 then [] else writeExponent first)

/-- The characters of a number. -/
def write : Decimal → List Char
  | .finite negative coefficient exponent =>
    (if negative then ['-'] else []) ++ writeMagnitude coefficient exponent
  | .infinite negative => (if negative then ['-'] else []) ++ "Infinity".toList
  | .undefined negative signalling payload =>
    (if negative then ['-'] else []) ++ (if signalling then ['s'] else []) ++ "NaN".toList ++
      (if payload = 0 then [] else Text.Numeral.ofNat payload)

/-- The text of a number. -/
def toText (x : Decimal) : String :=
  String.ofList x.write

end Checkout.Decimal
