import Checkout.Binary.Basic

/-!
# Writing binary numbers

A binary number is written with the fewest decimal digits that are read back as the same number,
and of several such runs with the one that is nearest to it, or the even one.  The digits stand by
position unless the first of them stands for a very large or very small power of ten; a point always
stands between digits or a power of ten behind them.
-/

namespace Checkout.Binary

/-! ## The fewest digits -/

/-- The power of ten of the first digit of a quotient that is not zero. -/
def firstPower (numerator denominator : Nat) : Int :=
  let estimate : Int := Text.Numeral.length numerator - Text.Numeral.length denominator
  let isReached :=
    if estimate < 0 then
      denominator ≤ numerator * Text.Numeral.tenTo (-estimate).toNat
    else denominator * Text.Numeral.tenTo estimate.toNat ≤ numerator
  if isReached then estimate else estimate - 1

/-- A quotient divided by a power of ten, as its numerator and denominator. -/
def inTens (numerator denominator : Nat) (exponent : Int) : Nat × Nat :=
  if exponent < 0 then (numerator * Text.Numeral.tenTo (-exponent).toNat, denominator)
  else (numerator, denominator * Text.Numeral.tenTo exponent.toNat)

/-- Of the two neighbours of a magnitude among the multiples of a power of ten, the nearer one if it
is read back as the magnitude, or else the other if that is.  Of two that are equally near, the even
one counts as the nearer. -/
def neighbour? (significand : Nat) (power exponent : Int) : Option Nat :=
  let (numerator, denominator) := quotient significand power
  let (upper, lower) := inTens numerator denominator exponent
  let below := upper / lower
  let candidates :=
    if Decimal.nearest upper lower = below then [below, below + 1] else [below + 1, below]
  candidates.find? fun coefficient =>
    ofDecimal false coefficient exponent = .finite false significand power

/-- The most decimal digits that are needed. -/
def mostDigits : Nat :=
  17

/-- The shortest coefficient, with its power of ten, that is read back as a magnitude; it has no
more digits than those left. -/
def shortestFrom (significand : Nat) (power first : Int) : Nat → Nat × Int
  | 0 => (0, 0)
  | left + 1 =>
    let exponent := first - (mostDigits - (left + 1) : Nat)
    match neighbour? significand power exponent with
    | some coefficient => (coefficient, exponent)
    | none => shortestFrom significand power first left

/-- The shortest coefficient, with its power of ten, that is read back as a magnitude. -/
def shortest (significand : Nat) (power : Int) : Nat × Int :=
  if significand = 0 then (0, 0)
  else
    let (numerator, denominator) := quotient significand power
    shortestFrom significand power (firstPower numerator denominator) mostDigits

/-! ## Placing the digits -/

/-- Where digits stop to be written by position. -/
structure Positions where
  /-- The least power of ten that the first digit may stand for. -/
  least : Int
  /-- The first power of ten that is too large. -/
  beyond : Int

/-- The positions of a number by itself. -/
def usualPositions : Positions :=
  ⟨-4, 16⟩

/-- A power of ten behind digits, with its sign and at least two digits. -/
def writePower (power : Int) : List Char :=
  let digits := Text.Numeral.ofNat power.natAbs
  'e' :: (if power < 0 then '-' else '+') :: List.replicate (2 - digits.length) '0' ++ digits

/-- Digits by position, the first of which stands for a power of ten. -/
def byPosition (digits : List Char) (first : Int) : List Char :=
  if first < 0 then '0' :: '.' :: List.replicate (-first - 1).toNat '0' ++ digits
  else
    let count := first.toNat + 1
    let whole := digits.take count ++ List.replicate (count - digits.length) '0'
    let decimals := digits.drop count
    whole ++ '.' :: (if decimals.isEmpty then ['0'] else decimals)

/-- Digits with a power of ten behind them. -/
def byPower (digits : List Char) (first : Int) : List Char :=
  let decimals := digits.drop 1
  digits.take 1 ++ (if decimals.isEmpty then [] else '.' :: decimals) ++ writePower first

/-- The digits of a magnitude, placed by their positions or with a power of ten. -/
def writeMagnitude (significand : Nat) (power : Int) : List Char :=
  let (coefficient, exponent) := shortest significand power
  let digits := Text.Numeral.ofNat coefficient
  let first := exponent + digits.length - 1
  -- rounding up to a power of ten leaves zeros at the end
  let kept := (digits.reverse.dropWhile (· = '0')).reverse
  let digits := if kept.isEmpty then ['0'] else kept
  if usualPositions.least ≤ first ∧ first < usualPositions.beyond then byPosition digits first
  else byPower digits first

/-- The characters of a number. -/
def write : Binary → List Char
  | .finite negative significand power =>
    (if negative then ['-'] else []) ++ writeMagnitude significand power
  | .infinite negative => (if negative then ['-'] else []) ++ "inf".toList
  | .undefined => "nan".toList

/-- The characters of a number, with the names of what is not finite written out. -/
def writeNamed : Binary → List Char
  | .infinite negative => (if negative then ['-'] else []) ++ "Infinity".toList
  | .undefined => "NaN".toList
  | number => number.write

end Checkout.Binary
