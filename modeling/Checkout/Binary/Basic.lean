import Checkout.Decimal.Arithmetic
import Checkout.Decimal.Literal

/-!
# Binary numbers

A finite binary number is a sign, a significand of at most fifty-three binary digits and a power of
two.  The significand has its full length unless the power is the least one, so every number is
written in one way, but for the two zeros.  Beside the finite numbers stand the two infinities and
the undefined result.

An exact quotient is rounded to the nearest number, a tie to the even significand, and what is too
large becomes infinite.
-/

namespace Checkout

/-- A binary number, an infinity or an undefined result. -/
inductive Binary
  | finite (negative : Bool) (significand : Nat) (power : Int)
  | infinite (negative : Bool)
  | undefined
  deriving DecidableEq

namespace Binary

/-- The number of binary digits of a significand. -/
def precision : Nat :=
  53

/-- The least power of two. -/
def leastPower : Int :=
  -1074

/-- The largest power of two. -/
def topPower : Int :=
  971

/-- Zero with a sign. -/
def zero (negative : Bool) : Binary :=
  .finite negative 0 leastPower

/-- A quotient divided by a power of two, as its numerator and denominator. -/
def scaled (numerator denominator : Nat) (power : Int) : Nat × Nat :=
  if power < 0 then (numerator <<< (-power).toNat, denominator)
  else (numerator, denominator <<< power.toNat)

/-- The power of two that leaves a significand of the full length of a quotient, or the least. -/
def powerFor (numerator denominator : Nat) : Int :=
  let estimate : Int := numerator.log2 - denominator.log2 - precision
  let (upper, lower) := scaled numerator denominator estimate
  max leastPower (if 1 <<< precision ≤ upper / lower then estimate + 1 else estimate)

/-- The number with a significand that rounding may have made one digit longer. -/
def fit (negative : Bool) (significand : Nat) (power : Int) : Binary :=
  let (significand, power) :=
    if significand = 1 <<< precision then (1 <<< (precision - 1), power + 1)
    else (significand, power)
  if topPower < power then .infinite negative else .finite negative significand power

/-- The number nearest to a quotient. -/
def ofQuotient (negative : Bool) (numerator denominator : Nat) : Binary :=
  if numerator = 0 then zero negative
  else
    let power := powerFor numerator denominator
    let (upper, lower) := scaled numerator denominator power
    fit negative (Decimal.nearest upper lower) power

/-- The magnitude of a significand with a power of two, as a numerator and denominator. -/
def quotient (significand : Nat) (power : Int) : Nat × Nat :=
  if power < 0 then (significand, 1 <<< (-power).toNat) else (significand <<< power.toNat, 1)

/-- The number nearest to a whole number. -/
def ofInt (number : Int) : Binary :=
  ofQuotient (number < 0) number.natAbs 1

/-- A power of ten that no finite number reaches with its first digit. -/
def beyondTen : Int :=
  310

/-- A power of ten of a first digit that makes a number less than half of the least one. -/
def belowTen : Int :=
  -330

/-- The number nearest to a coefficient with a power of ten. -/
def ofDecimal (negative : Bool) (coefficient : Nat) (exponent : Int) : Binary :=
  let first := Decimal.adjusted coefficient exponent
  if coefficient = 0 ∨ first < belowTen then zero negative
  else if beyondTen < first then .infinite negative
  else if exponent < 0 then
    ofQuotient negative coefficient (Text.Numeral.tenTo (-exponent).toNat)
  else ofQuotient negative (coefficient * Text.Numeral.tenTo exponent.toNat) 1

/-- The number nearest to a plain decimal literal, if the text is one. -/
def read? (text : List Char) : Option Binary :=
  (Decimal.Literal.read? text).map fun literal =>
    ofDecimal literal.negative literal.coefficient literal.exponent

/-- Whether the number is zero. -/
def isZero : Binary → Bool
  | .finite _ significand _ => significand = 0
  | _ => false

/-- The number with the opposite sign. -/
def negate : Binary → Binary
  | .finite negative significand power => .finite (!negative) significand power
  | .infinite negative => .infinite (!negative)
  | .undefined => .undefined

/-- The whole number that is left of a magnitude when its fraction is cut off. -/
def wholePart (significand : Nat) (power : Int) : Nat :=
  if power < 0 then significand >>> (-power).toNat else significand <<< power.toNat

/-- Whether a magnitude has no fraction. -/
def isWhole (significand : Nat) (power : Int) : Bool :=
  0 ≤ power || significand % (1 <<< (-power).toNat) == 0

/-- The whole number that a number is equal to, if it is equal to one. -/
def whole? : Binary → Option Int
  | .finite negative significand power =>
    if isWhole significand power then
      some (if negative then -(wholePart significand power : Int) else wholePart significand power)
    else none
  | _ => none

/-- Whether two numbers are equal in value; the undefined result is equal to nothing. -/
def same : Binary → Binary → Bool
  | .undefined, _ => false
  | .finite n s p, .finite m t q => s == t && p == q && (n == m || s == 0)
  | first, second => first == second

/-- The decimal number of the same value. -/
def toDecimal : Binary → Decimal
  | .finite negative significand power =>
    if isWhole significand power then .finite negative (wholePart significand power) 0
    else
      -- a fraction is shortened before its denominator is made a power of ten
      let twos := (List.range (-power).toNat).find? fun count =>
        (significand >>> count) % 2 == 1
      let shift := twos.getD 0
      let places := (-power).toNat - shift
      .finite negative ((significand >>> shift) * Nat.pow 5 places) (-(places : Int))
  | .infinite negative => .infinite negative
  | .undefined => .undefined false false 0

/-! ## Arithmetic -/

/-- The product of two numbers. -/
def mul : Binary → Binary → Binary
  | .finite n s p, .finite m t q =>
    let (upper, lower) := quotient (s * t) (p + q)
    ofQuotient (n != m) upper lower
  | .infinite n, .finite m t _ => if t = 0 then .undefined else .infinite (n != m)
  | .finite n s _, .infinite m => if s = 0 then .undefined else .infinite (n != m)
  | .infinite n, .infinite m => .infinite (n != m)
  | _, _ => .undefined

/-- The sum of two numbers.  A sum of zero is negative only if both numbers are. -/
def add : Binary → Binary → Binary
  | .finite n s p, .finite m t q =>
    let power := min p q
    let total :=
      Decimal.signed n (s <<< (p - power).toNat) + Decimal.signed m (t <<< (q - power).toNat)
    let (upper, lower) := quotient total.natAbs power
    ofQuotient (if total = 0 then n && m else total < 0) upper lower
  | .infinite n, .infinite m => if n = m then .infinite n else .undefined
  | .infinite n, .finite _ _ _ => .infinite n
  | .finite _ _ _, .infinite m => .infinite m
  | _, _ => .undefined

end Binary

end Checkout
