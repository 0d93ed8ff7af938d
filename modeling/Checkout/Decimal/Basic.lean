import Checkout.Text.Numeral

/-!
# Decimal numbers

A finite decimal number is a sign, a whole coefficient and a power of ten.  The power of ten is
part of the number: `1.0` and `1.00` are equal in value and still different numbers, and there are
two zeros for every power.  Beside the finite numbers stand the two infinities and the
undefined results, which carry a payload and may be marked as signalling.

Arithmetic works to twenty-eight digits.  A result that needs more is rounded, and what can not be
rounded into the working range fails with a cause.
-/

namespace Checkout

/-- A decimal number, an infinity or an undefined result. -/
inductive Decimal
  | finite (negative : Bool) (coefficient : Nat) (exponent : Int)
  | infinite (negative : Bool)
  | undefined (negative signalling : Bool) (payload : Nat)
  deriving DecidableEq

namespace Decimal

/-- Why an operation on decimal numbers has no result. -/
inductive Failure
  /-- The operands do not determine a number of the working precision. -/
  | invalidOperation
  /-- The result is larger than the working range allows. -/
  | overflow
  deriving DecidableEq

/-- The number of digits that results are worked out to. -/
def precision : Nat :=
  28

/-- The largest power of ten that a first digit of a result may stand for. -/
def topExponent : Int :=
  999999

/-- The smallest power of ten that a first digit of a result of full precision may stand for. -/
def bottomExponent : Int :=
  -999999

/-- The smallest power of ten that a last digit of a result may stand for. -/
def leastExponent : Int :=
  bottomExponent - (precision - 1 : Nat)

/-- A whole number, as a decimal number without decimals. -/
def ofInt (n : Int) : Decimal :=
  .finite (n < 0) n.natAbs 0

/-- Zero with two decimals. -/
def zeroCents : Decimal :=
  .finite false 0 (-2)

def isFinite : Decimal → Bool
  | .finite _ _ _ => true
  | _ => false

/-- The power of ten of a finite number. -/
def exponent? : Decimal → Option Int
  | .finite _ _ exponent => some exponent
  | _ => none

/-- The power of ten that the first of a coefficient's digits stands for. -/
def adjusted (coefficient : Nat) (exponent : Int) : Int :=
  exponent + (Text.Numeral.length coefficient : Int) - 1

/-- The number with its sign removed. -/
def abs : Decimal → Decimal
  | .finite _ coefficient exponent => .finite false coefficient exponent
  | .infinite _ => .infinite false
  | .undefined _ signalling payload => .undefined false signalling payload

/-- The number with the opposite sign. -/
def negate : Decimal → Decimal
  | .finite negative coefficient exponent => .finite (!negative) coefficient exponent
  | .infinite negative => .infinite (!negative)
  | .undefined negative signalling payload => .undefined (!negative) signalling payload

/-- The whole number that is left when the decimals are cut off; zero for what is not finite. -/
def truncate : Decimal → Int
  | .finite negative coefficient exponent =>
    let whole :=
      if 0 ≤ exponent then coefficient * Text.Numeral.tenTo exponent.toNat
      else coefficient / Text.Numeral.tenTo (-exponent).toNat
    if negative then -(whole : Int) else whole
  | _ => 0

end Decimal

end Checkout
