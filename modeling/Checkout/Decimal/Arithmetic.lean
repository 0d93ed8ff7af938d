import Checkout.Decimal.Rounding

/-!
# Sums, products and fixed places

Every operation works out its exact result and fits that into the working range.  Fixing the
places of a number is the exception: it rounds to the wanted power of ten and fails where the
result needs more digits than the precision allows.
-/

namespace Checkout.Decimal

open Text.Numeral (tenTo)

/-- A coefficient with a sign, as a whole number. -/
def signed (negative : Bool) (coefficient : Nat) : Int :=
  if negative then -(coefficient : Int) else coefficient

/-- The exact sum of two finite numbers.  A sum of zero is negative only if both numbers are. -/
def exactSum (firstNegative : Bool) (first : Nat) (firstExponent : Int)
    (secondNegative : Bool) (second : Nat) (secondExponent : Int) : Bool × Nat × Int :=
  let exponent := min firstExponent secondExponent
  let total :=
    signed firstNegative (first * tenTo (firstExponent - exponent).toNat) +
      signed secondNegative (second * tenTo (secondExponent - exponent).toNat)
  let negative := if total = 0 then firstNegative && secondNegative else total < 0
  (negative, total.natAbs, exponent)

/-- The power of ten below which a summand can no longer reach the digits of a sum whose larger
summand is given. -/
def reach (coefficient : Nat) (exponent : Int) : Int :=
  let digits := Text.Numeral.length coefficient
  exponent - 1 + (if precision < digits then 0 else (digits : Int) - precision - 1)

/-- The sum of two finite numbers, of which the first has the larger power of ten.  A second number
out of reach only tells on which side of the first the sum lies. -/
def addAligned (firstNegative : Bool) (first : Nat) (firstExponent : Int)
    (secondNegative : Bool) (second : Nat) (secondExponent : Int) : Except Failure Decimal :=
  if first = 0 then
    let negative := if second = 0 then firstNegative && secondNegative else secondNegative
    fit negative second secondExponent
  else
    let (second, secondExponent) :=
      if adjusted second secondExponent < reach first firstExponent then
        (min second 1, reach first firstExponent)
      else (second, secondExponent)
    let (negative, coefficient, exponent) :=
      exactSum firstNegative first firstExponent secondNegative second secondExponent
    fit negative coefficient exponent

/-- The sum of two finite numbers. -/
def addFinite (firstNegative : Bool) (first : Nat) (firstExponent : Int)
    (secondNegative : Bool) (second : Nat) (secondExponent : Int) : Except Failure Decimal :=
  if firstExponent = secondExponent then
    let (negative, coefficient, exponent) :=
      exactSum firstNegative first firstExponent secondNegative second secondExponent
    fit negative coefficient exponent
  else if secondExponent < firstExponent then
    addAligned firstNegative first firstExponent secondNegative second secondExponent
  else
    addAligned secondNegative second secondExponent firstNegative first firstExponent

/-- The sum of two numbers. -/
def add (x y : Decimal) : Except Failure Decimal :=
  match undefinedOperand? x y with
  | some result => result
  | none =>
    match x, y with
    | .finite n c e, .finite m d f => addFinite n c e m d f
    | .infinite n, .infinite m => if n = m then .ok (.infinite n) else .error .invalidOperation
    | .infinite n, _ => .ok (.infinite n)
    | _, .infinite m => .ok (.infinite m)
    | _, _ => .error .invalidOperation

/-- The difference of two numbers. -/
def sub (x y : Decimal) : Except Failure Decimal :=
  match undefinedOperand? x y with
  | some result => result
  | none => add x y.negate

/-- The product of two numbers. -/
def mul (x y : Decimal) : Except Failure Decimal :=
  match undefinedOperand? x y with
  | some result => result
  | none =>
    match x, y with
    | .finite n c e, .finite m d f => fit (n != m) (c * d) (e + f)
    | .infinite n, .infinite m => .ok (.infinite (n != m))
    | .infinite n, .finite m d _ =>
      if d = 0 then .error .invalidOperation else .ok (.infinite (n != m))
    | .finite n c _, .infinite m =>
      if c = 0 then .error .invalidOperation else .ok (.infinite (n != m))
    | _, _ => .error .invalidOperation

/-- The hundredth part of a number. -/
def hundredth : Decimal → Except Failure Decimal
  | .finite negative coefficient exponent => fit negative coefficient (exponent - 2)
  | .infinite negative => .ok (.infinite negative)
  | .undefined _ true _ => .error .invalidOperation
  | .undefined negative false payload => .ok (.undefined negative false (fitPayload payload))

/-- The number rounded to a power of ten, with exactly that power.  A result of more digits than the
precision fails. -/
def quantize (x : Decimal) (exponent : Int) : Except Failure Decimal :=
  match x with
  | .undefined _ true _ => .error .invalidOperation
  | .undefined negative false payload => .ok (.undefined negative false (fitPayload payload))
  | .infinite _ => .error .invalidOperation
  | .finite negative coefficient own =>
    if coefficient = 0 then .ok (.finite negative 0 exponent)
    else if (precision : Int) < Text.Numeral.length coefficient + (own - exponent) then
      .error .invalidOperation
    else
      let rounded :=
        if exponent ≤ own then coefficient * tenTo (own - exponent).toNat
        else dropDigits coefficient (exponent - own).toNat
      if precision < Text.Numeral.length rounded then .error .invalidOperation
      else .ok (.finite negative rounded exponent)

/-- The sum of a list of numbers, added from left to right onto a first one. -/
def sumFrom (start : Decimal) : List Decimal → Except Failure Decimal
  | [] => .ok start
  | x :: rest => do
    let next ← add start x
    sumFrom next rest

end Checkout.Decimal
