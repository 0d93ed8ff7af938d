import Checkout.Decimal.Basic

/-!
# Comparing decimal numbers

Numbers are compared by value: the power of ten does not matter and the two zeros are equal.
Undefined results are neither equal to nor on a side of anything.  Numbers of equal value share a
residue, which is what a table of numbers files them under.
-/

namespace Checkout.Decimal

/-- The order of two coefficients with powers of ten.  Numbers whose first digits stand for
different powers are told apart by those; others differ by few digits and are written out. -/
def compareMagnitude (first : Nat) (firstExponent : Int) (second : Nat) (secondExponent : Int) :
    Ordering :=
  if first = 0 ∨ second = 0 then compare first second
  else
    match compare (adjusted first firstExponent) (adjusted second secondExponent) with
    | .eq =>
      let exponent := min firstExponent secondExponent
      compare (first * Text.Numeral.tenTo (firstExponent - exponent).toNat)
        (second * Text.Numeral.tenTo (secondExponent - exponent).toNat)
    | order => order

/-- The order of two numbers by value; there is none with an undefined result. -/
def compare? : Decimal → Decimal → Option Ordering
  | .undefined _ _ _, _ => none
  | _, .undefined _ _ _ => none
  | .infinite n, .infinite m => some (compare (!n).toNat (!m).toNat)
  | .infinite n, _ => some (if n then .lt else .gt)
  | _, .infinite m => some (if m then .gt else .lt)
  | .finite n c e, .finite m d f =>
    if c = 0 ∧ d = 0 then some .eq
    else
      match n && c != 0, m && d != 0 with
      | false, false => some (compareMagnitude c e d f)
      | true, true => some (compareMagnitude d f c e)
      | true, false => some .lt
      | false, true => some .gt

/-- Whether the first number is less than the second; asking it of an undefined result fails. -/
def less (x y : Decimal) : Except Failure Bool :=
  match compare? x y with
  | some order => .ok (order == .lt)
  | none => .error .invalidOperation

/-- Whether two numbers are equal in value; asking it of a signalling result fails. -/
def sameValue (x y : Decimal) : Except Failure Bool :=
  match x, y with
  | .undefined _ true _, _ => .error .invalidOperation
  | _, .undefined _ true _ => .error .invalidOperation
  | _, _ => .ok (compare? x y == some .eq)

/-- The larger of two numbers, the first if they are equal. -/
def larger (x y : Decimal) : Except Failure Decimal := do
  if ← less x y then .ok y else .ok x

/-- The prime modulus of residues, the number of 61 binary ones. -/
def modulus : Nat :=
  2305843009213693951

/-- The number whose product with ten leaves the remainder one. -/
def inverseOfTen : Nat :=
  2075258708292324556

/-- A power modulo the prime, by repeated squaring. -/
def powerModulo (base : Nat) : Nat → Nat
  | 0 => 1
  | exponent + 1 =>
    let half := powerModulo (base * base % modulus) ((exponent + 1) / 2)
    if (exponent + 1) % 2 = 0 then half else base * half % modulus
termination_by exponent => exponent
decreasing_by omega

/-- The residue that a number is filed under.  Negative numbers have the negative residue, except
that the residue minus one is not in use and is replaced by minus two; an undefined result is filed
under nothing that another number could share. -/
def residue? : Decimal → Option Int
  | .finite negative coefficient exponent =>
    let base := if 0 ≤ exponent then 10 else inverseOfTen
    let magnitude := coefficient * powerModulo base exponent.natAbs % modulus
    let signed := if negative then -(magnitude : Int) else magnitude
    some (if signed = -1 then -2 else signed)
  | .infinite negative => some (if negative then -314159 else 314159)
  | .undefined _ _ _ => none

end Checkout.Decimal
