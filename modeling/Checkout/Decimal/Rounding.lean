import Checkout.Decimal.Basic

/-!
# Rounding to the working precision

Digits are dropped by rounding to the nearest neighbour, and a tie goes to the even one.  An exact
result of any length is fitted into the working range by dropping the digits that exceed the
precision or that lie below the least power of ten.
-/

namespace Checkout.Decimal

open Text.Numeral (tenTo)

/-- The whole number nearest to `numerator / denominator`; of two that are equally near, the even
one. -/
def nearest (numerator denominator : Nat) : Nat :=
  let quotient := numerator / denominator
  let remainder := numerator % denominator
  if 2 * remainder < denominator then quotient
  else if denominator < 2 * remainder then quotient + 1
  else quotient + quotient % 2

/-- The coefficient without its last `count` digits, rounded.  A coefficient with fewer digits than
are dropped is less than half a unit, so the power of ten is not worked out. -/
def dropDigits (coefficient count : Nat) : Nat :=
  if Text.Numeral.length coefficient < count then 0 else nearest coefficient (tenTo count)

/-- Dropping digits is rounding to a multiple of a power of ten, however many are dropped. -/
theorem dropDigits_eq_nearest (coefficient count : Nat) :
    dropDigits coefficient count = nearest coefficient (tenTo count) := by
  unfold dropDigits
  split
  · rename_i short
    have below : coefficient < tenTo (count - 1) := by
      have lengthLe : Text.Numeral.length coefficient ≤ count - 1 := by omega
      have positive : 0 < count - 1 := by
        have := Text.Numeral.length_pos coefficient
        omega
      exact (Text.Numeral.length_le_iff positive).mp lengthLe
    have split : tenTo count = tenTo (count - 1) * 10 := by
      rw [← Text.Numeral.tenTo_succ]
      congr
      omega
    have less : coefficient < tenTo count := by omega
    simp only [nearest, Nat.div_eq_of_lt less, Nat.mod_eq_of_lt less]
    split <;> omega
  · rfl

/-- How many digits an exact result has to give up: those beyond the precision and those below the
least power of ten. -/
def excessDigits (coefficient : Nat) (exponent : Int) : Nat :=
  max (Text.Numeral.length coefficient - precision) (leastExponent - exponent).toNat

/-- The number of the working range that stands for an exact result. -/
def fit (negative : Bool) (coefficient : Nat) (exponent : Int) : Except Failure Decimal :=
  if coefficient = 0 then
    .ok (.finite negative 0 (max leastExponent (min topExponent exponent)))
  else
    let excess := excessDigits coefficient exponent
    let rounded := if excess = 0 then coefficient else dropDigits coefficient excess
    let shifted := exponent + excess
    -- rounding up to a power of ten may gain a digit
    let (digits, place) :=
      if precision < Text.Numeral.length rounded then (rounded / 10, shifted + 1)
      else (rounded, shifted)
    if digits ≠ 0 ∧ topExponent < adjusted digits place then .error .overflow
    else .ok (.finite negative digits place)

/-- An undefined result keeps the digits of its payload that fit the precision. -/
def fitPayload (payload : Nat) : Nat :=
  payload % tenTo precision

/-- What an operation yields that has an undefined operand: it fails if one of them is signalling,
and otherwise the first undefined operand goes through. -/
def undefinedOperand? : Decimal → Decimal → Option (Except Failure Decimal)
  | .undefined _ true _, _ => some (.error .invalidOperation)
  | _, .undefined _ true _ => some (.error .invalidOperation)
  | .undefined negative false payload, _ =>
    some (.ok (.undefined negative false (fitPayload payload)))
  | _, .undefined negative false payload =>
    some (.ok (.undefined negative false (fitPayload payload)))
  | _, _ => none

end Checkout.Decimal
