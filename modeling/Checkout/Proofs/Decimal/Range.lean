import Checkout.Proofs.Decimal.Sum

/-!
# The range of results

Whatever the operands are, the last digit of a finite sum does not stand for less than the least
power of ten.  Among such numbers a sum is never rounded to zero, so a zero is an exact zero, and
its sign tells nothing about a number that was lost.
-/

namespace Checkout.Decimal

open Text.Numeral (tenTo length)

/-- A number is settled if its last digit does not stand for less than the least power of ten. -/
def Settled : Decimal → Prop
  | .finite _ _ exponent => leastExponent ≤ exponent
  | _ => True

/-- A fitted result keeps its sign, is settled, and is zero for zero. -/
theorem exists_of_fit {negative : Bool} {coefficient : Nat} {exponent : Int} {result : Decimal}
    (fitted : fit negative coefficient exponent = .ok result) :
    ∃ digits place, result = .finite negative digits place ∧ leastExponent ≤ place ∧
      (coefficient = 0 → digits = 0) := by
  unfold fit at fitted
  split at fitted
  · cases fitted
    exact ⟨0, _, rfl, Int.le_max_left _ _, fun _ => rfl⟩
  · rename_i nonzero
    have reached : leastExponent ≤ exponent + excessDigits coefficient exponent := by
      have most : (leastExponent - exponent).toNat ≤ excessDigits coefficient exponent :=
        Nat.le_max_right _ _
      omega
    generalize excessDigits coefficient exponent = excess at fitted reached
    dsimp only at fitted
    generalize (if excess = 0 then coefficient else dropDigits coefficient excess) = rounded
      at fitted
    by_cases gained : precision < length rounded
    · simp only [gained, if_true] at fitted
      split at fitted
      · cases fitted
      · cases fitted
        exact ⟨_, _, rfl, Int.le_trans reached (Int.le_add_one (Int.le_refl _)),
          fun zero => absurd zero nonzero⟩
    · simp only [gained, if_false] at fitted
      split at fitted
      · cases fitted
      · cases fitted
        exact ⟨_, _, rfl, reached, fun zero => absurd zero nonzero⟩

theorem settled_fit {negative : Bool} {coefficient : Nat} {exponent : Int} {result : Decimal}
    (fitted : fit negative coefficient exponent = .ok result) : Settled result := by
  rcases exists_of_fit fitted with ⟨digits, place, rfl, reached, _⟩
  exact reached

/-- In the range, only an exact zero becomes zero. -/
theorem fit_eq_ok {negative : Bool} {coefficient : Nat} {exponent : Int}
    (settled : leastExponent ≤ exponent) {result : Decimal}
    (fitted : fit negative coefficient exponent = .ok result) :
    ∃ digits place, result = .finite negative digits place ∧ (digits = 0 ↔ coefficient = 0) := by
  rcases Nat.eq_zero_or_pos coefficient with rfl | positive
  · rw [fit_zero] at fitted
    cases fitted
    exact ⟨0, _, rfl, by simp⟩
  · obtain ⟨digits, gap, value, _, shape⟩ := fit_eq negative positive settled
    have digitsPositive := pos_of_mul_eq_kept positive value
    rw [shape] at fitted
    split at fitted
    · cases fitted
    · cases fitted
      refine ⟨digits, _, rfl, ?_⟩
      constructor
      · intro zero
        exact absurd zero digitsPositive.ne'
      · intro zero
        exact absurd zero positive.ne'

/-! ## Sums -/

theorem settled_undefinedOperand? {x y result : Decimal}
    (undefined : undefinedOperand? x y = some (.ok result)) : Settled result := by
  unfold undefinedOperand? at undefined
  split at undefined <;> cases undefined <;> trivial

theorem settled_add {x y result : Decimal} (added : add x y = .ok result) : Settled result := by
  unfold add at added
  split at added
  · rename_i outcome undefined
    rw [added] at undefined
    exact settled_undefinedOperand? undefined
  · split at added
    · rw [addFinite_eq_fit] at added
      exact settled_fit added
    · split at added <;> cases added
      trivial
    · cases added
      trivial
    · cases added
      trivial
    · cases added

theorem settled_sumFrom {start result : Decimal} {amounts : List Decimal} (settled : Settled start)
    (summed : sumFrom start amounts = .ok result) : Settled result := by
  induction amounts generalizing start with
  | nil =>
    cases summed
    exact settled
  | cons amount rest ih =>
    rw [sumFrom] at summed
    cases added : add start amount with
    | error failure =>
      rw [added] at summed
      cases summed
    | ok next =>
      rw [added] at summed
      exact ih (settled_add added) summed

theorem settled_zeroCents : Settled zeroCents := by
  rw [zeroCents, Settled]
  decide

end Checkout.Decimal
