import Checkout.Proofs.Decimal.Order
import Checkout.Proofs.Price.Combined

/-!
# Prices of amounts of money

Where the rules grant amounts of money, pricing is compared with a computation on whole numbers of
minor units that never rounds.  The two agree as long as what is taken off can be held with two
decimals, and beyond that there is no price: the total alone would not tell, since it is zero then,
but the sum of what is taken off is rounded to two decimals too.
-/

namespace Checkout

open Decimal (Failure fit kept)
open Money (place ofUnits limit vast Records Running Refused Settles)
open Text.Numeral (tenTo tenTo_zero)

namespace Money

theorem limit_le_vast : limit ≤ vast :=
  Text.Numeral.tenTo_le_tenTo_iff.mpr (by decide)

/-! ## What is left of a subtotal -/

/-- A subtotal with a number of zeros behind some digits taken off. -/
theorem sub_place (units digits zeros : Nat) :
    Decimal.sub (ofUnits units) (.finite false digits (place + zeros)) =
      fit (decide (units < digits * tenTo zeros))
        ((units : Int) - (digits * tenTo zeros : Nat)).natAbs place := by
  have least : min place (place + (zeros : Int)) = place := by omega
  have aligned : (place + (zeros : Int) - place).toNat = zeros := by omega
  have sum : Decimal.sub (ofUnits units) (.finite false digits (place + zeros)) =
      Decimal.addFinite false units place true digits (place + zeros) := rfl
  rw [sum, Decimal.addFinite_eq_fit]
  simp only [Decimal.exactSum, least, aligned, Int.sub_self, Int.toNat_zero, tenTo_zero,
    Nat.mul_one, Decimal.signed, Bool.false_eq_true, if_false, if_true, ← Int.sub_eq_add_neg]
  generalize digits * tenTo zeros = taken
  have sign : (if (units : Int) - (taken : Int) = 0 then false && true
      else decide ((units : Int) - (taken : Int) < 0)) = decide (units < taken) := by
    split
    · rename_i equal
      exact (decide_eq_false (by omega)).symm
    · exact decide_eq_decide.mpr (by omega)
  rw [sign]

/-- A negative number is replaced by zero, which needs no rounding. -/
theorem round_larger_of_negative {digits : Nat} (positive : 0 < digits) (exponent : Int) :
    ((Decimal.larger (.finite true digits exponent) Decimal.zeroCents).bind round) =
      .ok (ofUnits 0) := by
  have sign : (true && digits != 0) = true := by simp [positive.ne']
  rw [Decimal.larger_zeroCents, if_pos sign]
  rfl

theorem round_larger_ofUnits {units : Nat} (small : units < limit) :
    ((Decimal.larger (ofUnits units) Decimal.zeroCents).bind round) = .ok (ofUnits units) := by
  rw [ofUnits, Decimal.larger_zeroCents]
  exact round_place false small

/-- What is left of a subtotal, but not below zero.  It leaves the range of numbers only if what is
taken off is vast. -/
theorem left_cases {units : Nat} (small : units < limit) (digits zeros : Nat) :
    ((Decimal.sub (ofUnits units) (.finite false digits (place + zeros))).bind fun left =>
        (Decimal.larger left Decimal.zeroCents).bind round) =
          .ok (ofUnits (units - digits * tenTo zeros)) ∨
      ((Decimal.sub (ofUnits units) (.finite false digits (place + zeros))).bind fun left =>
        (Decimal.larger left Decimal.zeroCents).bind round) = .error .overflow ∧
          10 * vast ≤ 2 * (digits * tenTo zeros) := by
  rw [sub_place]
  generalize digits * tenTo zeros = taken
  rcases Nat.lt_or_ge units taken with less | enough
  · have absolute : ((units : Int) - (taken : Int)).natAbs = taken - units := by omega
    have positive : 0 < taken - units := Nat.sub_pos_of_lt less
    rw [absolute, decide_eq_true less, Nat.sub_eq_zero_of_le less.le]
    rcases fit_cents true positive with ⟨rest, zeros, _, restPositive, _, fitted | ⟨failed, huge⟩⟩
    · rw [fitted]
      exact .inl (round_larger_of_negative restPositive _)
    · have doubled := kept_le_double (taken - units)
      rw [failed]
      exact .inr ⟨rfl, by omega⟩
  · have absolute : ((units : Int) - (taken : Int)).natAbs = units - taken := by omega
    have left : units - taken < limit := Nat.lt_of_le_of_lt (Nat.sub_le _ _) small
    rw [absolute, decide_eq_false (Nat.not_lt.mpr enough), fit_small false left]
    exact .inl (round_larger_ofUnits left)

end Money

namespace Price

/-- The total of amounts of money: exact as long as what is taken off is below the limit. -/
theorem totalOf_settles {units taken : Nat} (small : units < limit) {amounts : List Decimal}
    (settles : Settles 4 (Decimal.sumFrom Decimal.zeroCents amounts) taken) :
    (∃ total, totalOf (ofUnits units) amounts = .ok total ∧
        (taken < limit → total = ofUnits (units - taken))) ∨
      ∃ failure, totalOf (ofUnits units) amounts = .error failure ∧ Refused taken failure := by
  rcases settles with ⟨x, summed, running⟩ | ⟨failure, failed, refused⟩
  · rcases running with ⟨digits, zeros, rfl, _, stand⟩
    have opened : totalOf (ofUnits units) amounts =
        ((Decimal.sub (ofUnits units) (.finite false digits (place + zeros))).bind fun left =>
          (Decimal.larger left Decimal.zeroCents).bind Money.round) := by
      rw [totalOf, summed]
      rfl
    rw [opened]
    rcases Money.left_cases small digits zeros with exact | ⟨failed, huge⟩
    · refine .inl ⟨_, exact, fun takenSmall => ?_⟩
      rcases stand.exact takenSmall with ⟨rfl, rfl⟩
      rw [tenTo_zero, Nat.mul_one]
    · have bounded := stand.bounded
      have isVast : vast ≤ taken := by omega
      exact .inr ⟨.overflow, failed, Money.limit_le_vast.trans isVast, fun _ => isVast⟩
  · refine .inr ⟨failure, ?_, refused⟩
    rw [totalOf, failed]
    rfl

/-- Amounts of money are combined to running sums, or that fails as it may. -/
theorem combineFrom_settles {grants : List (String × Decimal)} {units : List (String × Nat)}
    (matched : Entries.Matched (Records 1) grants units) {combined : List (String × Decimal)}
    {entries : List (String × Nat)} (running : Entries.Matched (Running 2) combined entries) :
    (∃ final, combineFrom combined grants = .ok final ∧
        Entries.Matched (Running 2) final (Entries.collect entries units)) ∨
      ∃ failure, combineFrom combined grants = .error failure ∧
        Refused (Entries.sumAll entries + Entries.sumAll units) failure := by
  induction matched generalizing combined entries with
  | nil => exact .inl ⟨combined, rfl, running⟩
  | @cons grant unit grants units first _ ih =>
    obtain ⟨description, amount⟩ := grant
    obtain ⟨known, number⟩ := unit
    rcases first with ⟨rfl, records⟩
    have before := running.getD description (Money.running_zero (by decide))
    rcases Money.add_running (by decide) (by decide) before records with
      ⟨next, added, nextRunning⟩ | ⟨failure, failed, refused⟩
    · have combinedNext : combineFrom combined ((description, amount) :: grants) =
          combineFrom (Entries.put description next combined) grants := by
        rw [combineFrom, added]
        rfl
      have increased := Entries.sumAll_put description
        ((Entries.get? description entries).getD 0 + number) entries
      have sums : Entries.sumAll (Entries.increase description number entries) +
          Entries.sumAll units =
            Entries.sumAll entries + Entries.sumAll ((description, number) :: units) := by
        rw [Entries.increase, Entries.sumAll_cons]
        omega
      rw [combinedNext, ← sums]
      exact ih (running.put description nextRunning)
    · refine .inr ⟨failure, ?_, refused.mono ?_⟩
      · rw [combineFrom, failed]
        rfl
      · have least := Entries.getD_le_sumAll description entries
        rw [Entries.sumAll_cons]
        omega

end Price

end Checkout
