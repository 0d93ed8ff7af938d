import Checkout.Money
import Checkout.Proofs.Decimal.Sum

/-!
# Running sums of money

Amounts of money are added one after another, and every step rounds to the precision.  A running
sum is nevertheless never silently wrong: as long as the exact sum can be held with two decimals it
is the exact sum, and from then on it stays too large to be rounded to two decimals again.  So a
sum that is rounded to two decimals at its end is exact, or it is refused.

The rounding errors of a sum without end may add up, so a running sum beyond the limit is known only
up to a factor.  That is enough to see that the range of numbers is only ever left by vast amounts.
-/

namespace Checkout.Money

open Decimal (Failure precision kept fit)
open Text.Numeral (tenTo tenTo_zero tenTo_succ tenTo_add tenTo_pos tenTo_le_tenTo_iff length
  length_pos length_le_iff lt_length_iff length_mul_tenTo)

/-- The amount of a number of minor units. -/
def ofUnits (units : Nat) : Decimal :=
  .finite false units place

/-- The first number of minor units that can not be held with two decimals. -/
def limit : Nat :=
  tenTo precision

/-- A number of minor units that is within a few digits of leaving the range of numbers. -/
def vast : Nat :=
  tenTo 1000001

theorem limit_pos : 0 < limit :=
  tenTo_pos _

/-- The limit is reached by the numbers of more digits than the precision holds. -/
theorem precision_lt_length_iff {n : Nat} : precision < length n ↔ limit ≤ n := by
  rcases Nat.eq_zero_or_pos n with rfl | positive
  · decide
  · exact lt_length_iff positive

theorem length_le_of_lt_limit {units : Nat} (small : units < limit) : length units ≤ precision :=
  Nat.not_lt.mp fun long => Nat.not_lt.mpr (precision_lt_length_iff.mp long) small

/-- Some digits with zeros behind them stand for a number of minor units: they are its digits below
the limit, and beyond the limit they are beyond it too, but too large by no more than a factor. -/
structure StandFor (slack units digits zeros : Nat) : Prop where
  exact : units < limit → digits = units ∧ zeros = 0
  beyond : limit ≤ units → limit ≤ digits * tenTo zeros
  bounded : digits * tenTo zeros ≤ slack * units

/-- A number stands for a number of minor units.  A zero may have a minus sign. -/
def Records (slack : Nat) (x : Decimal) (units : Nat) : Prop :=
  ∃ (negative : Bool) (digits zeros : Nat), x = .finite negative digits (place + zeros) ∧
    (negative = true → digits = 0) ∧ StandFor slack units digits zeros

/-- A number within the precision and without a minus sign stands for a number of minor units. -/
def Running (slack : Nat) (x : Decimal) (units : Nat) : Prop :=
  ∃ digits zeros : Nat, x = .finite false digits (place + zeros) ∧ length digits ≤ precision ∧
    StandFor slack units digits zeros

/-- A sum has failed as it may: it is too large to be held with two decimals, and if it has left the
range of numbers it is vast. -/
def Refused (units : Nat) (failure : Failure) : Prop :=
  limit ≤ units ∧ (failure = .overflow → vast ≤ units)

/-- The outcome of adding up some minor units: a running sum, or a failure as it may be. -/
def Settles (slack : Nat) (outcome : Except Failure Decimal) (units : Nat) : Prop :=
  (∃ x, outcome = .ok x ∧ Running slack x units) ∨
    ∃ failure, outcome = .error failure ∧ Refused units failure

theorem Running.records {slack units : Nat} {x : Decimal} (running : Running slack x units) :
    Records slack x units := by
  rcases running with ⟨digits, zeros, rfl, _, stand⟩
  exact ⟨false, digits, zeros, rfl, by simp, stand⟩

theorem Refused.mono {first second : Nat} {failure : Failure} (refused : Refused first failure)
    (le : first ≤ second) : Refused second failure :=
  ⟨refused.1.trans le, fun overflow => (refused.2 overflow).trans le⟩

/-- Below the limit a running sum is exact. -/
theorem Running.eq_ofUnits {slack units : Nat} {x : Decimal} (running : Running slack x units)
    (small : units < limit) : x = ofUnits units := by
  rcases running with ⟨digits, zeros, rfl, _, stand⟩
  rcases stand.exact small with ⟨rfl, rfl⟩
  simp [ofUnits]

/-- An amount below the limit is a running sum by itself. -/
theorem running_ofUnits {slack units : Nat} (small : units < limit) (some : 1 ≤ slack) :
    Running slack (ofUnits units) units := by
  refine ⟨units, 0, by simp [ofUnits], length_le_of_lt_limit small, fun _ => ⟨rfl, rfl⟩,
    fun le => ?_, ?_⟩
  · rw [tenTo_zero, Nat.mul_one]
    exact le
  · rw [tenTo_zero, Nat.mul_one]
    exact Nat.le_mul_of_pos_left _ some

theorem running_zero {slack : Nat} (some : 1 ≤ slack) : Running slack Decimal.zeroCents 0 :=
  running_ofUnits limit_pos some

/-- A number with two decimals that is not below zero stands for its minor units exactly. -/
theorem records_of_place {negative : Bool} {units : Nat} (sign : negative = true → units = 0) :
    Records 1 (.finite negative units place) units := by
  refine ⟨negative, units, 0, by simp, sign, fun _ => ⟨rfl, rfl⟩, fun le => ?_, ?_⟩
  · rw [tenTo_zero, Nat.mul_one]
    exact le
  · rw [tenTo_zero, Nat.mul_one, Nat.one_mul]

/-! ## Fitting in minor units -/

/-- A fitted result in minor units: what the precision keeps, unless that is too large for the range
of numbers. -/
theorem fit_place {coefficient : Nat} (negative : Bool) (zeros : Nat) (positive : 0 < coefficient) :
    ∃ digits more : Nat, digits * tenTo more = kept coefficient * tenTo zeros ∧
      length digits ≤ precision ∧
      (fit negative coefficient (place + zeros) = .ok (.finite negative digits (place + more)) ∨
        fit negative coefficient (place + zeros) = .error .overflow ∧
          10 * vast ≤ kept coefficient * tenTo zeros) := by
  have settled : Decimal.leastExponent ≤ place + zeros := by
    simp only [Decimal.leastExponent, Decimal.bottomExponent, precision, place]
    omega
  obtain ⟨digits, gap, value, short, fitted⟩ := Decimal.fit_eq negative positive settled
  have moved : digits * tenTo (zeros + gap) = kept coefficient * tenTo zeros := by
    rw [Nat.add_comm, tenTo_add, ← Nat.mul_assoc, value]
  have exponentEq : place + (zeros : Int) + gap = place + ((zeros + gap : Nat) : Int) := by
    omega
  refine ⟨digits, zeros + gap, moved, short, ?_⟩
  rw [fitted, exponentEq]
  split
  · rename_i large
    refine .inr ⟨rfl, ?_⟩
    have digitsPositive := Decimal.pos_of_mul_eq_kept positive value
    have leading : tenTo (length digits - 1) ≤ digits :=
      (lt_length_iff digitsPositive).mp (Nat.sub_lt (length_pos _) Nat.one_pos)
    have places : 1000001 + 1 ≤ length digits - 1 + (zeros + gap) := by
      simp only [Decimal.topExponent, Decimal.adjusted, place] at large
      omega
    calc
      10 * vast = tenTo (1000001 + 1) := by rw [tenTo_succ, vast, Nat.mul_comm]
      _ ≤ tenTo (length digits - 1 + (zeros + gap)) := tenTo_le_tenTo_iff.mpr places
      _ = tenTo (length digits - 1) * tenTo (zeros + gap) := tenTo_add _ _
      _ ≤ digits * tenTo (zeros + gap) := Nat.mul_le_mul_right _ leading
      _ = kept coefficient * tenTo zeros := moved
  · exact .inl rfl

/-- The same for a coefficient with two decimals. -/
theorem fit_cents {coefficient : Nat} (negative : Bool) (positive : 0 < coefficient) :
    ∃ digits zeros : Nat, digits * tenTo zeros = kept coefficient ∧ 0 < digits ∧
      length digits ≤ precision ∧
      (fit negative coefficient place = .ok (.finite negative digits (place + zeros)) ∨
        fit negative coefficient place = .error .overflow ∧ 10 * vast ≤ kept coefficient) := by
  obtain ⟨digits, zeros, value, short, outcome⟩ := fit_place negative 0 positive
  rw [tenTo_zero, Nat.mul_one] at value outcome
  rw [Int.natCast_zero, Int.add_zero] at outcome
  exact ⟨digits, zeros, value, Decimal.pos_of_mul_eq_kept positive value, short, outcome⟩

theorem kept_le_double (coefficient : Nat) : kept coefficient ≤ 2 * coefficient := by
  have fromZero : kept coefficient + 0 * tenTo 0 ≤ 2 * coefficient :=
    Decimal.kept_add_le (by decide) (by simp)
  simpa using fromZero

/-- Rounding to the precision does not bring a number back below the limit. -/
theorem limit_le_kept {coefficient zeros : Nat} (le : limit ≤ coefficient * tenTo zeros) :
    limit ≤ kept coefficient * tenTo zeros := by
  have reached : tenTo (precision - zeros) ≤ coefficient := by
    rcases Nat.lt_or_ge zeros precision with inside | outside
    · have split : limit = tenTo (precision - zeros) * tenTo zeros := by
        rw [← tenTo_add, Nat.sub_add_cancel inside.le, limit]
      rw [split] at le
      exact Nat.le_of_mul_le_mul_right le (tenTo_pos zeros)
    · rw [Nat.sub_eq_zero_of_le outside]
      exact Nat.pos_of_mul_pos_right (Nat.lt_of_lt_of_le limit_pos le)
  calc
    limit ≤ tenTo (precision - zeros + zeros) := tenTo_le_tenTo_iff.mpr (by omega)
    _ = tenTo (precision - zeros) * tenTo zeros := tenTo_add _ _
    _ ≤ kept coefficient * tenTo zeros :=
      Nat.mul_le_mul_right _ (Decimal.tenTo_le_kept reached)

/-- An amount below the limit fits as it is. -/
theorem fit_small {units : Nat} (negative : Bool) (small : units < limit) :
    fit negative units place = .ok (.finite negative units place) := by
  rcases Nat.eq_zero_or_pos units with rfl | positive
  · rfl
  · have short := length_le_of_lt_limit small
    have inRange : ¬ Decimal.topExponent < Decimal.adjusted units place := by
      simp only [Decimal.topExponent, Decimal.adjusted, place]
      rw [precision] at short
      omega
    rw [Decimal.fit_of_short negative positive short (by decide), if_neg inRange]

/-- An exact amount that is fitted stands for its minor units, or fails as it may. -/
theorem fit_units {negative : Bool} {units : Nat} (sign : negative = true → units = 0) :
    (∃ x, fit negative units place = .ok x ∧ Records 2 x units) ∨
      ∃ failure, fit negative units place = .error failure ∧ Refused units failure := by
  rcases Nat.lt_or_ge units limit with small | large
  · refine .inl ⟨_, fit_small negative small, negative, units, 0, by simp, sign, ?_⟩
    exact ⟨fun _ => ⟨rfl, rfl⟩, fun le => absurd small (Nat.not_lt.mpr le), by simp; omega⟩
  · have positive : 0 < units := Nat.lt_of_lt_of_le limit_pos large
    have unsigned : negative = false := Bool.eq_false_iff.mpr fun minus => positive.ne' (sign minus)
    subst unsigned
    have doubled := kept_le_double units
    have beyond : limit ≤ kept units := by
      have scaled : limit ≤ units * tenTo 0 := by simpa using large
      simpa using limit_le_kept scaled
    rcases fit_cents false positive with ⟨digits, zeros, value, _, _, fitted | ⟨failed, huge⟩⟩
    · refine .inl ⟨_, fitted, false, digits, zeros, rfl, by simp, ?_⟩
      refine ⟨fun less => absurd less (Nat.not_lt.mpr large), fun _ => ?_, ?_⟩
      · rw [value]
        exact beyond
      · rw [value]
        exact doubled
    · exact .inr ⟨.overflow, failed, large, fun _ => by omega⟩

/-! ## One step of a sum -/

theorem add_finite (firstNegative : Bool) (first : Nat) (firstExponent : Int)
    (secondNegative : Bool) (second : Nat) (secondExponent : Int) :
    Decimal.add (.finite firstNegative first firstExponent)
        (.finite secondNegative second secondExponent) =
      Decimal.addFinite firstNegative first firstExponent secondNegative second secondExponent :=
  rfl

/-- The exact sum of two amounts in minor units, of which neither is below zero. -/
theorem exactSum_place {first second : Nat} {negative : Bool} (firstZeros secondZeros : Nat)
    (sign : negative = true → second = 0) :
    Decimal.exactSum false first (place + firstZeros) negative second (place + secondZeros) =
      (false,
        first * tenTo (firstZeros - min firstZeros secondZeros) +
          second * tenTo (secondZeros - min firstZeros secondZeros),
        place + (min firstZeros secondZeros : Nat)) := by
  have least : min (place + (firstZeros : Int)) (place + (secondZeros : Int)) =
      place + ((min firstZeros secondZeros : Nat) : Int) := by
    omega
  have firstAligned : (place + (firstZeros : Int) -
      (place + ((min firstZeros secondZeros : Nat) : Int))).toNat =
        firstZeros - min firstZeros secondZeros := by
    omega
  have secondAligned : (place + (secondZeros : Int) -
      (place + ((min firstZeros secondZeros : Nat) : Int))).toNat =
        secondZeros - min firstZeros secondZeros := by
    omega
  have scaledSign : negative = true →
      second * tenTo (secondZeros - min firstZeros secondZeros) = 0 := by
    intro minus
    rw [sign minus, Nat.zero_mul]
  simp only [Decimal.exactSum, least, firstAligned, secondAligned]
  generalize first * tenTo (firstZeros - min firstZeros secondZeros) = firstScaled
  generalize second * tenTo (secondZeros - min firstZeros secondZeros) = secondScaled at scaledSign
  cases negative with
  | false =>
    simp only [Decimal.signed, Bool.false_eq_true, if_false, Prod.mk.injEq, and_true]
    constructor
    · split
      · rfl
      · exact decide_eq_false (by omega)
    · omega
  | true =>
    rw [scaledSign rfl]
    simp [Decimal.signed]

/-- Adding to a running sum gives a running sum, or fails as it may. -/
theorem add_running {slack first second : Nat} {x y : Decimal} (some : 1 ≤ slack)
    (few : slack ≤ 5) (running : Running (2 * slack) x first) (records : Records slack y second) :
    Settles (2 * slack) (Decimal.add x y) (first + second) := by
  rcases running with ⟨digits, zeros, rfl, short, stand⟩
  rcases records with ⟨negative, added, addedZeros, rfl, sign, addedStand⟩
  rw [add_finite, Decimal.addFinite_eq_fit, exactSum_place zeros addedZeros sign]
  dsimp only
  rcases Nat.lt_or_ge (first + second) limit with small | large
  · rcases stand.exact (by omega) with ⟨rfl, rfl⟩
    rcases addedStand.exact (by omega) with ⟨rfl, rfl⟩
    refine .inl ⟨ofUnits (digits + added), ?_, running_ofUnits small (by omega)⟩
    simpa [ofUnits] using fit_small false small
  · generalize least : min zeros addedZeros = shared
    generalize total : digits * tenTo (zeros - shared) + added * tenTo (addedZeros - shared) =
      coefficient
    have firstScaled : digits * tenTo zeros = digits * tenTo (zeros - shared) * tenTo shared := by
      rw [Nat.mul_assoc, ← tenTo_add, Nat.sub_add_cancel (by omega)]
    have addedScaled :
        added * tenTo addedZeros = added * tenTo (addedZeros - shared) * tenTo shared := by
      rw [Nat.mul_assoc, ← tenTo_add, Nat.sub_add_cancel (by omega)]
    have totalScaled :
        coefficient * tenTo shared = digits * tenTo zeros + added * tenTo addedZeros := by
      rw [firstScaled, addedScaled, ← Nat.add_mul, total]
    have reached : limit ≤ coefficient * tenTo shared := by
      rw [totalScaled]
      rcases Nat.lt_or_ge first limit with firstSmall | firstLarge
      · rcases Nat.lt_or_ge second limit with secondSmall | secondLarge
        · rcases stand.exact firstSmall with ⟨rfl, rfl⟩
          rcases addedStand.exact secondSmall with ⟨rfl, rfl⟩
          simpa using large
        · exact Nat.le_add_left_of_le (addedStand.beyond secondLarge)
      · exact Nat.le_add_right_of_le (stand.beyond firstLarge)
    have bounded : kept coefficient * tenTo shared ≤ 2 * slack * (first + second) := by
      have moved : kept coefficient + digits * tenTo (zeros - shared) ≤ 2 * coefficient :=
        Decimal.kept_add_le short (by omega)
      have movedScaled := Nat.mul_le_mul_right (tenTo shared) moved
      rw [Nat.add_mul, ← firstScaled, Nat.mul_assoc, totalScaled] at movedScaled
      have firstBounded := stand.bounded
      have addedBounded := addedStand.bounded
      rw [Nat.mul_assoc] at firstBounded
      rw [Nat.mul_assoc, Nat.mul_add]
      omega
    have positive : 0 < coefficient :=
      Nat.pos_of_mul_pos_right (Nat.lt_of_lt_of_le limit_pos reached)
    rcases fit_place false shared positive with
      ⟨result, more, value, within, fitted | ⟨failed, huge⟩⟩
    · refine .inl ⟨_, fitted, result, more, rfl, within, fun less => by omega, fun _ => ?_, ?_⟩
      · rw [value]
        exact limit_le_kept reached
      · rw [value]
        exact bounded
    · refine .inr ⟨.overflow, failed, large, fun _ => ?_⟩
      have tenfold : 2 * slack * (first + second) ≤ 10 * (first + second) :=
        Nat.mul_le_mul_right _ (by omega)
      omega

/-! ## Whole sums -/

/-- Adding up amounts onto a running sum gives a running sum, or fails as it may. -/
theorem sumFrom_running {slack : Nat} (some : 1 ≤ slack) (few : slack ≤ 5) {amounts : List Decimal}
    {units : List Nat} (records : List.Forall₂ (Records slack) amounts units) {start : Decimal}
    {before : Nat} (running : Running (2 * slack) start before) :
    Settles (2 * slack) (Decimal.sumFrom start amounts) (before + units.sum) := by
  induction records generalizing start before with
  | nil => exact .inl ⟨start, rfl, running⟩
  | @cons amount unit amounts units record _ ih =>
    rw [List.sum_cons, ← Nat.add_assoc]
    rcases add_running some few running record with
      ⟨next, added, nextRunning⟩ | ⟨failure, failed, refused⟩
    · rw [Decimal.sumFrom, added]
      exact ih nextRunning
    · rw [Decimal.sumFrom, failed]
      exact .inr ⟨failure, rfl, refused.mono (Nat.le_add_right _ _)⟩

/-- What can be rounded to two decimals becomes an amount below the limit, with the same sign. -/
theorem round_eq_ok {negative : Bool} {digits : Nat} {exponent : Int} {amount : Decimal}
    (rounded : round (.finite negative digits exponent) = .ok amount) :
    ∃ units, amount = .finite negative units place ∧ units < limit ∧ (digits = 0 → units = 0) := by
  unfold round Decimal.quantize at rounded
  dsimp only at rounded
  split at rounded
  · cases rounded
    exact ⟨0, rfl, limit_pos, fun _ => rfl⟩
  · rename_i nonzero
    generalize (if place ≤ exponent then _ else _) = nearest at rounded
    split at rounded
    · cases rounded
    · split at rounded
      · cases rounded
      · rename_i short
        cases rounded
        rw [precision_lt_length_iff, Nat.not_le] at short
        exact ⟨nearest, rfl, short, fun zero => absurd zero nonzero⟩

/-- An amount below the limit is not changed by rounding to two decimals. -/
theorem round_place {units : Nat} (negative : Bool) (small : units < limit) :
    round (.finite negative units place) = .ok (.finite negative units place) := by
  have short : ¬ precision < length units := Nat.not_lt.mpr (length_le_of_lt_limit small)
  have within : ¬ (precision : Int) < length units := by
    omega
  simp only [round, Decimal.quantize, Int.sub_self, Int.add_zero, within, if_false, Int.le_refl,
    if_true, Int.toNat_zero, tenTo_zero, Nat.mul_one, short]
  split
  · rename_i zero
    rw [zero]
  · rfl

/-- An amount beyond the limit can not be rounded to two decimals. -/
theorem round_beyond {digits zeros : Nat} (negative : Bool) (large : limit ≤ digits * tenTo zeros) :
    round (.finite negative digits (place + zeros)) = .error .invalidOperation := by
  have positive : 0 < digits :=
    Nat.pos_of_mul_pos_right (Nat.lt_of_lt_of_le limit_pos large)
  have long : precision < length digits + zeros := by
    rw [← length_mul_tenTo positive, precision_lt_length_iff]
    exact large
  have longer : (precision : Int) < length digits + (place + (zeros : Int) - place) := by
    omega
  simp only [round, Decimal.quantize, positive.ne', if_false, if_pos longer]

/-- A sum that is rounded to two decimals at its end is exact, or it fails as it may. -/
theorem round_of_settles {slack units : Nat} {outcome : Except Failure Decimal}
    (settles : Settles slack outcome units) :
    units < limit ∧ outcome.bind round = .ok (ofUnits units) ∨
      ∃ failure, outcome.bind round = .error failure ∧ Refused units failure := by
  rcases settles with ⟨x, rfl, running⟩ | ⟨failure, rfl, refused⟩
  · rcases Nat.lt_or_ge units limit with small | large
    · rw [running.eq_ofUnits small]
      exact .inl ⟨small, round_place false small⟩
    · rcases running with ⟨digits, zeros, rfl, _, stand⟩
      exact .inr ⟨.invalidOperation, round_beyond false (stand.beyond large), large, by simp⟩
  · exact .inr ⟨failure, rfl, refused⟩

end Checkout.Money
