import Checkout.Text.Numeral
import Mathlib.Algebra.Order.Group.Nat
import Mathlib.Algebra.Order.Ring.Nat
import Mathlib.Tactic.Ring

/-!
# How many digits a number has

The number of digits of a positive number tells between which two powers of ten it lies, and
multiplying by a power of ten adds that many digits.  All bounds on rounded results are drawn from
these facts; none of them looks at the digits themselves.

Digits that are read may begin with zeros.  A number is written without them, so it never has more
digits than it was read from.
-/

namespace Checkout.Text.Numeral

theorem tenTo_add (first second : Nat) : tenTo (first + second) = tenTo first * tenTo second :=
  Nat.pow_add 10 first second

theorem tenTo_le_tenTo_iff {first second : Nat} : tenTo first ≤ tenTo second ↔ first ≤ second :=
  Nat.pow_le_pow_iff_right (by decide)

/-- A power of ten divides every larger one. -/
theorem exists_tenTo_eq_mul {first second : Nat} (le : first ≤ second) :
    ∃ factor, tenTo second = factor * tenTo first := by
  refine ⟨tenTo (second - first), ?_⟩
  rw [← tenTo_add, Nat.sub_add_cancel le]

/-- A number is below the power of ten with as many zeros as it has digits. -/
theorem lt_tenTo_length (n : Nat) : n < tenTo (length n) :=
  (length_le_iff (length_pos n)).mp (Nat.le_refl _)

/-- A positive number has more than `count` digits exactly when it reaches that power of ten. -/
theorem lt_length_iff {n count : Nat} (positive : 0 < n) : count < length n ↔ tenTo count ≤ n := by
  rcases Nat.eq_zero_or_pos count with zero | countPositive
  · subst zero
    simp only [length_pos, tenTo_zero, true_iff]
    exact positive
  · rw [← Nat.not_le, length_le_iff countPositive, Nat.not_lt]

/-- A positive number has one digit more than the zeros of the power of ten that it reaches without
reaching the next. -/
theorem length_eq_succ_iff {n count : Nat} (positive : 0 < n) :
    length n = count + 1 ↔ tenTo count ≤ n ∧ n < tenTo (count + 1) := by
  rw [← lt_length_iff positive, ← length_le_iff (Nat.succ_pos count)]
  omega

theorem length_le_length {first second : Nat} (le : first ≤ second) :
    length first ≤ length second :=
  (length_le_iff (length_pos second)).mpr (Nat.lt_of_le_of_lt le (lt_tenTo_length second))

/-- Multiplying a positive number by a power of ten writes that many zeros behind it. -/
theorem length_mul_tenTo {n : Nat} (positive : 0 < n) (count : Nat) :
    length (n * tenTo count) = length n + count := by
  obtain ⟨digits, digitsEq⟩ := Nat.exists_eq_succ_of_ne_zero (length_pos n).ne'
  obtain ⟨lower, upper⟩ := (length_eq_succ_iff positive).mp digitsEq
  have scaledPositive : 0 < n * tenTo count := Nat.mul_pos positive (tenTo_pos count)
  have scaled : length (n * tenTo count) = digits + count + 1 := by
    rw [length_eq_succ_iff scaledPositive]
    constructor
    · rw [tenTo_add]
      exact Nat.mul_le_mul_right _ lower
    · rw [Nat.add_right_comm, tenTo_add]
      exact Nat.mul_lt_mul_of_pos_right upper (tenTo_pos count)
  omega

/-- Digits put behind a number do not change in front of which power of ten it lies. -/
theorem length_mul_tenTo_add {n below count : Nat} (positive : 0 < n) (less : below < tenTo count) :
    length (n * tenTo count + below) = length n + count := by
  obtain ⟨digits, digitsEq⟩ := Nat.exists_eq_succ_of_ne_zero (length_pos n).ne'
  obtain ⟨lower, upper⟩ := (length_eq_succ_iff positive).mp digitsEq
  have scaledPositive : 0 < n * tenTo count + below :=
    Nat.add_pos_left (Nat.mul_pos positive (tenTo_pos count)) _
  have scaled : length (n * tenTo count + below) = digits + count + 1 := by
    rw [length_eq_succ_iff scaledPositive]
    constructor
    · rw [tenTo_add]
      exact Nat.le_add_right_of_le (Nat.mul_le_mul_right _ lower)
    · rw [Nat.add_right_comm, tenTo_add]
      calc
        n * tenTo count + below < n * tenTo count + tenTo count := by omega
        _ = (n + 1) * tenTo count := by ring
        _ ≤ tenTo (digits + 1) * tenTo count := Nat.mul_le_mul_right _ upper
  omega

/-! ## Digits that are read and written -/

theorem isDigits_ofNat (n : Nat) : isDigits (ofNat n) = true :=
  isDigits_iff.mpr
    ⟨Nat.toDigits_ne_nil, fun _ isIn => Nat.isDigit_of_mem_toDigits (by decide) (by decide) isIn⟩

/-- Two numbers that are written alike are the same. -/
theorem ofNat_inj {first second : Nat} : ofNat first = ofNat second ↔ first = second := by
  constructor
  · intro same
    rw [← value_ofNat first, same, value_ofNat]
  · exact congrArg ofNat

theorem not_mem_ofNat {c : Char} (noDigit : c.isDigit = false) (n : Nat) : c ∉ ofNat n := by
  intro isIn
  rw [(isDigits_iff.mp (isDigits_ofNat n)).2 c isIn] at noDigit
  cases noDigit

theorem not_mem_ofInt {c : Char} (noDigit : c.isDigit = false) (noSign : c ≠ '-') (n : Int) :
    c ∉ ofInt n := by
  have noFigure := not_mem_ofNat noDigit n.natAbs
  unfold ofInt
  split
  · exact List.not_mem_cons_of_ne_of_not_mem noSign noFigure
  · exact noFigure

theorem ofInt_inj {first second : Int} : ofInt first = ofInt second ↔ first = second := by
  constructor
  · intro same
    have noMinus : ∀ n, '-' ∉ ofNat n := not_mem_ofNat (by decide)
    unfold ofInt at same
    split at same <;> split at same
    · have magnitudes := ofNat_inj.mp (List.cons.inj same).2
      omega
    · exact absurd (same ▸ List.mem_cons_self) (noMinus _)
    · exact absurd (same ▸ List.mem_cons_self) (noMinus _)
    · have magnitudes := ofNat_inj.mp same
      omega
  · exact congrArg ofInt

/-- Zeros in front of digits do not count. -/
theorem value_zeros_append (count : Nat) (digits : List Char) :
    value (List.replicate count '0' ++ digits) = value digits := by
  rw [value, Nat.ofDigitChars_append, Nat.ofDigitChars_replicate_zero, Nat.mul_zero, ← value]

theorem value_lt_tenTo {digits : List Char} (all : ∀ c ∈ digits, c.isDigit = true) :
    value digits < tenTo digits.length := by
  induction digits with
  | nil => decide
  | cons c rest ih =>
    rw [List.forall_mem_cons] at all
    have below := ih all.2
    have most : c.toNat ≤ 57 := by
      have digit := all.1
      simp only [Char.isDigit, Bool.and_eq_true, decide_eq_true_eq, UInt32.le_iff_toNat_le] at digit
      exact digit.2
    have zero : '0'.toNat = 48 := rfl
    rw [value, Nat.ofDigitChars_cons, Nat.ofDigitChars_eq_ofDigitChars_zero, ← value,
      List.length_cons, tenTo_succ, Nat.mul_zero, Nat.zero_add]
    have scaled : tenTo rest.length * (c.toNat - '0'.toNat) ≤ tenTo rest.length * 9 :=
      Nat.mul_le_mul_left _ (by omega)
    change tenTo rest.length * (c.toNat - '0'.toNat) + value rest < tenTo rest.length * 10
    omega

/-- A number is not written with more digits than it was read from. -/
theorem length_value_le {digits : List Char} (areDigits : isDigits digits = true) :
    length (value digits) ≤ digits.length := by
  obtain ⟨some, all⟩ := isDigits_iff.mp areDigits
  exact (length_le_iff (List.length_pos_iff.mpr some)).mpr (value_lt_tenTo all)

end Checkout.Text.Numeral
