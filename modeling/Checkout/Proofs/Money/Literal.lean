import Checkout.Proofs.Decimal.Order
import Checkout.Proofs.Decimal.Spelling
import Checkout.Proofs.Money.Running
import Checkout.Proofs.Text.Case
import Checkout.Proofs.Text.Words

/-!
# Literals that are worth an amount

A literal may have more digits than an amount, or fewer: it stands for an amount exactly if its
value is a whole number of minor units, and that number can be held.  The main statement is that
just these literals are read.  It is then read off digits that are written around a point, for
which there is no limit on how many of them there are.
-/

namespace Checkout

open Text.Numeral (tenTo tenTo_zero tenTo_add tenTo_pos length length_mul_tenTo isDigits value)

namespace Money

/-- A coefficient with a power of ten is worth a whole number of minor units: both are the same
multiple of the smaller of the two powers. -/
def IsWorth (coefficient : Nat) (exponent : Int) (units : Nat) : Prop :=
  coefficient * tenTo (exponent - min exponent place).toNat =
    units * tenTo (place - min exponent place).toNat

theorem IsWorth.eq_zero_iff {coefficient units : Nat} {exponent : Int}
    (worth : IsWorth coefficient exponent units) : coefficient = 0 ↔ units = 0 := by
  have zero : coefficient * tenTo (exponent - min exponent place).toNat = 0 ↔
      units * tenTo (place - min exponent place).toNat = 0 := by rw [worth]
  simpa [(tenTo_pos _).ne'] using zero

/-- The first digit of a literal and that of the amount stand in the same place. -/
theorem IsWorth.adjusted_eq {coefficient units : Nat} {exponent : Int}
    (worth : IsWorth coefficient exponent units) (positive : 0 < coefficient) :
    Decimal.adjusted coefficient exponent = Decimal.adjusted units place := by
  have unitsPositive : 0 < units := Nat.pos_of_ne_zero fun none =>
    positive.ne' (worth.eq_zero_iff.mpr none)
  have first := Decimal.adjusted_scaled positive (Int.min_le_left exponent place)
  have second := Decimal.adjusted_scaled unitsPositive (Int.min_le_right exponent place)
  rw [worth] at first
  omega

/-- What is worth an amount that can be held is rounded to that amount. -/
theorem round_of_isWorth (negative : Bool) {coefficient units : Nat} {exponent : Int}
    (worth : IsWorth coefficient exponent units) (small : units < limit) :
    round (.finite negative coefficient exponent) = .ok (.finite negative units place) := by
  rcases Nat.eq_zero_or_pos coefficient with zero | positive
  · rw [worth.eq_zero_iff.mp zero, zero]
    rfl
  · have sameFirst := worth.adjusted_eq positive
    have short := length_le_of_lt_limit small
    have within : ¬ (Decimal.precision : Int) < length coefficient + (exponent - place) := by
      simp only [Decimal.adjusted] at sameFirst
      omega
    have rounded : (if place ≤ exponent then coefficient * tenTo (exponent - place).toNat
        else Decimal.dropDigits coefficient (place - exponent).toNat) = units := by
      unfold IsWorth at worth
      split
      · rename_i le
        rw [Int.min_eq_right le, Int.sub_self, Int.toNat_zero, tenTo_zero, Nat.mul_one] at worth
        exact worth
      · rename_i less
        rw [Int.min_eq_left (Int.not_le.mp less).le, Int.sub_self, Int.toNat_zero, tenTo_zero,
          Nat.mul_one] at worth
        rw [worth, Decimal.dropDigits_eq_nearest, Decimal.nearest_mul (tenTo_pos _)]
    simp only [round, Decimal.quantize, if_neg positive.ne', if_neg within, rounded,
      if_neg (Nat.not_lt.mpr short)]

/-- Being equal in value to an amount of the same sign is being worth it. -/
theorem compare?_place_eq_iff (negative : Bool) {coefficient units : Nat} {exponent : Int} :
    Decimal.compare? (.finite negative units place) (.finite negative coefficient exponent) =
      some .eq ↔ IsWorth coefficient exponent units := by
  rw [Decimal.compare?_finite, Option.some.injEq, Int.compare_eq_eq, Int.min_comm, IsWorth,
    Decimal.multiple, Decimal.multiple]
  cases negative <;> simp only [Decimal.signed, if_true, if_false, Bool.false_eq_true] <;> omega

/-- Just the literals that are worth an amount are read, if a number can carry them, and the amount
has their sign. -/
theorem read?_eq_some_iff {text : List Char} {amount : Decimal} :
    read? text = some amount ↔
      ∃ literal units, Decimal.Literal.read? (Text.trim text) = some literal ∧
        literal.inRange = true ∧ IsWorth literal.coefficient literal.exponent units ∧
        units < limit ∧ amount = .finite literal.negative units place := by
  unfold read?
  constructor
  · intro read
    obtain ⟨literal, isLiteral, afterLiteral⟩ := Option.bind_eq_some_iff.mp read
    obtain ⟨exact, isExact, afterExact⟩ := Option.bind_eq_some_iff.mp afterLiteral
    obtain ⟨nearest, isRounded, final⟩ := Option.bind_eq_some_iff.mp afterExact
    rw [Option.ite_none_right_eq_some, beq_iff_eq, Option.some.injEq] at final
    obtain ⟨sameValue, rfl⟩ := final
    rw [Decimal.Literal.toDecimal?, Option.ite_none_right_eq_some, Option.some.injEq] at isExact
    obtain ⟨inRange, rfl⟩ := isExact
    obtain ⟨units, rfl, small, _⟩ := round_eq_ok (toOption_eq_some_iff.mp isRounded)
    exact ⟨literal, units, isLiteral, inRange, (compare?_place_eq_iff _).mp sameValue, small, rfl⟩
  · rintro ⟨literal, units, isLiteral, inRange, worth, small, rfl⟩
    have sameValue := (compare?_place_eq_iff literal.negative).mpr worth
    simp [isLiteral, Decimal.Literal.toDecimal?, inRange, round_of_isWorth _ worth small,
      Except.toOption, sameValue]

end Money

/-! ## Digits around a point -/

theorem Text.not_isBlank_of_mem_figures {c : Char} (isFigure : c ∈ Case.figures) :
    isBlank c = false := by
  have noneBlank : (Case.figures.all fun c => !isBlank c) = true := by decide
  have notBlank := List.all_eq_true.mp noneBlank c isFigure
  rwa [Bool.not_eq_true'] at notBlank

namespace Decimal.Literal

/-- Digits around a point are a literal whose last digit is that behind the point. -/
theorem read?_point {whole fraction : List Char} (isWhole : isDigits whole = true)
    (isFraction : isDigits fraction = true) :
    read? (whole ++ '.' :: fraction) =
      some { negative := false, coefficient := value (whole ++ fraction),
             exponent := -(fraction.length : Int), decimals := fraction.length } := by
  obtain ⟨someWhole, allWhole⟩ := Text.Numeral.isDigits_iff.mp isWhole
  obtain ⟨_, allFraction⟩ := Text.Numeral.isDigits_iff.mp isFraction
  have areDigits : isDigits (whole ++ fraction) = true :=
    Text.Numeral.isDigits_iff.mpr ⟨List.append_ne_nil_of_left_ne_nil someWhole fraction,
      List.forall_mem_append.mpr ⟨allWhole, allFraction⟩⟩
  have spells : Spells ([] ++ (whole ++ '.' :: fraction) ++ []) ⟨false, whole, fraction, 0⟩ :=
    .parts .bare (.pointed areDigits) .bare
  rw [List.nil_append, List.append_nil] at spells
  rw [read?_of_spells spells, Spelling.literal, Int.zero_sub]

end Decimal.Literal

namespace Money

/-- Digits, a point and digits write a number of minor units: their value is exactly that amount. -/
def Writes (word : List Char) (units : Nat) : Prop :=
  ∃ whole fraction, word = whole ++ '.' :: fraction ∧ isDigits whole = true ∧
    isDigits fraction = true ∧ value (whole ++ fraction) * 100 = units * tenTo fraction.length

theorem isWorth_neg_iff {coefficient decimals units : Nat} :
    IsWorth coefficient (-(decimals : Int)) units ↔
      coefficient * 100 = units * tenTo decimals := by
  have hundred : (100 : Nat) = tenTo 2 := rfl
  rw [IsWorth, place, hundred]
  rcases Nat.le_total 2 decimals with le | le
  · obtain ⟨more, rfl⟩ := Nat.exists_eq_add_of_le le
    have least : min (-((2 + more : Nat) : Int)) (-2) = -((2 + more : Nat) : Int) := by omega
    have first : (-((2 + more : Nat) : Int) - -((2 + more : Nat) : Int)).toNat = 0 := by omega
    have second : (-2 - -((2 + more : Nat) : Int)).toNat = more := by omega
    rw [least, first, second, tenTo_zero, Nat.mul_one, tenTo_add, Nat.mul_left_comm,
      Nat.mul_comm coefficient, Nat.mul_right_inj (tenTo_pos 2).ne']
  · obtain ⟨more, whole⟩ := Nat.exists_eq_add_of_le le
    have least : min (-(decimals : Int)) (-2) = -2 := by omega
    have first : (-(decimals : Int) - -2).toNat = more := by omega
    rw [least, first, Int.sub_self, Int.toNat_zero, tenTo_zero, Nat.mul_one, whole, tenTo_add,
      Nat.mul_left_comm, Nat.mul_comm units, Nat.mul_right_inj (tenTo_pos decimals).ne']

/-- Digits around a point are read exactly if they write an amount that can be held, however many
digits there are. -/
theorem read?_point_eq_some_iff {whole fraction : List Char} (isWhole : isDigits whole = true)
    (isFraction : isDigits fraction = true) {amount : Decimal} :
    read? (whole ++ '.' :: fraction) = some amount ↔
      ∃ units, value (whole ++ fraction) * 100 = units * tenTo fraction.length ∧ units < limit ∧
        amount = ofUnits units := by
  have noBlank : ∀ c ∈ whole ++ '.' :: fraction, Text.isBlank c = false := by
    intro c isIn
    apply Text.not_isBlank_of_mem_figures
    rcases List.mem_append.mp isIn with inWhole | inRest
    · exact Text.Case.mem_figures_of_isDigit ((Text.Numeral.isDigits_iff.mp isWhole).2 c inWhole)
    · rcases List.mem_cons.mp inRest with rfl | inFraction
      · decide
      · exact Text.Case.mem_figures_of_isDigit
          ((Text.Numeral.isDigits_iff.mp isFraction).2 c inFraction)
  rw [read?_eq_some_iff, Text.trim_of_noBlank noBlank,
    Decimal.Literal.read?_point isWhole isFraction]
  constructor
  · rintro ⟨literal, units, isLiteral, _, worth, small, rfl⟩
    rw [← Option.some.inj isLiteral] at worth ⊢
    exact ⟨units, isWorth_neg_iff.mp worth, small, rfl⟩
  · rintro ⟨units, written, small, rfl⟩
    have worth := isWorth_neg_iff.mpr written
    refine ⟨_, units, rfl, ?_, worth, small, rfl⟩
    rcases Nat.eq_zero_or_pos (value (whole ++ fraction)) with zero | positive
    · simp [Decimal.Literal.inRange, zero, Decimal.Literal.topExponent]
    · have first := worth.adjusted_eq positive
      have short := length_le_of_lt_limit small
      simp only [Decimal.adjusted, place, Decimal.precision] at first short
      simp [Decimal.Literal.inRange, positive.ne', Decimal.Literal.topExponent, Decimal.adjusted]
      omega

end Money

end Checkout
