import Checkout.Proofs.Money.Literal
import Checkout.Proofs.Money.Value

/-!
# The amounts that literals write

The value of a literal is a rational number, and the literal is read as an amount exactly if that is
a whole number of minor units which can be held.  The amount then has just this value and the sign
of the literal, also if it is zero.  Neither the number of the digits nor the size of the exponent
matters, as long as a number can carry the exponent at all.
-/

namespace Checkout

open Text.Numeral (value)

namespace Decimal.Literal.Spelling

/-! ## The value of a literal -/

/-- The rational number that is written: the digits with the point among them, times a power of
ten. -/
def toRat (spelling : Spelling) : ℚ :=
  signed spelling.negative (value (spelling.whole ++ spelling.fraction)) /
    10 ^ spelling.fraction.length * 10 ^ spelling.exponent

/-- A number can carry the exponent: there is none, or the power of ten that the last digit stands
for is in the range of all numbers.  So an exponent of up to eighteen digits can be carried. -/
def IsCarried (spelling : Spelling) : Prop :=
  spelling.exponent = 0 ∨
    -1_999_999_999_999_999_997 ≤ spelling.exponent - spelling.fraction.length ∧
      spelling.exponent - spelling.fraction.length ≤ 999_999_999_999_999_999

/-- The value is a whole number of minor units of at most twenty-eight digits. -/
structure IsCents (spelling : Spelling) : Prop where
  whole : ∃ units : ℤ, 100 * spelling.toRat = units
  held : |100 * spelling.toRat| < 10 ^ 28

/-- The literal has the value that is written. -/
theorem toRat_literal (spelling : Spelling) :
    (Decimal.finite spelling.literal.negative spelling.literal.coefficient
      spelling.literal.exponent).toRat = spelling.toRat := by
  have ten : (10 : ℚ) ≠ 0 := by norm_num
  simp only [toRat_finite, literal, toRat, zpow_sub₀ ten, zpow_natCast]
  ring

/-- Where the minor units of a written number are whole, they have its sign. -/
theorem exists_signed_of_eq {spelling : Spelling} {units : ℤ}
    (whole : 100 * spelling.toRat = units) :
    ∃ count : Nat, units = signed spelling.negative count := by
  have magnitude : (0 : ℚ) ≤ 100 * ((value (spelling.whole ++ spelling.fraction) : ℚ) /
      10 ^ spelling.fraction.length * 10 ^ spelling.exponent) := by positivity
  refine ⟨units.natAbs, ?_⟩
  unfold toRat at whole
  cases sign : spelling.negative with
  | false =>
    have notNegative : (0 : ℚ) ≤ units := by simpa [← whole, sign, signed] using magnitude
    have notNegativeWhole : 0 ≤ units := Int.cast_nonneg_iff.mp notNegative
    simpa [signed] using (abs_of_nonneg notNegativeWhole).symm
  | true =>
    have notPositive : (units : ℚ) ≤ 0 := by
      rw [← whole, ← neg_nonneg]
      simpa [sign, signed, neg_div] using magnitude
    have notPositiveWhole : units ≤ 0 := Int.cast_nonpos.mp notPositive
    simp [signed, abs_of_nonpos notPositiveWhole]

end Decimal.Literal.Spelling

namespace Money

open Decimal (signed)
open Decimal.Literal (IsFigures IsScale Spelling Spells)

/-- Being worth an amount is having its value. -/
theorem isWorth_iff_toRat_eq (negative : Bool) {coefficient units : Nat} {exponent : Int} :
    IsWorth coefficient exponent units ↔
      (Decimal.finite negative units place).toRat =
        (Decimal.finite negative coefficient exponent).toRat := by
  rw [← compare?_place_eq_iff negative, Decimal.compare?_eq_compare_toRat, Option.some.injEq,
    compare_eq_iff_eq]

/-- The value is one of an amount that can be held exactly if the literal is worth one. -/
theorem isCents_iff {spelling : Spelling} :
    spelling.IsCents ↔ ∃ units < limit,
      IsWorth spelling.literal.coefficient spelling.literal.exponent units := by
  have worth : ∀ units, IsWorth spelling.literal.coefficient spelling.literal.exponent units ↔
      (signed spelling.negative units : ℚ) / 100 = spelling.toRat := by
    intro units
    rw [isWorth_iff_toRat_eq spelling.literal.negative, spelling.toRat_literal, toRat_place]
    rfl
  constructor
  · rintro ⟨⟨whole, isWhole⟩, held⟩
    obtain ⟨units, rfl⟩ := Spelling.exists_signed_of_eq isWhole
    refine ⟨units, ?_, (worth units).mpr ?_⟩
    · rw [isWhole, abs_signed, ← cast_limit] at held
      exact_mod_cast held
    · rw [← isWhole]
      ring
  · rintro ⟨units, small, isWorth⟩
    have value : 100 * spelling.toRat = signed spelling.negative units := by
      rw [← (worth units).mp isWorth]
      ring
    refine ⟨⟨_, value⟩, ?_⟩
    rw [value, abs_signed, ← cast_limit]
    exact_mod_cast small

/-- Where a literal is worth an amount it can be carried if its exponent can. -/
theorem inRange_iff_isCarried {spelling : Spelling} {units : Nat} (small : units < limit)
    (worth : IsWorth spelling.literal.coefficient spelling.literal.exponent units) :
    spelling.literal.inRange = true ↔ spelling.IsCarried := by
  have least : Decimal.Literal.leastExponent = -1_999_999_999_999_999_997 := rfl
  have top : Decimal.Literal.topExponent = 999_999_999_999_999_999 := rfl
  have exponent : spelling.literal.exponent = spelling.exponent - spelling.fraction.length := rfl
  have decimals : spelling.literal.decimals = spelling.fraction.length := rfl
  rw [Spelling.IsCarried]
  rcases Nat.eq_zero_or_pos spelling.literal.coefficient with zero | positive
  · simp only [Decimal.Literal.inRange, zero, if_true, Bool.and_eq_true, Bool.or_eq_true,
      decide_eq_true_eq]
    omega
  · -- the first digit is that of an amount, which stands far below the top of the range
    have first := worth.adjusted_eq positive
    have short := length_le_of_lt_limit small
    have some := Text.Numeral.length_pos spelling.literal.coefficient
    simp only [Decimal.adjusted, place, Decimal.precision] at first short
    simp only [Decimal.Literal.inRange, positive.ne', if_false, Bool.and_eq_true, Bool.or_eq_true,
      decide_eq_true_eq]
    rw [Decimal.adjusted]
    omega

/-- A text is read exactly if, but for blanks around it, it is spelled like a literal whose value is
a whole number of minor units which can be held; the amount has the value and the sign of the
literal.  The exponent has to be one that a number can carry, and so is every exponent of up to
eighteen digits. -/
theorem read?_iff_spells_cents (text : List Char) :
    (∀ amount, read? text = some amount ↔
      ∃ spelling, Spells (Text.trim text) spelling ∧ spelling.IsCarried ∧ spelling.IsCents ∧
        (∃ units, amount = .finite spelling.negative units place) ∧
        amount.toRat = spelling.toRat) ∧
      ∀ spelling, Spells (Text.trim text) spelling → |spelling.exponent| < 10 ^ 18 →
        spelling.fraction.length + 1 < 10 ^ 18 → spelling.IsCarried := by
  constructor
  · intro amount
    rw [read?_eq_some_iff]
    constructor
    · rintro ⟨literal, units, isLiteral, inRange, worth, small, rfl⟩
      obtain ⟨spelling, spells, rfl⟩ := Decimal.Literal.read?_eq_some_iff.mp isLiteral
      refine ⟨spelling, spells, (inRange_iff_isCarried small worth).mp inRange,
        isCents_iff.mpr ⟨units, small, worth⟩, ⟨units, rfl⟩, ?_⟩
      rw [(isWorth_iff_toRat_eq _).mp worth, spelling.toRat_literal]
    · rintro ⟨spelling, spells, isCarried, isCents, ⟨written, rfl⟩, sameValue⟩
      obtain ⟨units, small, worth⟩ := isCents_iff.mp isCents
      have exact := (isWorth_iff_toRat_eq spelling.literal.negative).mp worth
      rw [spelling.toRat_literal, ← sameValue] at exact
      obtain rfl := units_eq_of_toRat_eq exact
      exact ⟨spelling.literal, units, Decimal.Literal.read?_of_spells spells,
        (inRange_iff_isCarried small worth).mpr isCarried, worth, small, rfl⟩
  · intro spelling _ below short
    have bounds := abs_lt.mp below
    right
    omega

/-- A literal with blanks around it that has more digits than an amount, and a sign and an exponent
of ten. -/
theorem read?_iff_spells_cents_padded :
    let text := " -.25000e1\n".toList
    let spelling : Spelling := ⟨true, [], "25000".toList, 1⟩
    Spells (Text.trim text) spelling ∧ spelling.IsCarried ∧
      read? text = some (.finite true 250 place) := by
  intro text spelling
  have figures : IsFigures ([] ++ '.' :: "25000".toList) [] "25000".toList :=
    .pointed (by decide)
  have scale : IsScale ('e' :: ([] ++ "1".toList)) (signed false (value "1".toList)) :=
    .marked (.inl rfl) .bare (by decide)
  have parts : Spells (['-'] ++ ([] ++ '.' :: "25000".toList) ++ 'e' :: ([] ++ "1".toList))
      spelling := .parts .minus figures scale
  have spells : Spells (Text.trim text) spelling := parts
  have value : spelling.toRat = -250 / 100 := by
    have digits : value (spelling.whole ++ spelling.fraction) = 25000 := by decide
    have places : spelling.fraction.length = 5 := rfl
    simp only [Spelling.toRat, digits, places, signed, spelling]
    norm_num
  have isCents : spelling.IsCents := by
    rw [isCents_iff]
    exact ⟨250, by decide, by unfold IsWorth; decide⟩
  have isCarried := (read?_iff_spells_cents text).2 spelling spells (by decide) (by decide)
  have same : (Decimal.finite true 250 place).toRat = spelling.toRat := by
    rw [toRat_place, value]
    norm_num [signed]
  exact ⟨spells, isCarried, ((read?_iff_spells_cents text).1 _).mpr
    ⟨spelling, spells, isCarried, isCents, ⟨250, rfl⟩, same⟩⟩

end Money

end Checkout
