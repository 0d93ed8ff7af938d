import Checkout.Decimal.Printer
import Checkout.Proofs.Money.Spelling

/-!
# Amounts that are written and shown

An amount is written with the point in front of its last two digits, and with a minus sign if it has
one, be it zero or not.  What is written is read back as the same amount.  In the default style an
amount below one unit is shown in minor units and every other amount with the currency symbol in
front of what is written, so amounts that are shown alike are the same.
-/

namespace Checkout

open Text (IsWord)
open Text.Numeral (isDigits isDigits_iff value ofNat ofInt tenTo length length_pos)

theorem Text.isWord_of_isDigits {text : List Char} (digits : isDigits text = true) :
    IsWord text := by
  obtain ⟨some, all⟩ := isDigits_iff.mp digits
  exact ⟨some, fun c isIn => not_isBlank_of_mem_figures (Case.mem_figures_of_isDigit (all c isIn))⟩

theorem Text.isWord_ofInt (n : Int) : IsWord (ofInt n) := by
  have digits := isWord_of_isDigits (Numeral.isDigits_ofNat n.natAbs)
  have minus : IsWord ['-'] := by decide
  unfold ofInt
  split
  · exact minus.append digits
  · exact digits

namespace Decimal

/-! ## Writing -/

/-- A text is some digits with a point in front of the last two of them, and has this value without
the point. -/
def IsCentsOf (text : List Char) (units : Nat) : Prop :=
  ∃ whole fraction, text = whole ++ '.' :: fraction ∧ isDigits whole = true ∧
    isDigits fraction = true ∧ fraction.length = 2 ∧ value (whole ++ fraction) = units

/-- One or two digits get a point, and zeros where there are none. -/
theorem isCentsOf_padded {digits : List Char} (areDigits : isDigits digits = true)
    (short : digits.length ≤ 2) :
    IsCentsOf ('0' :: '.' :: List.replicate (2 - digits.length) '0' ++ digits) (value digits) := by
  obtain ⟨some, all⟩ := isDigits_iff.mp areDigits
  refine ⟨['0'], List.replicate (2 - digits.length) '0' ++ digits, rfl, by decide, ?_, ?_, ?_⟩
  · rw [isDigits_iff, List.forall_mem_append]
    refine ⟨List.append_ne_nil_of_right_ne_nil _ some, ?_, all⟩
    intro c isIn
    rw [List.eq_of_mem_replicate isIn]
    decide
  · rw [List.length_append, List.length_replicate]
    omega
  · exact Text.Numeral.value_zeros_append (2 - digits.length + 1) digits

/-- More digits are divided in front of the last two. -/
theorem isCentsOf_divided {digits : List Char} (areDigits : isDigits digits = true)
    (long : 2 < digits.length) :
    IsCentsOf (digits.take (digits.length - 2) ++ '.' :: digits.drop (digits.length - 2))
      (value digits) := by
  obtain ⟨_, all⟩ := isDigits_iff.mp areDigits
  refine ⟨_, _, rfl, ?_, ?_, ?_, ?_⟩
  · rw [isDigits_iff, ← List.length_pos_iff, List.length_take]
    exact ⟨by omega, fun c isIn => all c (List.mem_of_mem_take isIn)⟩
  · rw [isDigits_iff, ← List.length_pos_iff, List.length_drop]
    exact ⟨by omega, fun c isIn => all c (List.mem_of_mem_drop isIn)⟩
  · rw [List.length_drop]
    omega
  · rw [List.take_append_drop]

/-- Two of the digits of an amount stand behind the point, and at least one in front of it. -/
theorem isCentsOf_writeMagnitude (units : Nat) :
    IsCentsOf (writeMagnitude units Money.place) units := by
  have digits := Text.Numeral.isDigits_ofNat units
  have positive := length_pos units
  have first : adjusted units Money.place + 1 = (length units : Int) - 2 := by
    rw [adjusted, Money.place]
    omega
  have positional : Money.place ≤ 0 ∧ leastPositional ≤ adjusted units Money.place := by
    rw [Money.place, leastPositional]
    rw [Money.place] at first
    omega
  rw [writeMagnitude, if_pos positional, first, placePoint]
  by_cases short : length units ≤ 2
  · have zeros : (-((length units : Int) - 2)).toNat = 2 - (ofNat units).length := by
      rw [← length]
      omega
    have padded := isCentsOf_padded digits short
    rw [Text.Numeral.value_ofNat] at padded
    rwa [if_pos (by omega), zeros]
  · have count : ((length units : Int) - 2).toNat = (ofNat units).length - 2 := by
      rw [← length]
      omega
    have more : ¬(ofNat units).length ≤ (ofNat units).length - 2 := by
      rw [← length]
      omega
    have divided := isCentsOf_divided digits (Nat.not_le.mp short)
    rw [Text.Numeral.value_ofNat] at divided
    rwa [if_neg (by omega), count, if_neg more]

end Decimal

namespace Money

open Decimal (signed)
open Decimal.Literal (IsSign Spelling Spells)

/-- Without a sign, what is written of an amount writes its minor units. -/
theorem writes_write (units : Nat) : Writes (ofUnits units).write units := by
  obtain ⟨whole, fraction, shape, isWhole, isFraction, places, worth⟩ :=
    Decimal.isCentsOf_writeMagnitude units
  exact ⟨whole, fraction, shape, isWhole, isFraction, by rw [worth, places]; rfl⟩

theorem isWord_write (negative : Bool) (units : Nat) :
    IsWord (Decimal.finite negative units place).write := by
  obtain ⟨whole, fraction, shape, isWhole, isFraction, _⟩ :=
    Decimal.isCentsOf_writeMagnitude units
  have point : IsWord ['.'] := by decide
  have minus : IsWord ['-'] := by decide
  have unsigned : IsWord (whole ++ '.' :: fraction) :=
    (Text.isWord_of_isDigits isWhole).append (point.append (Text.isWord_of_isDigits isFraction))
  rw [Decimal.write, shape]
  cases negative with
  | false => exact unsigned
  | true => exact minus.append unsigned

/-- What is written of an amount is read back, with its sign. -/
theorem read?_write (negative : Bool) {units : Nat} (small : units < limit) :
    read? (Decimal.finite negative units place).write = some (.finite negative units place) := by
  obtain ⟨whole, fraction, shape, isWhole, isFraction, places, worth⟩ :=
    Decimal.isCentsOf_writeMagnitude units
  have isSign : IsSign (if negative then ['-'] else []) negative := by
    cases negative with
    | false => exact .bare
    | true => exact .minus
  have areDigits : isDigits (whole ++ fraction) = true := by
    rw [isDigits_iff, List.forall_mem_append]
    exact ⟨List.append_ne_nil_of_left_ne_nil (isDigits_iff.mp isWhole).1 _,
      (isDigits_iff.mp isWhole).2, (isDigits_iff.mp isFraction).2⟩
  let spelling : Spelling := ⟨negative, whole, fraction, 0⟩
  have spells : Spells (Decimal.finite negative units place).write spelling := by
    have parts : Spells (_ ++ (whole ++ '.' :: fraction) ++ []) spelling :=
      .parts isSign (.pointed areDigits) .bare
    rwa [List.append_nil, ← shape] at parts
  have isWorth : IsWorth spelling.literal.coefficient spelling.literal.exponent units := by
    have exponent : spelling.literal.exponent = -(fraction.length : Int) := Int.zero_sub _
    have coefficient : spelling.literal.coefficient = units := worth
    rw [exponent, coefficient, isWorth_neg_iff, places]
    rfl
  rw [read?_eq_some_iff, Text.trim_of_noBlank (isWord_write negative units).2]
  exact ⟨spelling.literal, units, Decimal.Literal.read?_of_spells spells,
    (inRange_iff_isCarried small isWorth).mpr (.inl rfl), isWorth, small, rfl⟩

/-! ## Showing -/

/-- An amount as it is shown in the default style. -/
def shownChars (negative : Bool) (units : Nat) : List Char :=
  if 0 < units ∧ units < 100 then ofInt (signed negative units) ++ ['p']
  else '£' :: (Decimal.finite negative units place).write

theorem isMinor_place (negative : Bool) (units : Nat) :
    isMinor (.finite negative units place) = .ok (decide (0 < units ∧ units < 100)) := by
  have zero : Decimal.compare? (.finite negative units place) (Decimal.ofInt 0) = some .eq ↔
      units = 0 := by
    rw [Decimal.ofInt, Decimal.compare?_finite, Option.some.injEq, Int.compare_eq_eq]
    cases negative <;> simp [Decimal.multiple, signed, place]
  have less : Decimal.less (Decimal.abs (.finite negative units place)) (Decimal.ofInt 1) =
      .ok (decide (units < 100)) := by
    have hundred : tenTo 2 = 100 := rfl
    rw [Decimal.ofInt, Decimal.abs, Decimal.less_finite, Except.ok.injEq, decide_eq_decide]
    simp [Decimal.multiple, signed, place, hundred]
  unfold isMinor
  by_cases none : units = 0
  · rw [if_pos (beq_iff_eq.mpr (zero.mpr none)), none]
    rfl
  · rw [if_neg (mt beq_iff_eq.mp (mt zero.mp none)), less]
    simp [Nat.pos_of_ne_zero none]

theorem minorUnits_place (negative : Bool) (units : Nat) :
    minorUnits (.finite negative units place) = signed negative units := by
  simp [minorUnits, Decimal.truncate, signed]

/-- An amount that can be held is shown like this. -/
theorem show_place (negative : Bool) {units : Nat} (small : units < limit) :
    «show» {} (.finite negative units place) = .ok (String.ofList (shownChars negative units)) := by
  have exact : round (.finite negative units place) = .ok (.finite negative units place) :=
    round_place negative small
  have suffix : Value.showing (.text "p") = .ok "p" := rfl
  have symbol : Value.showing (.text "£") = .ok "£" := rfl
  simp only [«show», exact, Fault.ofArithmetic_ok, showRounded, isMinor_place, suffix, symbol, bind,
    Except.bind, minorUnits_place, shownChars, decide_eq_true_iff]
  split
  · rw [String.ofList_append]
    rfl
  · rw [← List.singleton_append, String.ofList_append]
    rfl

theorem isWord_shownChars (negative : Bool) (units : Nat) : IsWord (shownChars negative units) := by
  unfold shownChars
  split
  · exact (Text.isWord_ofInt _).append (by decide)
  · have symbol : IsWord ['£'] := by decide
    exact symbol.append (isWord_write negative units)

theorem signed_inj {negative other : Bool} {units more : Nat} (some : 0 < units)
    (same : signed negative units = signed other more) : negative = other ∧ units = more := by
  unfold signed at same
  cases negative <;> cases other <;> simp at same ⊢ <;> omega

/-- Amounts that are shown alike are the same. -/
theorem shownChars_inj {negative other : Bool} {units more : Nat} (small : units < limit)
    (alsoSmall : more < limit) (same : shownChars negative units = shownChars other more) :
    negative = other ∧ units = more := by
  -- The symbol is neither a digit nor a sign, so it tells which of the two forms an amount has.
  have noSymbol : ∀ n, '£' ∉ ofInt n ++ ['p'] := by
    intro n
    have isNone := Text.Numeral.not_mem_ofInt (c := '£') (by decide) (by decide) n
    simp [isNone]
  unfold shownChars at same
  split at same <;> split at same
  · rename_i minor _
    rw [List.append_cancel_right_eq, Text.Numeral.ofInt_inj] at same
    exact signed_inj minor.1 same
  · exact absurd (same ▸ List.mem_cons_self) (noSymbol _)
  · exact absurd (same ▸ List.mem_cons_self) (noSymbol _)
  · have readBack := congrArg read? (List.cons.inj same).2
    rw [read?_write negative small, read?_write other alsoSmall] at readBack
    cases readBack
    exact ⟨rfl, rfl⟩

/-- The same of amounts without a sign. -/
theorem shownChars_eq_iff {units more : Nat} (small : units < limit) (alsoSmall : more < limit) :
    shownChars false units = shownChars false more ↔ units = more := by
  constructor
  · intro same
    exact (shownChars_inj small alsoSmall same).2
  · exact congrArg (shownChars false)

end Money

end Checkout
