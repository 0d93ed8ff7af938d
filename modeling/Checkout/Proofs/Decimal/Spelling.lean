import Checkout.Decimal.Arithmetic
import Checkout.Decimal.Literal

/-!
# How literals are spelled

A plain literal is a sign, digits with a point among them and an exponent of ten, of which only some
digits have to be there.  This is the grammar of the reader turned into a relation between texts and
the parts that they write.  The main statement has both directions: every text that is read is
spelled like this, and every text that is spelled like this is read, to the literal of its parts.
-/

namespace Checkout

open Text.Numeral (isDigits isDigits_iff value)

theorem Text.Numeral.takeWhile_isDigit_point {whole : List Char}
    (digits : ∀ c ∈ whole, c.isDigit = true) (rest : List Char) :
    (whole ++ '.' :: rest).takeWhile Char.isDigit = whole := by
  rw [List.takeWhile_append_of_pos digits, List.takeWhile_cons_of_neg (by decide), List.append_nil]

theorem Text.Numeral.dropWhile_isDigit_point {whole : List Char}
    (digits : ∀ c ∈ whole, c.isDigit = true) (rest : List Char) :
    (whole ++ '.' :: rest).dropWhile Char.isDigit = '.' :: rest := by
  rw [List.dropWhile_append_of_pos digits, List.dropWhile_cons_of_neg (by decide)]

namespace Decimal.Literal

/-! ## The grammar -/

/-- The parts of a plain literal. -/
structure Spelling where
  negative : Bool
  /-- The digits in front of the point. -/
  whole : List Char
  /-- The digits behind the point. -/
  fraction : List Char
  /-- The exponent of ten; it is zero where none is written. -/
  exponent : Int

/-- An optional sign. -/
inductive IsSign : List Char → Bool → Prop
  | bare : IsSign [] false
  | plus : IsSign ['+'] false
  | minus : IsSign ['-'] true

/-- Digits in front of a point and behind it, of which there is at least one.  Without digits behind
it there need not be a point. -/
inductive IsFigures : List Char → List Char → List Char → Prop
  | bare {whole : List Char} : isDigits whole = true → IsFigures whole whole []
  | pointed {whole fraction : List Char} : isDigits (whole ++ fraction) = true →
      IsFigures (whole ++ '.' :: fraction) whole fraction

/-- An optional exponent of ten. -/
inductive IsScale : List Char → Int → Prop
  | bare : IsScale [] 0
  | marked {mark : Char} {sign digits : List Char} {negative : Bool} : mark = 'e' ∨ mark = 'E' →
      IsSign sign negative → isDigits digits = true →
        IsScale (mark :: (sign ++ digits)) (signed negative (value digits))

/-- A text is a literal with these parts. -/
inductive Spells : List Char → Spelling → Prop
  | parts {sign figures scale : List Char} {spelling : Spelling} : IsSign sign spelling.negative →
      IsFigures figures spelling.whole spelling.fraction → IsScale scale spelling.exponent →
        Spells (sign ++ figures ++ scale) spelling

namespace Spelling

/-- The literal that the parts make up. -/
def literal (spelling : Spelling) : Literal where
  negative := spelling.negative
  coefficient := value (spelling.whole ++ spelling.fraction)
  exponent := spelling.exponent - spelling.fraction.length
  decimals := spelling.fraction.length

end Spelling

/-! ## What is spelled is read -/

theorem takeSign_of_isDigit {c : Char} (digit : c.isDigit = true) (text : List Char) :
    takeSign (c :: text) = (false, c :: text) := by
  unfold takeSign
  split
  · rename_i same
    rw [(List.cons.inj same).1] at digit
    exact absurd digit (by decide)
  · rename_i same
    rw [(List.cons.inj same).1] at digit
    exact absurd digit (by decide)
  · rfl

theorem takeSign_append {sign text : List Char} {negative : Bool} (isSign : IsSign sign negative)
    (unsigned : takeSign text = (false, text)) : takeSign (sign ++ text) = (negative, text) := by
  cases isSign with
  | bare => exact unsigned
  | plus => rfl
  | minus => rfl

theorem takeSign_of_isDigits {digits : List Char} (areDigits : isDigits digits = true)
    (rest : List Char) : takeSign (digits ++ rest) = (false, digits ++ rest) := by
  obtain ⟨some, all⟩ := isDigits_iff.mp areDigits
  obtain ⟨c, others, rfl⟩ := List.exists_cons_of_ne_nil some
  exact takeSign_of_isDigit (all c List.mem_cons_self) _

theorem takeSign_of_isFigures {figures whole fraction : List Char}
    (isFigures : IsFigures figures whole fraction) (rest : List Char) :
    takeSign (figures ++ rest) = (false, figures ++ rest) := by
  cases isFigures with
  | bare areDigits => exact takeSign_of_isDigits areDigits rest
  | pointed areDigits =>
    cases whole with
    | nil => rfl
    | cons c others =>
      exact takeSign_of_isDigit ((isDigits_iff.mp areDigits).2 c List.mem_cons_self) _

theorem readExponent?_of_isScale {scale : List Char} {exponent : Int}
    (isScale : IsScale scale exponent) : readExponent? scale = some exponent := by
  cases isScale with
  | bare => rfl
  | marked isMark isSign areDigits =>
    rename_i mark sign digits negative
    have unsigned := takeSign_of_isDigits areDigits []
    rw [List.append_nil] at unsigned
    simp only [readExponent?, if_pos isMark, takeSign_append isSign unsigned, areDigits, if_true]
    rfl

/-- An exponent does not begin with a digit or a point. -/
theorem IsScale.takeWhile_eq_nil {scale : List Char} {exponent : Int}
    (isScale : IsScale scale exponent) :
    scale.takeWhile Char.isDigit = [] ∧ scale.dropWhile Char.isDigit = scale ∧
      takeFraction scale = ([], scale) := by
  cases isScale with
  | bare => exact ⟨rfl, rfl, rfl⟩
  | marked isMark isSign areDigits =>
    rcases isMark with rfl | rfl
    · exact ⟨rfl, rfl, rfl⟩
    · exact ⟨rfl, rfl, rfl⟩

theorem takeFigures {digits scale : List Char} {exponent : Int} (isScale : IsScale scale exponent)
    (all : ∀ c ∈ digits, c.isDigit = true) :
    (digits ++ scale).takeWhile Char.isDigit = digits ∧
      (digits ++ scale).dropWhile Char.isDigit = scale := by
  obtain ⟨none, rest, _⟩ := isScale.takeWhile_eq_nil
  constructor
  · rw [List.takeWhile_append_of_pos all, none, List.append_nil]
  · rw [List.dropWhile_append_of_pos all, rest]

theorem read?_of_spells {text : List Char} {spelling : Spelling} (spells : Spells text spelling) :
    read? text = some spelling.literal := by
  obtain ⟨isSign, isFigures, isScale⟩ := spells
  rename_i sign figures scale
  have signed := takeSign_append isSign (takeSign_of_isFigures isFigures scale)
  have exponent := readExponent?_of_isScale isScale
  rw [List.append_assoc]
  obtain ⟨negative, whole, fraction, scaled⟩ := spelling
  dsimp only at isSign isFigures isScale signed exponent
  cases isFigures with
  | bare areDigits =>
    obtain ⟨some, all⟩ := isDigits_iff.mp areDigits
    obtain ⟨front, behind⟩ := takeFigures isScale all
    obtain ⟨_, _, noFraction⟩ := isScale.takeWhile_eq_nil
    have someWhole := List.isEmpty_eq_false_iff.mpr some
    simp [read?, signed, front, behind, noFraction, someWhole, exponent, Spelling.literal]
  | pointed areDigits =>
    obtain ⟨some, all⟩ := isDigits_iff.mp areDigits
    have allWhole : ∀ c ∈ whole, c.isDigit = true :=
      fun c isIn => all c (List.mem_append_left _ isIn)
    have allFraction : ∀ c ∈ fraction, c.isDigit = true :=
      fun c isIn => all c (List.mem_append_right _ isIn)
    obtain ⟨front, behind⟩ := takeFigures isScale allFraction
    have someDigit : ¬ (whole.isEmpty && fraction.isEmpty) = true := by
      simpa using some
    rw [List.append_assoc, List.cons_append] at signed ⊢
    simp only [read?, signed, Text.Numeral.takeWhile_isDigit_point allWhole,
      Text.Numeral.dropWhile_isDigit_point allWhole, takeFraction, front, behind, someDigit,
      exponent, Bool.false_eq_true, if_false, Option.map_some, Spelling.literal]

/-! ## What is read is spelled -/

theorem isSign_takeSign (text : List Char) :
    ∃ sign, IsSign sign (takeSign text).1 ∧ text = sign ++ (takeSign text).2 := by
  unfold takeSign
  split
  · exact ⟨['-'], .minus, rfl⟩
  · exact ⟨['+'], .plus, rfl⟩
  · exact ⟨[], .bare, rfl⟩

theorem isScale_of_readExponent? {scale : List Char} {exponent : Int}
    (read : readExponent? scale = some exponent) : IsScale scale exponent := by
  cases scale with
  | nil =>
    cases read
    exact .bare
  | cons mark rest =>
    by_cases isMark : mark = 'e' ∨ mark = 'E'
    · simp only [readExponent?, if_pos isMark] at read
      by_cases areDigits : isDigits (takeSign rest).2 = true
      · rw [if_pos areDigits] at read
        cases read
        obtain ⟨sign, isSign, divided⟩ := isSign_takeSign rest
        have scale := IsScale.marked isMark isSign areDigits
        rw [← divided] at scale
        exact scale
      · rw [if_neg areDigits] at read
        cases read
    · rw [readExponent?, if_neg isMark] at read
      cases read

theorem takeFraction_cases (text : List Char) :
    takeFraction text = ([], text) ∨
      ∃ fraction rest, text = '.' :: (fraction ++ rest) ∧ takeFraction text = (fraction, rest) ∧
        ∀ c ∈ fraction, c.isDigit = true := by
  unfold takeFraction
  split
  · rename_i rest
    refine .inr ⟨rest.takeWhile Char.isDigit, rest.dropWhile Char.isDigit, ?_, rfl, ?_⟩
    · rw [List.takeWhile_append_dropWhile]
    · exact List.all_eq_true.mp List.all_takeWhile
  · exact .inl rfl

theorem exists_spelling_of_read? {text : List Char} {literal : Literal}
    (read : read? text = some literal) :
    ∃ spelling, Spells text spelling ∧ spelling.literal = literal := by
  obtain ⟨sign, isSign, divided⟩ := isSign_takeSign text
  unfold read? at read
  dsimp only at read
  generalize (takeSign text).1 = negative at *
  generalize (takeSign text).2 = unsigned at *
  have front : unsigned.takeWhile Char.isDigit ++ unsigned.dropWhile Char.isDigit = unsigned :=
    List.takeWhile_append_dropWhile
  have allWhole : ∀ c ∈ unsigned.takeWhile Char.isDigit, c.isDigit = true :=
    List.all_eq_true.mp List.all_takeWhile
  generalize unsigned.takeWhile Char.isDigit = whole at *
  generalize unsigned.dropWhile Char.isDigit = behind at *
  subst front divided
  rcases takeFraction_cases behind with noFraction | ⟨fraction, rest, rfl, taken, allFraction⟩
  · rw [noFraction] at read
    dsimp only at read
    split at read
    · cases read
    · rename_i someDigit
      obtain ⟨exponent, isExponent, rfl⟩ := Option.map_eq_some_iff.mp read
      have areDigits : isDigits whole = true :=
        isDigits_iff.mpr ⟨by rintro rfl; simp at someDigit, allWhole⟩
      refine ⟨⟨negative, whole, [], exponent⟩, ?_, rfl⟩
      rw [← List.append_assoc]
      exact .parts isSign (.bare areDigits) (isScale_of_readExponent? isExponent)
  · rw [taken] at read
    dsimp only at read
    split at read
    · cases read
    · rename_i someDigit
      obtain ⟨exponent, isExponent, rfl⟩ := Option.map_eq_some_iff.mp read
      have areDigits : isDigits (whole ++ fraction) = true := by
        rw [isDigits_iff]
        refine ⟨?_, List.forall_mem_append.mpr ⟨allWhole, allFraction⟩⟩
        intro none
        rw [List.append_eq_nil_iff] at none
        simp [none.1, none.2] at someDigit
      refine ⟨⟨negative, whole, fraction, exponent⟩, ?_, rfl⟩
      have spells : Spells (sign ++ (whole ++ '.' :: fraction) ++ rest)
          ⟨negative, whole, fraction, exponent⟩ :=
        .parts isSign (.pointed areDigits) (isScale_of_readExponent? isExponent)
      simpa using spells

/-- Just the texts that are spelled like a literal are read, and with its parts. -/
theorem read?_eq_some_iff {text : List Char} {literal : Literal} :
    read? text = some literal ↔ ∃ spelling, Spells text spelling ∧ spelling.literal = literal := by
  constructor
  · exact exists_spelling_of_read?
  · rintro ⟨spelling, spells, rfl⟩
    exact read?_of_spells spells

end Decimal.Literal

end Checkout
