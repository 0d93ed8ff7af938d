/-!
# Code points

A text is a run of code points.  Nearly all of them are characters.  The others are halves: two of
them together write a code point of more than four hexadecimal digits.

So that a text can hold a half by itself, the code points from the first half to the one behind the
last are spelled with two characters: the mark, and the character a fixed distance further on.  Any
other code point is spelled with its own character.  The mark is the code point behind the last
half.  So no two runs of code points are spelled alike, and texts are in the order of their code
points.
-/

namespace Checkout.Text

/-! ## Halves -/

/-- Whether a code point is the first of two halves. -/
def isHigh (point : Nat) : Bool :=
  0xD800 ≤ point && point ≤ 0xDBFF

/-- Whether a code point is the second of two halves. -/
def isLow (point : Nat) : Bool :=
  0xDC00 ≤ point && point ≤ 0xDFFF

/-- Whether a code point is a half. -/
def isHalf (point : Nat) : Bool :=
  isHigh point || isLow point

/-- The code point that two halves write. -/
def join (high low : Nat) : Nat :=
  0x10000 + (high - 0xD800) * 0x400 + (low - 0xDC00)

/-! ## Spelling -/

/-- The code point of the mark. -/
def markPoint : Nat :=
  0xE000

/-- The character in front of a character that does not stand for itself. -/
def mark : Char :=
  Char.ofNat markPoint

/-- How much further on the character behind the mark lies. -/
def distance : Nat :=
  0x800

/-- Whether a code point is spelled with two characters: it is a half, or the mark. -/
def isPaired (point : Nat) : Bool :=
  0xD800 ≤ point && point ≤ markPoint

/-- The characters that spell a code point. -/
def spell (point : Nat) : List Char :=
  if isPaired point then [mark, Char.ofNat (point + distance)] else [Char.ofNat point]

/-- The characters that spell some code points. -/
def ofPoints (points : List Nat) : List Char :=
  points.flatMap spell

/-- The first code point of a text, and the rest. -/
def firstPoint? : List Char → Option (Nat × List Char)
  | [] => none
  | [c] => some (c.toNat, [])
  | c :: d :: rest =>
    if c = mark ∧ isPaired (d.toNat - distance) then some (d.toNat - distance, rest)
    else some (c.toNat, d :: rest)

/-- The code points of a text. -/
def points : List Char → List Nat
  | [] => []
  | [c] => [c.toNat]
  | c :: d :: rest =>
    if c = mark ∧ isPaired (d.toNat - distance) then (d.toNat - distance) :: points rest
    else c.toNat :: points (d :: rest)

/-- The number of code points of a text. -/
def count (text : List Char) : Nat :=
  (points text).length

/-- The first code points of a text, up to a number of them. -/
def takePoints (number : Nat) (text : List Char) : List Char :=
  ofPoints ((points text).take number)

/-! ## Characters -/

/-- The text that is written with some characters. -/
def ofCharacters (characters : List Char) : List Char :=
  characters.flatMap fun c => spell c.toNat

/-- The characters that a text is written with; there are none for a text that holds a half. -/
def characters? (text : List Char) : Option (List Char) :=
  (points text).mapM fun point => if isHalf point then none else some (Char.ofNat point)

/-- Whether a text holds a half. -/
def holdsHalf (text : List Char) : Bool :=
  (points text).any isHalf

/-- The text that is written with the characters of another. -/
def spelled (characters : String) : String :=
  String.ofList (ofCharacters characters.toList)

/-- The escape of a half: its code behind a backslash. -/
def halfEscape (point : Nat) : List Char :=
  '\\' :: 'u' :: Nat.toDigits 16 point

/-- The text with an escape for every half. -/
def escapeHalves (text : String) : String :=
  String.ofList ((points text.toList).flatMap fun point =>
    if isHalf point then halfEscape point else spell point)

/-- The characters of a text, with an escape for every half. -/
def written (text : String) : String :=
  String.ofList ((points text.toList).flatMap fun point =>
    if isHalf point then halfEscape point else [Char.ofNat point])

@[simp]
theorem ofPoints_nil : ofPoints [] = [] :=
  rfl

@[simp]
theorem points_nil : points [] = [] :=
  rfl

@[simp]
theorem ofPoints_cons (point : Nat) (rest : List Nat) :
    ofPoints (point :: rest) = spell point ++ ofPoints rest :=
  rfl

/-- The number of a character is the one that it is made from. -/
theorem toNat_ofNat_of_valid {point : Nat} (valid : point.isValidChar) :
    (Char.ofNat point).toNat = point := by
  rw [Char.ofNat, dif_pos valid]
  rfl

theorem isPaired_iff {point : Nat} :
    isPaired point = true ↔ 0xD800 ≤ point ∧ point ≤ markPoint := by
  simp only [isPaired, Bool.and_eq_true, decide_eq_true_eq]

/-- A code point is read back from its spelling. -/
theorem points_spell_append {point : Nat} (valid : point < 0x110000) (rest : List Char) :
    points (spell point ++ rest) = point :: points rest := by
  unfold spell
  by_cases paired : isPaired point = true
  · have bounds : 0xD800 ≤ point ∧ point ≤ 0xE000 := isPaired_iff.mp paired
    have shifted : (Char.ofNat (point + distance)).toNat = point + distance :=
      toNat_ofNat_of_valid (by simp only [Nat.isValidChar, distance]; omega)
    simp [paired, points, shifted]
  · have other : ¬ (0xD800 ≤ point ∧ point ≤ 0xE000) :=
      fun bounds => paired (isPaired_iff.mpr bounds)
    have value : (Char.ofNat point).toNat = point :=
      toNat_ofNat_of_valid (by simp only [Nat.isValidChar]; omega)
    have unmarked : Char.ofNat point ≠ mark := by
      intro equal
      have codes : (Char.ofNat point).toNat = mark.toNat := congrArg Char.toNat equal
      have : mark.toNat = 0xE000 := by decide
      omega
    cases rest with
    | nil => simp [paired, points, value]
    | cons d others => simp [paired, points, value, unmarked]

/-- The code points that a text is spelled from are read back. -/
theorem points_ofPoints {run : List Nat} (valid : ∀ point ∈ run, point < 0x110000) :
    points (ofPoints run) = run := by
  induction run with
  | nil => rfl
  | cons point rest ih =>
    rw [ofPoints_cons, points_spell_append (valid point (by simp)),
      ih fun other within => valid other (by simp [within])]

end Checkout.Text
