/-!
# Numerals

Whole numbers as digits.  Unsigned runs of ASCII digits are read to a value; where a number may be
written in any script, the digits of that script are first replaced by ASCII ones.
-/

namespace Checkout.Text.Numeral

/-- The value of a run of ASCII digits. -/
def value (digits : List Char) : Nat :=
  Nat.ofDigitChars 10 digits 0

/-- The shortest run of ASCII digits with a value. -/
def ofNat (n : Nat) : List Char :=
  Nat.toDigits 10 n

/-- A whole number, with a minus sign in front of a negative one. -/
def ofInt (n : Int) : List Char :=
  if n < 0 then '-' :: ofNat n.natAbs else ofNat n.natAbs

/-- The text of a whole number. -/
def text (n : Int) : String :=
  String.ofList (ofInt n)

/-- How many digits a number is written with. -/
def length (n : Nat) : Nat :=
  (ofNat n).length

@[simp]
theorem value_ofNat (n : Nat) : value (ofNat n) = n :=
  Nat.ofDigitChars_ten_toDigits

/-- The power of ten that is written as a one with `count` zeros. -/
def tenTo (count : Nat) : Nat :=
  Nat.pow 10 count

@[simp]
theorem tenTo_zero : tenTo 0 = 1 :=
  rfl

theorem tenTo_succ (count : Nat) : tenTo (count + 1) = tenTo count * 10 :=
  rfl

theorem tenTo_pos (count : Nat) : 0 < tenTo count :=
  Nat.pow_pos (by decide)

/-- A number has at most `count` digits exactly when it is below that power of ten. -/
theorem length_le_iff {n count : Nat} (positive : 0 < count) : length n ≤ count ↔ n < tenTo count :=
  Nat.length_toDigits_le_iff (by decide) positive

theorem length_pos (n : Nat) : 0 < length n :=
  Nat.length_toDigits_pos

/-- The longest run of digits that is read as a whole number. -/
def maxLength : Nat :=
  4300

/-- The value of a run of ASCII digits that is not too long to be read, leading zeros counted. -/
def bounded? (digits : List Char) : Option Nat :=
  if digits.length ≤ maxLength then some (value digits) else none

/-- Whether a whole number does not have too many digits to be shown. -/
def isShort (n : Int) : Bool :=
  n.natAbs < tenTo maxLength

/-- Whether the text is one or more ASCII digits. -/
def isDigits (text : List Char) : Bool :=
  !text.isEmpty && text.all Char.isDigit

theorem isDigits_iff {text : List Char} :
    isDigits text = true ↔ text ≠ [] ∧ ∀ c ∈ text, c.isDigit = true := by
  simp [isDigits]

/-- The digits zero of the scripts of Unicode 14 that have decimal digits; the digits one to nine
of the script follow each. -/
def zeros : List Nat :=
  [0x30, 0x660, 0x6F0, 0x7C0, 0x966, 0x9E6, 0xA66, 0xAE6, 0xB66, 0xBE6, 0xC66, 0xCE6, 0xD66,
   0xDE6, 0xE50, 0xED0, 0xF20, 0x1040, 0x1090, 0x17E0, 0x1810, 0x1946, 0x19D0, 0x1A80, 0x1A90,
   0x1B50, 0x1BB0, 0x1C40, 0x1C50, 0xA620, 0xA8D0, 0xA900, 0xA9D0, 0xA9F0, 0xAA50, 0xABF0,
   0xFF10, 0x104A0, 0x10D30, 0x11066, 0x110F0, 0x11136, 0x111D0, 0x112F0, 0x11450, 0x114D0,
   0x11650, 0x116C0, 0x11730, 0x118E0, 0x11950, 0x11C50, 0x11D50, 0x11DA0, 0x16A60, 0x16AC0,
   0x16B50, 0x1D7CE, 0x1D7D8, 0x1D7E2, 0x1D7EC, 0x1D7F6, 0x1E140, 0x1E2F0, 0x1E950, 0x1FBF0]

/-- The ASCII digit of the same value, for a decimal digit of any script. -/
def asciiDigit? (c : Char) : Option Char :=
  (zeros.find? fun first => first ≤ c.toNat && c.toNat ≤ first + 9).map fun first =>
    Char.ofNat ('0'.toNat + (c.toNat - first))

end Checkout.Text.Numeral
