/-!
# Texts that are not read

Why a text of some format is not read to a value.
-/

namespace Checkout

/-- Why a text is not read. -/
inductive Unreadable
  /-- The text is not in its format. -/
  | malformed
  /-- A whole number has more digits than are read. -/
  | tooLong (digits : Nat)
  /-- A whole number to a base has no digits at all. -/
  | noDigits (base : Nat)
  /-- A character is written by a number that is no code point. -/
  | noCharacter
  /-- A number is too large to be worked with. -/
  | outOfRange
  /-- Lists and mappings are nested deeper than they are read. -/
  | tooDeep
  /-- Bytes hold no text. -/
  | undecodable
  deriving DecidableEq

end Checkout
