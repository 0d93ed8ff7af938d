import Checkout.Text.Points

/-!
# Bytes of names and files

Names and files hold bytes.  A text that names something stands for the bytes of its characters, and
a byte that is part of no character is written as a half: the code points of low halves with codes
up to 255 stand for single bytes.  No other half has bytes.
-/

namespace Checkout.Folder

/-- The code point in front of those of single bytes. -/
def byteBase : Nat :=
  0xDC00

/-- Whether a code point stands for a single byte that is part of no character. -/
def isByte (point : Nat) : Bool :=
  byteBase + 0x80 ≤ point && point ≤ byteBase + 0xFF

/-- The bytes of a code point, if it has bytes. -/
def pointBytes? (point : Nat) : Option (List UInt8) :=
  if isByte point then some [UInt8.ofNat (point - byteBase)]
  else if Text.isHalf point then none
  else some (String.utf8EncodeChar (Char.ofNat point))

/-- The bytes of a text that names something, if all of it has bytes. -/
def nameBytes? (name : String) : Option ByteArray :=
  ((Text.points name.toList).mapM pointBytes?).map fun bytes => ⟨bytes.flatten.toArray⟩

/-- The code points that bytes from a place on stand for. -/
def pointsFrom (bytes : ByteArray) (place : Nat) : List Nat :=
  if inside : place < bytes.size then
    match bytes.utf8DecodeChar? place with
    | some c =>
      have : 0 < c.utf8Size := c.utf8Size_pos
      c.toNat :: pointsFrom bytes (place + c.utf8Size)
    | none => (byteBase + bytes[place].toNat) :: pointsFrom bytes (place + 1)
  else []
termination_by bytes.size - place

/-- The name as it is read back from its bytes: bytes that make up a character together stand for
it. -/
def canonical (name : String) : String :=
  match nameBytes? name with
  | some bytes => String.ofList (Text.ofPoints (pointsFrom bytes 0))
  | none => name

/-! ## Bytes that are no text -/

/-- How many bytes belong behind the first byte of a character, and the range of the second. -/
def shapeOf (first : Nat) : Nat × Nat × Nat :=
  if 0xC2 ≤ first ∧ first ≤ 0xDF then (1, 0x80, 0xBF)
  else if first = 0xE0 then (2, 0xA0, 0xBF)
  else if first = 0xED then (2, 0x80, 0x9F)
  else if 0xE1 ≤ first ∧ first ≤ 0xEF then (2, 0x80, 0xBF)
  else if first = 0xF0 then (3, 0x90, 0xBF)
  else if first = 0xF4 then (3, 0x80, 0x8F)
  else if 0xF1 ≤ first ∧ first ≤ 0xF3 then (3, 0x80, 0xBF)
  else (0, 0, 0)

/-- How many of some bytes go on with a character of which a number of bytes is missing, the next of
them in a range. -/
def goingOn (missing least most : Nat) : List Nat → Nat
  | [] => 0
  | byte :: rest =>
    if 0 < missing ∧ least ≤ byte ∧ byte ≤ most then goingOn (missing - 1) 0x80 0xBF rest + 1
    else 0

/-- How many bytes behind a place belong to the unfinished character that starts there. -/
def unfinished (bytes : ByteArray) (place : Nat) : Nat :=
  let next := (bytes.extract place (place + 4)).toList.map UInt8.toNat
  match next with
  | [] => 0
  | first :: rest =>
    let (missing, least, most) := shapeOf first
    goingOn missing least most rest

/-- The character that is shown in place of bytes that are none. -/
def replacement : Char :=
  Char.ofNat 0xFFFD

/-- The characters that bytes from a place on hold, with a replacement for every unfinished
character. -/
def legibleFrom (bytes : ByteArray) (place : Nat) : List Char :=
  if place < bytes.size then
    match bytes.utf8DecodeChar? place with
    | some c =>
      have : 0 < c.utf8Size := c.utf8Size_pos
      c :: legibleFrom bytes (place + c.utf8Size)
    | none => replacement :: legibleFrom bytes (place + (unfinished bytes place + 1))
  else []
termination_by bytes.size - place

/-- The name as it is shown where only characters are. -/
def legible (name : String) : String :=
  match nameBytes? name with
  | some bytes => String.ofList (Text.ofCharacters (legibleFrom bytes 0))
  | none => name

/-- The characters that bytes from a place on hold, each with the place behind it, up to where they
hold none. -/
def charactersFrom (bytes : ByteArray) (place : Nat) : List (Char × Nat) :=
  if place < bytes.size then
    match bytes.utf8DecodeChar? place with
    | some c =>
      have : 0 < c.utf8Size := c.utf8Size_pos
      (c, place + c.utf8Size) :: charactersFrom bytes (place + c.utf8Size)
    | none => []
  else []
termination_by bytes.size - place

end Checkout.Folder
