/-!
# Places in a YAML text

A cursor is what is left of a text with the place where that begins.  The next-line, line-separator
and paragraph-separator characters end lines like a line feed does.
-/

namespace Checkout.Yaml

/-- Whether a character ends a line. -/
def isBreak (c : Char) : Bool :=
  c == '\n' || c == '\r' || c.toNat == 0x85 || c.toNat == 0x2028 || c.toNat == 0x2029

/-- Whether a mark may end in front of what follows it: a blank, the end of the line or the end of
the text. -/
def isGap : Option Char → Bool
  | none => true
  | some c => c == ' ' || c == '\t' || isBreak c

/-- The mark of byte order that a text may begin with. -/
def byteOrderMark : Char :=
  Char.ofNat 0xFEFF

/-- What is left of a text, and the place of its first character. -/
structure Cursor where
  rest : List Char
  index : Nat := 0
  line : Nat := 0
  column : Nat := 0

namespace Cursor

/-- The character some places ahead. -/
def peek (cursor : Cursor) (ahead : Nat) : Option Char :=
  cursor.rest[ahead]?

/-- The cursor behind the next character. -/
def advance (cursor : Cursor) : Cursor :=
  match cursor.rest with
  | [] => cursor
  | c :: rest =>
    let index := cursor.index + 1
    if isBreak c && !(c == '\r' && rest.head? == some '\n') then
      { rest, index, line := cursor.line + 1, column := 0 }
    else if c == byteOrderMark then { cursor with rest, index }
    else { cursor with rest, index, column := cursor.column + 1 }

/-- The cursor behind the next characters. -/
def skip (cursor : Cursor) : Nat → Cursor
  | 0 => cursor
  | count + 1 => cursor.advance.skip count

/-- The cursor behind the run of characters of a class. -/
def skipWhile (cursor : Cursor) (belongs : Char → Bool) : Cursor :=
  cursor.skip (cursor.rest.takeWhile belongs).length

/-- Whether three marks of a kind stand here by themselves. -/
def isMarker (cursor : Cursor) (mark : Char) : Bool :=
  [mark, mark, mark].isPrefixOf cursor.rest && isGap (cursor.peek 3)

/-- Whether a document begins or ends here. -/
def isDocumentMarker (cursor : Cursor) : Bool :=
  cursor.isMarker '-' || cursor.isMarker '.'

/-- The line end that stands here, as it counts in a text, and the cursor behind it. -/
def takeBreak (cursor : Cursor) : Option (Char × Cursor) :=
  match cursor.rest with
  | '\r' :: '\n' :: _ => some ('\n', cursor.skip 2)
  | c :: _ =>
    if isBreak c then
      some (if c.toNat == 0x2028 || c.toNat == 0x2029 then c else '\n', cursor.advance)
    else none
  | [] => none

end Cursor

end Checkout.Yaml
