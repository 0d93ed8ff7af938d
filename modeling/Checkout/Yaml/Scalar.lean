import Checkout.Text.Points
import Checkout.Yaml.Cursor
import Checkout.Yaml.Number

/-!
# Scalars as they are written

A plain scalar goes on until a mark or a comment, a quoted one until its closing quote.  Both may
go on over several lines: a single line end counts as a blank, and of several the first one is left
out.  In double quotes a backslash introduces an escape.
-/

namespace Checkout.Yaml

/-- How several lines of a scalar are put together: the line ends behind the first, or a blank where
there are none, unless the first line end is one that is kept. -/
def fold (first : Char) (others : List Char) : List Char :=
  if first ≠ '\n' then first :: others else if others.isEmpty then [' '] else others

/-! ## Plain scalars -/

/-- The blank lines in front of a line that goes on with a plain scalar, and the cursor at its first
character.  A marker of documents ends the scalar. -/
def plainBreaks (fuel : Nat) (cursor : Cursor) : Option (List Char × Cursor) :=
  match fuel with
  | 0 => some ([], cursor)
  | fuel + 1 =>
    if cursor.isDocumentMarker then none
    else
      let cursor := cursor.skipWhile (· == ' ')
      match cursor.takeBreak with
      | none => some ([], cursor)
      | some (lineEnd, cursor) => do
        let (others, cursor) ← plainBreaks fuel cursor
        some (lineEnd :: others, cursor)

/-- What stands between two pieces of a plain scalar. -/
structure PlainGap where
  /-- What the gap counts as in the scalar; nothing if the scalar ends here. -/
  text : List Char
  cursor : Cursor
  /-- Whether the gap holds a line end. -/
  broken : Bool

/-- The gap that a cursor stands in front of. -/
def plainGap (cursor : Cursor) : PlainGap :=
  let blanks := cursor.rest.takeWhile (· == ' ')
  let cursor := cursor.skip blanks.length
  match cursor.takeBreak with
  | none => ⟨blanks, cursor, false⟩
  | some (lineEnd, next) =>
    match plainBreaks (next.rest.length + 1) next with
    | none => ⟨[], next, true⟩
    | some (others, cursor) => ⟨fold lineEnd others, cursor, true⟩

/-- Whether a plain scalar stops in front of a character. -/
def stopsPlain (inFlow : Bool) (c : Char) (next : Option Char) : Bool :=
  let isBracket (c : Char) : Bool := [',', '[', ']', '\x7b', '\x7d'].contains c
  isGap (some c) || (c == ':' && (isGap next || (inFlow && next.any isBracket))) ||
    (inFlow && (c == '?' || isBracket c))

/-- The characters up to where a plain scalar stops. -/
def plainPiece (inFlow : Bool) : List Char → List Char
  | [] => []
  | c :: rest => if stopsPlain inFlow c rest.head? then [] else c :: plainPiece inFlow rest

/-- The characters of a plain scalar, the cursor behind it, and whether a line end was passed since
its last piece. -/
def plainScalar (inFlow : Bool) (indent : Int) (gap : List Char) (broken : Bool) (fuel : Nat)
    (cursor : Cursor) : List Char × Cursor × Bool :=
  match fuel with
  | 0 => ([], cursor, broken)
  | fuel + 1 =>
    let piece := plainPiece inFlow cursor.rest
    if cursor.peek 0 == some '#' || piece.isEmpty then ([], cursor, broken)
    else
      let next := plainGap (cursor.skip piece.length)
      let start := gap ++ Text.ofCharacters piece
      if next.text.isEmpty || next.cursor.peek 0 == some '#' ||
          (!inFlow && (next.cursor.column : Int) < indent) then
        (start, next.cursor, next.broken)
      else
        let (others, cursor, broken) :=
          plainScalar inFlow indent next.text next.broken fuel next.cursor
        (start ++ others, cursor, broken)

/-! ## Quoted scalars -/

/-- The characters that one letter behind a backslash stands for. -/
def escapes : List (Char × Nat) :=
  [('0', 0x00), ('a', 0x07), ('b', 0x08), ('t', 0x09), ('\t', 0x09), ('n', 0x0A), ('v', 0x0B),
   ('f', 0x0C), ('r', 0x0D), ('e', 0x1B), (' ', 0x20), ('"', 0x22), ('\\', 0x5C), ('/', 0x2F),
   ('N', 0x85), ('_', 0xA0), ('L', 0x2028), ('P', 0x2029)]

/-- How many hexadecimal digits follow a letter behind a backslash. -/
def codeLengths : List (Char × Nat) :=
  [('x', 2), ('u', 4), ('U', 8)]

/-- The number that hexadecimal digits write, if there are as many as asked for. -/
def hexadecimal? (count : Nat) (digits : List Char) : Option Nat :=
  if digits.length = count then
    digits.foldlM (fun value c => (hexadecimalDigit? c).map (16 * value + ·)) 0
  else none

/-- What comes of reading a part of a quoted scalar: the characters it counts as, and the cursor
behind it. -/
abbrev Piece :=
  Except Unreadable (List Char × Cursor)

/-- The line ends in front of a line that goes on with a quoted scalar, and the cursor at its first
character that is no blank.  A marker of documents is not allowed here. -/
def quotedBreaks (fuel : Nat) (cursor : Cursor) : Piece :=
  match fuel with
  | 0 => .error .malformed
  | fuel + 1 =>
    if cursor.isDocumentMarker then .error .malformed
    else
      let cursor := cursor.skipWhile fun c => c == ' ' || c == '\t'
      match cursor.takeBreak with
      | none => .ok ([], cursor)
      | some (lineEnd, cursor) => do
        let (others, cursor) ← quotedBreaks fuel cursor
        .ok (lineEnd :: others, cursor)

/-- What blanks and line ends inside a quoted scalar count as. -/
def quotedGap (cursor : Cursor) : Piece :=
  let blanks := cursor.rest.takeWhile fun c => c == ' ' || c == '\t'
  let cursor := cursor.skip blanks.length
  if cursor.rest.isEmpty then .error .malformed
  else
    match cursor.takeBreak with
    | none => .ok (blanks, cursor)
    | some (lineEnd, next) => do
      let (others, cursor) ← quotedBreaks (next.rest.length + 1) next
      .ok (fold lineEnd others, cursor)

/-- The text that a code written in an escape stands for. -/
def textOf (code : Nat) : Except Unreadable (List Char) :=
  if code < 0x110000 then .ok (Text.spell code)
  else if code < 0x80000000 then .error .noCharacter
  else .error .outOfRange

/-- What an escape by hexadecimal digits stands for; the cursor is behind the letter. -/
def readCode (count : Nat) (cursor : Cursor) : Piece :=
  match hexadecimal? count (cursor.rest.take count) with
  | none => .error .malformed
  | some code => do
    .ok (← textOf code, cursor.skip count)

/-- What an escape stands for; the cursor is behind the backslash. -/
def readEscape (cursor : Cursor) : Piece :=
  match cursor.peek 0 with
  | none => .error .malformed
  | some c =>
    match escapes.lookup c, codeLengths.lookup c, cursor.takeBreak with
    | some code, _, _ => .ok ([Char.ofNat code], cursor.advance)
    | none, some count, _ => readCode count cursor.advance
    | none, none, some (_, cursor) => quotedBreaks (cursor.rest.length + 1) cursor
    | none, none, none => .error .malformed

/-- The characters of a scalar in double or single quotes up to its closing quote, and the cursor
behind that. -/
def quotedScalar (double : Bool) (fuel : Nat) (cursor : Cursor) : Piece :=
  match fuel, cursor.peek 0 with
  | fuel + 1, some c =>
    let goOn (piece : List Char) (cursor : Cursor) : Piece := do
      let (others, cursor) ← quotedScalar double fuel cursor
      .ok (piece ++ others, cursor)
    if !double && c == '\'' && cursor.peek 1 == some '\'' then goOn ['\''] (cursor.skip 2)
    else if c == (if double then '"' else '\'') then .ok ([], cursor.advance)
    else if double && c == '\\' then do
      let (piece, cursor) ← readEscape cursor.advance
      goOn piece cursor
    else if isGap (some c) then do
      let (piece, cursor) ← quotedGap cursor
      goOn piece cursor
    else goOn (Text.spell c.toNat) cursor.advance
  | _, _ => .error .malformed

end Checkout.Yaml
