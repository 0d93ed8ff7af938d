import Checkout.Yaml.Scalar
import Checkout.Yaml.Token

/-!
# From a YAML text to its tokens

Tokens are found from left to right.  Whether a scalar is a key shows only at the colon behind it,
so an empty slot is kept in front of whatever may be a key, and the colon fills it.  Indentation
opens a block when a column is passed that no open block has, and closes blocks when a line starts
left of theirs.

Anchors, aliases, tags, directives and block scalars are not read.  Where a text can not be read any
further, the tokens in front are those that are certain by then: none of them waits for a colon.
-/

namespace Checkout.Yaml

/-- What may turn out to be a key: the slot in front of it, and where it starts. -/
structure Candidate where
  slot : Nat
  /-- Whether it has to be a key, since it starts a line of the open block. -/
  required : Bool
  start : Cursor

/-- How far a text has been read. -/
structure Lexer where
  cursor : Cursor
  /-- The tokens found, in slots that may hold none. -/
  slots : Array (List Token) := #[]
  /-- The candidate of each depth of brackets, if it has one. -/
  candidates : List (Nat × Candidate) := []
  /-- How many brackets are open. -/
  depth : Nat := 0
  /-- The column of the open block. -/
  indent : Int := -1
  /-- The columns of the blocks around the open one. -/
  outer : List Int := []
  /-- Whether a key may start here. -/
  keyAllowed : Bool := true
  /-- Why nothing is read behind the text, if that is not its end. -/
  wall : Option Unreadable := none

namespace Lexer

/-- The lexer at the start of a text. -/
def ofText (text : List Char) (wall : Option Unreadable := none) : Lexer :=
  { cursor := { rest := text }, wall }

/-- Adds a token. -/
def emit (lexer : Lexer) (token : Token) : Lexer :=
  { lexer with slots := lexer.slots.push [token] }

/-- Moves on by some characters. -/
def skip (lexer : Lexer) (count : Nat) : Lexer :=
  { lexer with cursor := lexer.cursor.skip count }

/-- Whether a mark that begins a list, a key or a value may stand here. -/
def column (lexer : Lexer) : Int :=
  lexer.cursor.column

/-! ## Blocks -/

/-- Opens a block at a column if it lies right of the open one; tells whether it did. -/
def openBlock (lexer : Lexer) (column : Int) : Lexer × Bool :=
  if lexer.indent < column then
    ({ lexer with indent := column, outer := lexer.indent :: lexer.outer }, true)
  else (lexer, false)

/-- Opens a block at the current column, with the token that begins it, if it is a new one. -/
def openHere (lexer : Lexer) (start : Token) : Lexer :=
  let (opened, isNew) := lexer.openBlock lexer.column
  if isNew then opened.emit start else opened

/-- Closes the blocks that lie right of a column. -/
def closeBlocks (lexer : Lexer) (column : Int) : List Int → Lexer
  | [] => lexer
  | indent :: outer =>
    if column < lexer.indent then
      closeBlocks ({ lexer with indent, outer }.emit .blockEnd) column outer
    else lexer

/-- Closes the blocks that lie right of a column, outside of brackets. -/
def unwind (lexer : Lexer) (column : Int) : Lexer :=
  if lexer.depth = 0 then lexer.closeBlocks column lexer.outer else lexer

/-! ## Candidates for keys -/

/-- Drops the candidate of the current depth, which fails if it has to be a key. -/
def dropCandidate (lexer : Lexer) : Except Unreadable Lexer :=
  if (lexer.candidates.lookup lexer.depth).any (·.required) then .error .malformed
  else .ok { lexer with candidates := lexer.candidates.filter (·.1 ≠ lexer.depth) }

/-- Makes what follows a candidate, if a key may start here. -/
def addCandidate (lexer : Lexer) : Except Unreadable Lexer :=
  if lexer.keyAllowed then do
    let required := lexer.depth = 0 ∧ lexer.indent = lexer.column
    let cleared ← lexer.dropCandidate
    let candidate : Candidate :=
      { slot := cleared.slots.size, required := decide required, start := cleared.cursor }
    .ok { cleared with
           slots := cleared.slots.push [],
           candidates := (cleared.depth, candidate) :: cleared.candidates }
  else .ok lexer

/-- The most characters that a key may have. -/
def longestKey : Nat :=
  1024

/-- Whether it is too late for a candidate to become a key. -/
def isStale (lexer : Lexer) (candidate : Candidate) : Bool :=
  candidate.start.line ≠ lexer.cursor.line ||
    longestKey < lexer.cursor.index - candidate.start.index

/-- Drops the candidates that can no longer become keys. -/
def dropStale (lexer : Lexer) : Except Unreadable Lexer :=
  if lexer.candidates.any fun entry => lexer.isStale entry.2 && entry.2.required then
    .error .malformed
  else .ok { lexer with candidates := lexer.candidates.filter fun entry => !lexer.isStale entry.2 }

/-! ## Tokens -/

/-- Moves to the next token, past blanks, comments and line ends. -/
def skipToToken (fuel : Nat) (lexer : Lexer) : Lexer :=
  match fuel with
  | 0 => lexer
  | fuel + 1 =>
    let cursor := lexer.cursor.skipWhile (· == ' ')
    let cursor := if cursor.peek 0 == some '#' then cursor.skipWhile (!isBreak ·) else cursor
    match cursor.takeBreak with
    | some (_, cursor) =>
      skipToToken fuel { lexer with cursor, keyAllowed := lexer.keyAllowed || lexer.depth = 0 }
    | none => { lexer with cursor }

/-- The end of the text. -/
def atEnd (lexer : Lexer) : Except Unreadable Lexer :=
  match lexer.wall with
  | some reason => .error reason
  | none => (lexer.unwind (-1)).dropCandidate

/-- The marker that begins or ends a document. -/
def documentMarker (lexer : Lexer) (token : Token) : Except Unreadable Lexer := do
  let cleared ← (lexer.unwind (-1)).dropCandidate
  .ok (({ cleared with keyAllowed := false }.skip 3).emit token)

/-- An opening bracket. -/
def openBracket (lexer : Lexer) (token : Token) : Except Unreadable Lexer := do
  let marked ← lexer.addCandidate
  .ok (({ marked with depth := marked.depth + 1, keyAllowed := true }.skip 1).emit token)

/-- A closing bracket, which has to close one. -/
def closeBracket (lexer : Lexer) (token : Token) : Except Unreadable Lexer := do
  let cleared ← lexer.dropCandidate
  match cleared.depth with
  | 0 => .error .malformed
  | depth + 1 => .ok (({ cleared with depth, keyAllowed := false }.skip 1).emit token)

/-- A comma. -/
def comma (lexer : Lexer) : Except Unreadable Lexer := do
  let cleared ← { lexer with keyAllowed := true }.dropCandidate
  .ok ((cleared.skip 1).emit .comma)

/-- A dash in front of an entry. -/
def entry (lexer : Lexer) : Except Unreadable Lexer := do
  if lexer.depth = 0 && !lexer.keyAllowed then .error .malformed
  else
    let opened := if lexer.depth = 0 then lexer.openHere .blockListStart else lexer
    let cleared ← { opened with keyAllowed := true }.dropCandidate
    .ok ((cleared.skip 1).emit .entry)

/-- A question mark in front of a key. -/
def markedKey (lexer : Lexer) : Except Unreadable Lexer := do
  if lexer.depth = 0 && !lexer.keyAllowed then .error .malformed
  else
    let opened := if lexer.depth = 0 then lexer.openHere .blockMappingStart else lexer
    let cleared ← { opened with keyAllowed := lexer.depth = 0 }.dropCandidate
    .ok ((cleared.skip 1).emit .key)

/-- A colon behind a candidate, which is a key then. -/
def valueOf (lexer : Lexer) (candidate : Candidate) : Lexer :=
  let cleared := { lexer with candidates := lexer.candidates.filter (·.1 ≠ lexer.depth) }
  let (opened, isNew) :=
    if cleared.depth = 0 then cleared.openBlock candidate.start.column else (cleared, false)
  let marks := if isNew then [.blockMappingStart, .key] else [.key]
  ({ opened with
     slots := opened.slots.setIfInBounds candidate.slot marks,
     keyAllowed := false }.skip 1).emit .value

/-- A colon without a key on its line. -/
def bareValue (lexer : Lexer) : Except Unreadable Lexer := do
  if lexer.depth = 0 && !lexer.keyAllowed then .error .malformed
  else
    let opened := if lexer.depth = 0 then lexer.openHere .blockMappingStart else lexer
    let cleared ← { opened with keyAllowed := lexer.depth = 0 }.dropCandidate
    .ok ((cleared.skip 1).emit .value)

/-- A colon in front of a value. -/
def value (lexer : Lexer) : Except Unreadable Lexer :=
  match lexer.candidates.lookup lexer.depth with
  | some candidate => .ok (lexer.valueOf candidate)
  | none => lexer.bareValue

/-- A quoted scalar. -/
def quoted (lexer : Lexer) (double : Bool) : Except Unreadable Lexer := do
  let marked ← lexer.addCandidate
  let start := marked.cursor.advance
  let (text, cursor) ← quotedScalar double (start.rest.length + 1) start
  .ok ({ marked with cursor, keyAllowed := false }.emit (.scalar text false))

/-- A plain scalar. -/
def plain (lexer : Lexer) : Except Unreadable Lexer := do
  let marked ← lexer.addCandidate
  let (text, cursor, broken) :=
    plainScalar (marked.depth ≠ 0) (marked.indent + 1) [] false (marked.cursor.rest.length + 1)
      marked.cursor
  .ok ({ marked with cursor, keyAllowed := broken }.emit (.scalar text true))

/-- The characters that a plain scalar does not start with. -/
def marks : List Char :=
  ['-', '?', ':', ',', '[', ']', '\x7b', '\x7d', '#', '&', '*', '!', '|', '>', '\'', '"', '%', '@',
   Char.ofNat 0x60]

/-- Whether a plain scalar starts with a character in front of another. -/
def startsPlain (inFlow : Bool) (c : Char) (next : Option Char) : Bool :=
  !(isGap (some c) || marks.contains c) ||
    (!isGap next && (c == '-' || (!inFlow && (c == '?' || c == ':'))))

/-- Reads the token that a character starts. -/
def token (lexer : Lexer) (c : Char) : Except Unreadable Lexer :=
  let cursor := lexer.cursor
  let next := cursor.peek 1
  let inFlow : Bool := lexer.depth ≠ 0
  if c == '%' && cursor.column == 0 then .error .malformed
  else if cursor.column == 0 && cursor.isMarker '-' then lexer.documentMarker .documentStart
  else if cursor.column == 0 && cursor.isMarker '.' then lexer.documentMarker .documentEnd
  else if c == '[' then lexer.openBracket .flowListStart
  else if c == '\x7b' then lexer.openBracket .flowMappingStart
  else if c == ']' then lexer.closeBracket .flowListEnd
  else if c == '\x7d' then lexer.closeBracket .flowMappingEnd
  else if c == ',' then lexer.comma
  else if c == '-' && isGap next then lexer.entry
  else if c == '?' && (inFlow || isGap next) then lexer.markedKey
  else if c == ':' && (inFlow || isGap next) then lexer.value
  else if c == '\'' then lexer.quoted false
  else if c == '"' then lexer.quoted true
  else if startsPlain inFlow c next then lexer.plain
  else .error .malformed

/-- Reads the next token, or the end of the text; tells whether it was the end. -/
def step (lexer : Lexer) : Except Unreadable (Lexer × Bool) := do
  let ready ← (lexer.skipToToken (lexer.cursor.rest.length + 1)).dropStale
  let ready := ready.unwind ready.column
  match ready.cursor.peek 0 with
  | none => .ok (← ready.atEnd, true)
  | some c => .ok (← ready.token c, false)

/-- The tokens in all slots. -/
def allTokens (lexer : Lexer) : List Token :=
  lexer.slots.toList.flatten

/-- The tokens in front of the first that may still turn out to be a key. -/
def certainTokens (lexer : Lexer) : List Token :=
  let waiting := lexer.candidates.filter fun entry => !lexer.isStale entry.2
  let count := (waiting.map fun entry => entry.2.slot).foldl min lexer.slots.size
  (lexer.slots.toList.take count).flatten

/-- The tokens of the whole text, or those that are certain where it can not be read on. -/
def run (fuel : Nat) (lexer : Lexer) : List Token :=
  match fuel with
  | 0 => lexer.certainTokens ++ [.broken .malformed]
  | fuel + 1 =>
    match lexer.step with
    | .error reason => lexer.certainTokens ++ [.broken reason]
    | .ok (ended, true) => ended.allTokens
    | .ok (next, false) => run fuel next

end Lexer

/-- Whether a character may stand in a YAML text at all. -/
def isAllowed (c : Char) : Bool :=
  let code := c.toNat
  code == 0x09 || code == 0x0A || code == 0x0D || (0x20 ≤ code && code ≤ 0x7E) || code == 0x85 ||
    (0xA0 ≤ code && code ≤ 0xD7FF) || (0xE000 ≤ code && code ≤ 0xFFFD) || 0x10000 ≤ code

/-- How many characters a text is taken in by. -/
def portion : Nat :=
  4096

/-- The number of characters that are taken in before the one at a place is: none if it is among the
first two portions, which are taken in together, and else all portions in front of its own. -/
def takenBefore (place : Nat) : Nat :=
  let portions := place / portion
  if portions < 2 then 0 else portions * portion

/-- The tokens of some characters, where nothing more is read behind the wall, if there is one.  A
mark of byte order at the start says nothing. -/
def tokensOf (text : List Char) (wall : Option Unreadable) : List Token :=
  let start := Lexer.ofText text wall
  let start := if text.head? == some byteOrderMark then start.skip 1 else start
  start.run (text.length + 1)

/-- The tokens of a text, behind which there may be bytes that are no text.  These, and a character
that may not stand in a text, are met as soon as their portion is taken in. -/
def tokens (text : List Char) (isCut : Bool) : List Token :=
  let taken := if isCut then takenBefore text.length else text.length
  match (text.findIdx? (!isAllowed ·)).map takenBefore with
  | none => tokensOf (text.take taken) (if isCut then some .undecodable else none)
  | some place =>
    if isCut && taken ≤ place then tokensOf (text.take taken) (some .undecodable)
    else tokensOf (text.take place) (some .malformed)

end Checkout.Yaml
