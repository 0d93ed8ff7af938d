import Checkout.Unreadable
import Checkout.Value

/-!
# Reading JSON

A JSON text is one value with blanks around it and nothing else.  Reading is strict: no comma
behind the last entry, no control character inside a text, no leading zeros.  Of two entries with
one key the later counts.  A value is read together with the rest of the text.  Lists and mappings
may be nested only so deep.
-/

namespace Checkout.Json

/-- The text without the blanks that it starts with. -/
def skipBlanks : List Char → List Char
  | [] => []
  | c :: rest =>
    if c = ' ' ∨ c = '\t' ∨ c = '\n' ∨ c = '\r' then skipBlanks rest else c :: rest

/-- The rest of a text behind a word that it starts with. -/
def expect? (word text : List Char) : Option (List Char) :=
  if word.isPrefixOf text then some (text.drop word.length) else none

/-! ## Texts -/

/-- The number that four hexadecimal digits write. -/
def hexadecimal? (digits : List Char) : Option Nat :=
  if digits.length = 4 then
    digits.foldlM (fun value c =>
      if c.isDigit then some (16 * value + (c.toNat - '0'.toNat))
      else if 'a' ≤ c ∧ c ≤ 'f' then some (16 * value + (c.toNat - 'a'.toNat + 10))
      else if 'A' ≤ c ∧ c ≤ 'F' then some (16 * value + (c.toNat - 'A'.toNat + 10))
      else none) 0
  else none

/-- The character that a letter behind a backslash stands for. -/
def escaped? (c : Char) : Option Char :=
  if c = '"' ∨ c = '\\' ∨ c = '/' then some c
  else if c = 'b' then some (Char.ofNat 0x08)
  else if c = 'f' then some (Char.ofNat 0x0C)
  else if c = 'n' then some '\n'
  else if c = 'r' then some '\r'
  else if c = 't' then some '\t'
  else none

/-- The code point that the digits behind `\u` write, and how many characters of the text that took.
A high half and a low half behind it write one code point. -/
def readCode? (text : List Char) : Option (Nat × Nat) := do
  let code ← hexadecimal? (text.take 4)
  if Text.isHigh code then
    match text.drop 4 with
    | '\\' :: 'u' :: others =>
      match hexadecimal? (others.take 4) with
      | some low => if Text.isLow low then some (Text.join code low, 10) else some (code, 4)
      | none => some (code, 4)
    | _ => some (code, 4)
  else some (code, 4)

/-- The characters of a text up to its closing quote, and the rest behind that.  The first argument
counts the characters that belong to an escape already read. -/
def readChars? : Nat → List Char → Option (List Char × List Char)
  | _, [] => none
  | skipped + 1, _ :: rest => readChars? skipped rest
  | 0, '"' :: rest => some ([], rest)
  | 0, '\\' :: c :: rest =>
    if c = 'u' then do
      let (point, taken) ← readCode? rest
      let (others, rest) ← readChars? (taken + 1) (c :: rest)
      some (Text.spell point ++ others, rest)
    else do
      let character ← escaped? c
      let (others, rest) ← readChars? 0 rest
      some (character :: others, rest)
  | 0, c :: rest =>
    if c = '\\' ∨ c.toNat < 0x20 then none
    else do
      let (others, rest) ← readChars? 0 rest
      some (c :: others, rest)

/-- The text behind an opening quote, and the rest. -/
def readText (text : List Char) : Except Unreadable (String × List Char) :=
  match readChars? 0 text with
  | some (characters, rest) => .ok (String.ofList characters, rest)
  | none => .error .malformed

/-! ## Numbers -/

/-- The digits of a whole number: a zero, or a run that does not begin with one. -/
def takeWhole : List Char → List Char × List Char
  | '0' :: rest => (['0'], rest)
  | text => (text.takeWhile Char.isDigit, text.dropWhile Char.isDigit)

/-- A point with digits behind it. -/
def takeDecimals : List Char → List Char × List Char
  | '.' :: rest =>
    let digits := rest.takeWhile Char.isDigit
    if digits.isEmpty then ([], '.' :: rest) else ('.' :: digits, rest.dropWhile Char.isDigit)
  | text => ([], text)

/-- The sign that a text starts with, as it stands there. -/
def takeSign : List Char → List Char × List Char
  | '-' :: rest => (['-'], rest)
  | '+' :: rest => (['+'], rest)
  | text => ([], text)

/-- A power of ten. -/
def takePower (text : List Char) : List Char × List Char :=
  match text with
  | [] => ([], [])
  | c :: rest =>
    if c = 'e' ∨ c = 'E' then
      let (sign, digits) := takeSign rest
      let run := digits.takeWhile Char.isDigit
      if run.isEmpty then ([], text) else (c :: sign ++ run, digits.dropWhile Char.isDigit)
    else ([], text)

/-- The number that a text starts with, and the rest. -/
def readNumber (text : List Char) : Except Unreadable (Value × List Char) :=
  let (negative, unsigned) :=
    match text with
    | '-' :: rest => (true, rest)
    | _ => (false, text)
  let (whole, afterWhole) := takeWhole unsigned
  let (decimals, afterDecimals) := takeDecimals afterWhole
  let (power, rest) := takePower afterDecimals
  if whole.isEmpty then .error .malformed
  else if decimals.isEmpty && power.isEmpty then
    match Text.Numeral.bounded? whole with
    | some magnitude => .ok (.whole (if negative then -(magnitude : Int) else magnitude), rest)
    | none => .error (.tooLong whole.length)
  else
    let sign := if negative then ['-'] else []
    match Binary.read? (sign ++ whole ++ decimals ++ power) with
    | some number => .ok (.fraction number, rest)
    | none => .error .malformed

/-- The words that stand for values. -/
def constants : List (List Char × Value) :=
  [("null".toList, .null), ("true".toList, .flag true), ("false".toList, .flag false),
   ("NaN".toList, .fraction .undefined), ("Infinity".toList, .fraction (.infinite false)),
   ("-Infinity".toList, .fraction (.infinite true))]

/-- The constant that a text starts with, and the rest. -/
def readConstant? (text : List Char) : Option (Value × List Char) :=
  constants.findSome? fun constant => (expect? constant.1 text).map fun rest => (constant.2, rest)

/-! ## Values -/

/-- How deep lists and mappings may be nested. -/
def deepest : Nat :=
  987

mutual

/-- The value that a text starts with, of which lists and mappings may be nested some levels deep,
and the rest. -/
def readValue (fuel levels : Nat) (text : List Char) : Except Unreadable (Value × List Char) :=
  match fuel with
  | 0 => .error .malformed
  | fuel + 1 =>
    match text, levels with
    | '"' :: rest, _ => do
      let (characters, rest) ← readText rest
      .ok (.text characters, rest)
    | '[' :: _, 0 | '\x7b' :: _, 0 => .error .tooDeep
    | '[' :: rest, levels + 1 =>
      match skipBlanks rest with
      | ']' :: rest => .ok (.list [], rest)
      | rest => do
        let (items, rest) ← readItems fuel levels rest
        .ok (.list items, rest)
    | '\x7b' :: rest, levels + 1 =>
      match skipBlanks rest with
      | '\x7d' :: rest => .ok (.mapping [], rest)
      | rest => do
        let (entries, rest) ← readEntries fuel levels [] rest
        .ok (.mapping entries, rest)
    | text, _ =>
      match readConstant? text with
      | some constant => .ok constant
      | none => readNumber text

/-- The items of a list up to the closing bracket, and the rest behind that. -/
def readItems (fuel levels : Nat) (text : List Char) :
    Except Unreadable (List Value × List Char) :=
  match fuel with
  | 0 => .error .malformed
  | fuel + 1 => do
    let (item, rest) ← readValue fuel levels text
    match skipBlanks rest with
    | ']' :: rest => .ok ([item], rest)
    | ',' :: rest => do
      let (items, rest) ← readItems fuel levels (skipBlanks rest)
      .ok (item :: items, rest)
    | _ => .error .malformed

/-- The entries of a mapping up to the closing brace, put onto those before them, and what is behind
that. -/
def readEntries (fuel levels : Nat) (before : Mapping) (text : List Char) :
    Except Unreadable (Mapping × List Char) :=
  match fuel with
  | 0 => .error .malformed
  | fuel + 1 =>
    match text with
    | '"' :: rest => do
      let (key, rest) ← readText rest
      match skipBlanks rest with
      | ':' :: rest => do
        let (value, rest) ← readValue fuel levels (skipBlanks rest)
        let entries := Mapping.put key value before
        match skipBlanks rest with
        | '\x7d' :: rest => .ok (entries, rest)
        | ',' :: rest => readEntries fuel levels entries (skipBlanks rest)
        | _ => .error .malformed
      | _ => .error .malformed
    | _ => .error .malformed

end

/-- The value that a text is. -/
def read (text : List Char) : Except Unreadable Value := do
  let (value, rest) ← readValue (2 * text.length + 2) deepest (skipBlanks text)
  if (skipBlanks rest).isEmpty then .ok value else .error .malformed

end Checkout.Json
