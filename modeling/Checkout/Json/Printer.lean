import Checkout.Value

/-!
# Writing JSON

Values are written on one line with a space behind every comma and colon, or over several lines
with every entry on a line of its own.  Characters beyond ASCII stand for themselves; only quotes,
backslashes and control characters are escaped.
-/

namespace Checkout.Json

/-- A character of a text between quotes. -/
def escape (c : Char) : List Char :=
  if c = '"' then ['\\', '"']
  else if c = '\\' then ['\\', '\\']
  else if c = '\n' then ['\\', 'n']
  else if c = '\r' then ['\\', 'r']
  else if c = '\t' then ['\\', 't']
  else if c.toNat = 0x08 then ['\\', 'b']
  else if c.toNat = 0x0C then ['\\', 'f']
  else if c.toNat < 0x20 then '\\' :: 'u' :: Text.Quoted.hexadecimal 4 c.toNat
  else [c]

/-- A text between quotes. -/
def quote (text : String) : List Char :=
  '"' :: text.toList.flatMap escape ++ ['"']

mutual

/-- A value on one line. -/
def line : Value → List Char
  | .null => "null".toList
  | .flag true => "true".toList
  | .flag false => "false".toList
  | .whole value => Text.Numeral.ofInt value
  | .fraction value => value.writeNamed
  | .text value => quote value
  | .list items => '[' :: Value.separated (lineItems items) ++ [']']
  | .mapping entries => '\x7b' :: Value.separated (lineEntries entries) ++ ['\x7d']
  | .other listing => quote listing

/-- The items of a list, each on one line. -/
def lineItems : List Value → List (List Char)
  | [] => []
  | item :: rest => line item :: lineItems rest

/-- The entries of a mapping, each on one line. -/
def lineEntries : List (Key × Value) → List (List Char)
  | [] => []
  | (key, value) :: rest => (quote key.word ++ ':' :: ' ' :: line value) :: lineEntries rest

end

/-- The text of a value on one line. -/
def compact (value : Value) : String :=
  String.ofList (line value)

/-- The start of a line at a depth, two blanks for each level. -/
def indentation (depth : Nat) : List Char :=
  '\n' :: List.replicate (2 * depth) ' '

/-- Pieces between brackets, each on a line of its own at a depth; nothing stands between brackets
without pieces. -/
def block (left right : Char) (depth : Nat) (pieces : List (List Char)) : List Char :=
  if pieces.isEmpty then [left, right]
  else
    left :: [','].intercalate (pieces.map (indentation (depth + 1) ++ ·)) ++
      indentation depth ++ [right]

mutual

/-- A value over several lines, beginning at a depth. -/
def lines (depth : Nat) : Value → List Char
  | .null => "null".toList
  | .flag true => "true".toList
  | .flag false => "false".toList
  | .whole value => Text.Numeral.ofInt value
  | .fraction value => value.writeNamed
  | .text value => quote value
  | .list items => block '[' ']' depth (linesItems (depth + 1) items)
  | .mapping entries => block '\x7b' '\x7d' depth (linesEntries (depth + 1) entries)
  | .other listing => quote listing

/-- The items of a list over several lines. -/
def linesItems (depth : Nat) : List Value → List (List Char)
  | [] => []
  | item :: rest => lines depth item :: linesItems depth rest

/-- The entries of a mapping over several lines. -/
def linesEntries (depth : Nat) : List (Key × Value) → List (List Char)
  | [] => []
  | (key, value) :: rest =>
    (quote key.word ++ ':' :: ' ' :: lines depth value) :: linesEntries depth rest

end

/-- The text of a value over several lines. -/
def indented (value : Value) : String :=
  String.ofList (lines 0 value)

end Checkout.Json
