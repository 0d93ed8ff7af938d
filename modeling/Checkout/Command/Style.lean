import Checkout.Command.Number
import Checkout.Text.Blank
import Checkout.Text.Case

/-!
# Styles of marks

A mark opens a style by words for attributes and colours.  Styles are never shown, and words that
are none end the reading of a style without a fault.  But a colour made of three numbers is a fault
if one of them is no number, so styles are read all the same.

A mark's name is in front of its first equals sign.  It is read when the mark is met, and once more,
with what stands behind the equals sign, when the message is printed.  By then a name that is no
style is in lower case.
-/

namespace Checkout.Command

namespace Style

/-! ## Colours -/

/-- The names of colours. -/
def colourNames : List String :=
  ["default", "black", "red", "green", "yellow", "blue", "magenta", "cyan", "white",
   "bright_black", "bright_red", "bright_green", "bright_yellow", "bright_blue",
   "bright_magenta", "bright_cyan", "bright_white", "navy_blue", "dark_blue", "blue3", "blue1",
   "dark_green", "deep_sky_blue4", "dodger_blue3", "dodger_blue2", "green4", "spring_green4",
   "turquoise4", "deep_sky_blue3", "dodger_blue1", "green3", "spring_green3", "dark_cyan",
   "light_sea_green", "deep_sky_blue2", "deep_sky_blue1", "spring_green2", "cyan3",
   "dark_turquoise", "turquoise2", "green1", "spring_green1", "medium_spring_green", "cyan2",
   "cyan1", "dark_red", "deep_pink4", "purple4", "purple3", "blue_violet", "orange4",
   "medium_purple4", "slate_blue3", "royal_blue1", "chartreuse4", "dark_sea_green4",
   "pale_turquoise4", "steel_blue", "steel_blue3", "cornflower_blue", "chartreuse3",
   "cadet_blue", "sky_blue3", "steel_blue1", "pale_green3", "sea_green3", "aquamarine3",
   "medium_turquoise", "chartreuse2", "sea_green2", "sea_green1", "aquamarine1",
   "dark_slate_gray2", "dark_magenta", "dark_violet", "purple", "light_pink4", "plum4",
   "medium_purple3", "slate_blue1", "yellow4", "wheat4", "light_slate_grey", "light_slate_gray",
   "medium_purple", "light_slate_blue", "dark_olive_green3", "dark_sea_green",
   "light_sky_blue3", "sky_blue2", "dark_sea_green3", "dark_slate_gray3", "sky_blue1",
   "chartreuse1", "light_green", "pale_green1", "dark_slate_gray1", "red3",
   "medium_violet_red", "magenta3", "dark_orange3", "indian_red", "hot_pink3",
   "medium_orchid3", "medium_orchid", "medium_purple2", "dark_goldenrod", "light_salmon3",
   "rosy_brown", "medium_purple1", "gold3", "dark_khaki", "navajo_white3", "light_steel_blue3",
   "light_steel_blue", "yellow3", "dark_sea_green2", "light_cyan3", "light_sky_blue1",
   "green_yellow", "dark_olive_green2", "dark_sea_green1", "pale_turquoise1", "deep_pink3",
   "magenta2", "hot_pink2", "orchid", "medium_orchid1", "orange3", "light_pink3", "pink3",
   "plum3", "violet", "light_goldenrod3", "tan", "misty_rose3", "thistle3", "plum2", "khaki3",
   "light_goldenrod2", "light_yellow3", "light_steel_blue1", "yellow2", "dark_olive_green1",
   "honeydew2", "light_cyan1", "red1", "deep_pink2", "deep_pink1", "magenta1", "orange_red1",
   "indian_red1", "hot_pink", "dark_orange", "salmon1", "light_coral", "pale_violet_red1",
   "orchid2", "orchid1", "orange1", "sandy_brown", "light_salmon1", "light_pink1", "pink1",
   "plum1", "gold1", "navajo_white1", "misty_rose1", "thistle1", "yellow1", "light_goldenrod1",
   "khaki1", "wheat1", "cornsilk1"]

/-- The shades of grey that have names, in hundredths of white. -/
def greys : List String :=
  ["0", "3", "7", "11", "15", "19", "23", "27", "30", "35", "37", "39", "42", "46", "50", "53",
   "54", "58", "62", "63", "66", "69", "70", "74", "78", "82", "84", "85", "89", "93", "100"]

/-- Whether a word is the name of a colour. -/
def isColourName (word : String) : Bool :=
  colourNames.contains word ||
    greys.any fun shade => word = "grey" ++ shade || word = "gray" ++ shade

/-- The largest part of a colour, and the last number of one. -/
def largestPart : Nat :=
  255

/-- What stands between a word with an opening parenthesis and a closing one at the end. -/
def between? (word text : List Char) : Option (List Char) :=
  if word.isPrefixOf text && text.getLast? == some ')' then
    some ((text.drop word.length).dropLast)
  else none

/-- Whether a text is the number of a colour. -/
def isColourNumber (text : List Char) : Bool :=
  Text.Numeral.isDigits text && text.length ≤ 3 && Text.Numeral.value text ≤ largestPart

/-- Whether three numbers with commas between them are the parts of a colour. -/
def isColourOfParts (text : List Char) : Except Fault Bool := do
  if text.isEmpty || !text.all fun c => Number.isDecimal c || c = ',' then .ok false
  else
    match text.splitOn ',' with
    | [red, green, blue] =>
      let red ← Number.read red
      let green ← Number.read green
      let blue ← Number.read blue
      .ok ([red, green, blue].all (· ≤ largestPart))
    | _ => .ok false

/-- Whether a text is a sharp sign and six hexadecimal digits. -/
def isColourCode : List Char → Bool
  | '#' :: digits =>
    digits.length = 6 && digits.all fun c => c.isDigit || ('a' ≤ c && c ≤ 'f')
  | _ => false

/-- A word in lower case. -/
def lower (word : List Char) : List Char :=
  word.flatMap Text.Case.lowerChar

/-- Whether a word in lower case is a colour. -/
def isColour (word : List Char) : Except Fault Bool :=
  if isColourName (String.ofList word) || isColourCode word then .ok true
  else
    match between? "color(".toList word, between? "rgb(".toList word with
    | some number, _ => .ok (isColourNumber number)
    | none, some parts => isColourOfParts parts
    | none, none => .ok false

/-! ## Words -/

/-- The words for attributes. -/
def attributes : List String :=
  ["dim", "d", "bold", "b", "italic", "i", "underline", "u", "blink", "blink2", "reverse", "r",
   "conceal", "c", "strike", "s", "underline2", "uu", "frame", "encircle", "overline", "o"]

/-- Whether a word is one for an attribute. -/
def isAttribute (word : List Char) : Bool :=
  attributes.contains (String.ofList word)

/-- Whether words make a style.  They are read up to the first that can not be one. -/
def read : List (List Char) → Except Fault Bool
  | [] => .ok true
  | word :: rest => do
    let isOpening (opening : String) : Bool := String.ofList (lower word) = opening
    if isOpening "on" then
      match rest with
      | [] => .ok false
      | colour :: rest => if ← isColour (lower colour) then read rest else .ok false
    else if isOpening "not" then
      match rest with
      | [] => .ok false
      | quality :: rest => if isAttribute quality then read rest else .ok false
    else if isOpening "link" then
      match rest with
      | [] => .ok false
      | _ :: rest => read rest
    else if isAttribute (lower word) then read rest
    else if ← isColour (lower word) then read rest
    else .ok false

end Style

/-! ## Marks -/

/-- What stands in a mark. -/
structure Mark where
  /-- What stands in front of the first equals sign. -/
  name : List Char
  /-- What stands behind that. -/
  parameters : List Char

namespace Mark

/-- The mark that a text stands in. -/
def ofText (text : List Char) : Mark :=
  let name := text.takeWhile (· ≠ '=')
  ⟨name, text.drop (name.length + 1)⟩

/-- Whether the words of a name say that there is no style. -/
def isNone (words : List (List Char)) : Bool :=
  words.isEmpty || words = ["none".toList]

/-- The words that are read when the mark is printed, once its name has been read. -/
def opened (mark : Mark) : Except Fault (List (List Char)) := do
  let words := Text.words mark.name
  if isNone words then .ok []
  else
    let isStyle ← Style.read words
    let parameters := Text.words mark.parameters
    .ok (if isStyle then parameters else words.map Style.lower ++ parameters)

/-- The fault of a mark that closes a style, where none is open. -/
def closed (mark : Mark) : Fault :=
  match mark.opened with
  | .ok _ => .closedMark
  | .error fault => fault

/-- The words of a mark that are read when it is printed.  One that begins with a slash closes a
style. -/
def met (mark : Mark) : Except Fault (List (List Char)) :=
  match mark.name with
  | '/' :: name => .error (Mark.closed { mark with name })
  | _ => mark.opened

end Mark

end Checkout.Command
