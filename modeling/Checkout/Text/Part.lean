import Checkout.Text.Points

/-!
# Parts of a text

A part of a text is a run of code points that stands somewhere in it.
-/

namespace Checkout.Text

variable {Item : Type} [BEq Item]

/-- Whether the items stand somewhere in the others. -/
def isWithin (part : List Item) : List Item → Bool
  | [] => part.isEmpty
  | c :: rest => part.isPrefixOf (c :: rest) || isWithin part rest

/-- The items with the first occurrence of a part replaced. -/
def replaceFirst (part replacement : List Item) : List Item → List Item
  | [] => []
  | c :: rest =>
    if part.isPrefixOf (c :: rest) then replacement ++ (c :: rest).drop part.length
    else c :: replaceFirst part replacement rest

/-- Whether a text is a part of another. -/
def isPart (part text : String) : Bool :=
  isWithin (points part.toList) (points text.toList)

/-- The text with the first occurrence of a part replaced. -/
def replacePart (part replacement text : String) : String :=
  String.ofList (ofPoints
    (replaceFirst (points part.toList) (points replacement.toList) (points text.toList)))

end Checkout.Text
