import Checkout.Problem
import Checkout.Text.Blank
import Checkout.Text.Case

/-!
# Items

An item is known by its normalized name: the words of the name in upper case with single spaces
between them.  Names that differ in case or in the blanks around their words are names of the same
item.  An item identifier holds a normalized name that is not empty, so two identifiers are equal
exactly when the names are.
-/

namespace Checkout

/-- The normalized form of a name, character by character. -/
def normalizeChars (name : List Char) : List Char :=
  Text.unwords ((Text.words name).map Text.Case.upper)

/-- The normalized form of a name: its words in upper case with single spaces between them. -/
def normalizeName (name : String) : String :=
  String.ofList (normalizeChars name.toList)

/-- The identity of an item in the shop. -/
structure ItemId where
  /-- The normalized name. -/
  name : String
  /-- The name is normalized and not empty. -/
  normalized : (∃ raw, normalizeName raw = name) ∧ name ≠ ""
  deriving DecidableEq

namespace ItemId

/-- The item that a name stands for; there is none for a blank name. -/
def ofName? (raw : String) : Option ItemId :=
  if notBlank : normalizeName raw ≠ "" then
    some ⟨normalizeName raw, ⟨raw, rfl⟩, notBlank⟩
  else none

/-- The item that a name stands for; a blank name is a problem. -/
def ofName (raw : String) : Except Problem ItemId :=
  match ofName? raw with
  | some item => .ok item
  | none => .error (.blankItem raw)

/-- Two identifiers with the same name are the same item. -/
theorem ext {first second : ItemId} (sameName : first.name = second.name) : first = second := by
  cases first
  cases second
  simp_all

/-- The words of the name, each with its first letter in title case and the rest in lower case. -/
def title (item : ItemId) : String :=
  String.ofList (Text.unwords ((Text.words item.name.toList).map Text.Case.capitalize))

/-- The identifier as listings show it. -/
def listed (item : ItemId) : String :=
  "ItemId(" ++ Text.quoted item.name ++ ")"

/-- Items in the order of their names, code point by code point. -/
def sort (items : List ItemId) : List ItemId :=
  items.mergeSort fun first second => decide (first.name ≤ second.name)

end ItemId

/-- An item as a caller refers to it: by any spelling of its name, or by its identifier. -/
inductive ItemRef
  | named (raw : String)
  | known (item : ItemId)
  deriving DecidableEq

/-- The item referred to. -/
def ItemRef.resolve : ItemRef → Except Problem ItemId
  | .named raw => ItemId.ofName raw
  | .known item => .ok item

end Checkout
