import Checkout.Yaml.Merge
import Checkout.Yaml.Number

/-!
# Reading YAML

A text of one YAML document is read to a value.  Plain scalars that are spelled like nothing, a
truth value or a number stand for those; quoted ones are always texts.  Keys are scalars, and of two
entries with one key the later counts.

A document is looked through before it is made a value: first its outermost list or mapping, then
those inside of it, then those inside of these.  So of two faults the one that is nested less deep
is told, and of two in one depth the first.
-/

namespace Checkout.Yaml

/-! ## Plain scalars -/

/-- The spellings of nothing. -/
def nullSpellings : List String :=
  ["", "~", "null", "Null", "NULL"]

/-- The spellings of the two truth values. -/
def flagSpellings : List (String × Bool) :=
  [("yes", true), ("Yes", true), ("YES", true), ("no", false), ("No", false), ("NO", false),
   ("true", true), ("True", true), ("TRUE", true), ("false", false), ("False", false),
   ("FALSE", false), ("on", true), ("On", true), ("ON", true), ("off", false), ("Off", false),
   ("OFF", false)]

/-- The plain scalar that stands for the value of a mapping itself.  It is a text as a key, and
nothing else can be made of it. -/
def ownValue : String :=
  "="

/-- The number that a plain scalar writes, if it writes one. -/
def number? (text : List Char) : Option (Except Unreadable Value) :=
  (fraction? text).or (whole? text)

/-- The value of a plain scalar. -/
def plainValue (text : List Char) : Except Unreadable Value :=
  let spelling := String.ofList text
  if nullSpellings.contains spelling then .ok .null
  else if spelling = ownValue ∨ spelling = mergeKey then .error .malformed
  else
    match flagSpellings.lookup spelling with
    | some value => .ok (.flag value)
    | none => (number? text).getD (.ok (.text spelling))

namespace Node

/-- The value of a scalar. -/
def scalarValue (text : List Char) (plain : Bool) : Except Unreadable Value :=
  if plain then plainValue text else .ok (.text (String.ofList text))

/-- The key that a node is; only a scalar can be one. -/
def key : Node → Except Unreadable Key
  | .scalar text plain => do
    let value ← scalarValue text (plain && String.ofList text ≠ ownValue)
    match value.key? with
    | some key => .ok key
    | none => .error .malformed
  | _ => .error .malformed

/-! ## Faults -/

/-- Layers of nodes put side by side, the outermost beside the outermost. -/
def beside : List (List Node) → List (List Node) → List (List Node)
  | first :: firsts, second :: seconds => (first ++ second) :: beside firsts seconds
  | [], seconds => seconds
  | firsts, [] => firsts

mutual

/-- The lists and mappings of a node by how deep they are nested, the node itself in the first
layer. -/
def layers : Node → List (List Node)
  | .scalar _ _ => []
  | .list items => [.list items] :: itemLayers items
  | .mapping entries => [.mapping entries] :: entryLayers entries

/-- The layers of items side by side. -/
def itemLayers : List Node → List (List Node)
  | [] => []
  | item :: rest => beside item.layers (itemLayers rest)

/-- The layers of the values of entries side by side. -/
def entryLayers : List (Node × Node) → List (List Node)
  | [] => []
  | (_, value) :: rest => beside value.layers (entryLayers rest)

end

/-- Looks at a node as a part of another one: a scalar has to have a value. -/
def checkPart : Node → Except Unreadable Unit
  | .scalar text plain => (scalarValue text plain).map fun _ => ()
  | _ => .ok ()

/-- Looks at an entry: its key has to be one, and then its value is a part. -/
def checkEntry (entry : Node × Node) : Except Unreadable Unit := do
  let _ ← entry.1.key
  entry.2.checkPart

/-- Looks at a node without what is nested inside its parts.  No merge key may be left in a
mapping. -/
def check : Node → Except Unreadable Unit
  | .scalar text plain => checkPart (.scalar text plain)
  | .list items => items.forM checkPart
  | .mapping entries =>
    if entries.any fun entry => isMergeKey entry.1 then .error .malformed
    else entries.forM checkEntry

/-- Looks at a node and all that is nested in it, layer by layer. -/
def checkAll (node : Node) : Except Unreadable Unit := do
  node.checkPart
  node.layers.flatten.forM check

/-! ## Values -/

mutual

/-- The value of a node. -/
def value : Node → Except Unreadable Value
  | .scalar text plain => scalarValue text plain
  | .list items => do
    let items ← values items
    .ok (.list items)
  | .mapping entries => do
    let entries ← valuesOnto [] entries
    .ok (.mapping entries)

/-- The values of nodes. -/
def values : List Node → Except Unreadable (List Value)
  | [] => .ok []
  | node :: rest => do
    let first ← node.value
    let others ← values rest
    .ok (first :: others)

/-- The entries of a mapping put onto those before them. -/
def valuesOnto (before : Mapping) : List (Node × Node) → Except Unreadable Mapping
  | [] => .ok before
  | (name, node) :: rest => do
    let key ← name.key
    let item ← node.value
    valuesOnto (Mapping.putKey key item before) rest

end

/-- The value of a whole document. -/
def document (node : Node) : Except Unreadable Value := do
  let resolved := node.resolve
  resolved.checkAll
  resolved.value

end Node

/-- The value of the document that some characters are, behind which there may be bytes that are no
text.  Without a document it is nothing. -/
def read (characters : List Char) (isCut : Bool) : Except Unreadable Value := do
  match ← Node.ofTokens (tokens characters isCut) with
  | none => .ok .null
  | some node => node.document

end Checkout.Yaml
