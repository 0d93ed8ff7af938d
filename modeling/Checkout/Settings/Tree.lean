import Checkout.Problem
import Checkout.Text.Split

/-!
# Settings as a tree

Settings are a mapping whose values may be mappings again.  A setting is named by the keys on the
way to it, which are texts, written with dots between them.  Reading looks a path up, writing makes
the sections on the way, and an overlay puts one tree over another: where both have a section the
sections are overlaid in turn, and everywhere else the upper tree counts.
-/

namespace Checkout.Settings

/-- The keys that a dotted name is made of. -/
def path (name : String) : List String :=
  Text.pieces '.' name

/-- The value at a path, if every key on the way leads to a section and the value is not nothing. -/
def lookup : List String → Mapping → Option Value
  | [], _ => none
  | [key], tree =>
    match Mapping.get? key tree with
    | some .null => none
    | found => found
  | key :: next :: rest, tree =>
    match Mapping.get? key tree with
    | some (.mapping inner) => lookup (next :: rest) inner
    | _ => none

/-- The section under a key; there is an empty one where something else or nothing stands. -/
def sectionAt (key : String) (tree : Mapping) : Mapping :=
  match Mapping.get? key tree with
  | some (.mapping inner) => inner
  | _ => []

/-- The tree with a value at a path.  What is no section on the way is replaced by one. -/
def set : List String → Value → Mapping → Mapping
  | [], _, tree => tree
  | [key], value, tree => Mapping.put key value tree
  | key :: next :: rest, value, tree =>
    Mapping.put key (.mapping (set (next :: rest) value (sectionAt key tree))) tree

/-- The value under a dotted name, or the given one. -/
def get (tree : Mapping) (name : String) (default : Value) : Value :=
  (lookup (path name) tree).getD default

/-- The tree with a value under a dotted name. -/
def put (tree : Mapping) (name : String) (value : Value) : Mapping :=
  set (path name) value tree

/-- How deep lists and mappings may be nested in settings that are copied. -/
def deepest : Nat :=
  495

/-- The tree as it is handed on: a copy, which is not made of one that is nested too deeply. -/
def copy (tree : Mapping) : Except Fault Mapping :=
  if (Value.mapping tree).depth ≤ deepest then .ok tree else .error .tooDeep

mutual

/-- What stands under a key when a value is put over what stood there. -/
def overlayValue (below : Option Value) : Value → Value
  | .mapping above =>
    match below with
    | some (.mapping inner) => .mapping (overlay inner above)
    | _ => .mapping above
  | above => above

/-- The second tree put over the first, entry by entry.  A key that is the same as one below keeps
the spelling from there. -/
def overlay (below : Mapping) : Mapping → Mapping
  | [] => below
  | (key, value) :: rest =>
    let upper := overlayValue (Value.underSame? key below) value
    overlay (Mapping.putKey key upper below) rest

end

end Checkout.Settings
