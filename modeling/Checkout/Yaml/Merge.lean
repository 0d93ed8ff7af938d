import Checkout.Yaml.Node

/-!
# Merged mappings

The key `<<` puts the entries of other mappings in front of those of its own mapping: those of one
mapping, or those of a list of them, the last one first.  What comes later counts, so a mapping's
own entries win over merged ones, and of the mappings in a list the first wins.
-/

namespace Checkout.Yaml

/-- The plain scalar that, as a key, puts the entries of other mappings in front.  Nothing else can
be made of it. -/
def mergeKey : String :=
  "<<"

/-- Whether a key is the one that puts entries of other mappings in front. -/
def isMergeKey : Node → Bool
  | .scalar text true => String.ofList text = mergeKey
  | _ => false

namespace Node

/-- The entries of a mapping. -/
def entries? : Node → Option (List (Node × Node))
  | .mapping entries => some entries
  | _ => none

/-- The entries that a merge key brings in: those of a mapping, or of a list of mappings. -/
def broughtIn? : Node → Option (List (Node × Node))
  | .mapping entries => some entries
  | .list items => (items.mapM entries?).map fun all => all.reverse.flatten
  | .scalar _ _ => none

/-- What an entry puts in front of the others: a merge key the entries it brings in, unless it can
not bring in any, when it stays itself. -/
def inFront (entry : Node × Node) : List (Node × Node) :=
  if isMergeKey entry.1 then (broughtIn? entry.2).getD [entry] else []

/-- The entries of a mapping with those that its merge keys bring in. -/
def merged (entries : List (Node × Node)) : List (Node × Node) :=
  entries.flatMap inFront ++ entries.filter fun entry => !isMergeKey entry.1

mutual

/-- The node with every merge key carried out that brings in entries. -/
def resolve : Node → Node
  | .scalar text plain => .scalar text plain
  | .list items => .list (resolveItems items)
  | .mapping entries => .mapping (merged (resolveEntries entries))

/-- Nodes with their merge keys carried out. -/
def resolveItems : List Node → List Node
  | [] => []
  | item :: rest => item.resolve :: resolveItems rest

/-- Entries with the merge keys in their values carried out. -/
def resolveEntries : List (Node × Node) → List (Node × Node)
  | [] => []
  | (key, value) :: rest => (key, value.resolve) :: resolveEntries rest

end

end Node

end Checkout.Yaml
