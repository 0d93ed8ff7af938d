import Checkout.Yaml.Lexer

/-!
# From tokens to a tree

A document is one node: a scalar, a list or a mapping.  Where a node may be left out it is an empty
plain scalar.  A node is read together with the tokens behind it.  Each token is looked at only when
all in front of it are in their places, so of two faults the first is told.
-/

namespace Checkout.Yaml

/-- A node of a document. -/
inductive Node
  | scalar (text : List Char) (plain : Bool)
  | list (items : List Node)
  | mapping (entries : List (Node × Node))

namespace Node

/-- What stands where a node is left out. -/
def blank : Node :=
  .scalar [] true

/-- Whether a node is left out in front of the tokens, given the tokens that say so. -/
def isLeftOut (ends : List Token) : List Token → Bool
  | [] => false
  | token :: _ => ends.contains token

/-- What is wrong where the tokens begin with one that is out of place. -/
def misplaced {Result : Type} : List Token → Except Unreadable Result
  | .broken reason :: _ => .error reason
  | _ => .error .malformed

/-- How deep lists and mappings may be nested. -/
def deepest : Nat :=
  488

mutual

/-- The node that the tokens start with, of which lists and mappings may be nested some levels deep.
Inside brackets no block begins, and only a value or key of a block mapping may be a list that is
not indented. -/
def read (fuel levels : Nat) (inBlock mayBeFlush : Bool) (tokens : List Token) :
    Except Unreadable (Node × List Token) :=
  match fuel, levels, tokens with
  | 0, _, _ => .error .malformed
  | _, _, .scalar text plain :: rest => .ok (.scalar text plain, rest)
  | fuel + 1, levels, .flowListStart :: rest =>
    match levels with
    | 0 => .error .tooDeep
    | levels + 1 => do
      let (items, rest) ← flowItems fuel levels true rest
      .ok (.list items, rest)
  | fuel + 1, levels, .flowMappingStart :: rest =>
    match levels with
    | 0 => .error .tooDeep
    | levels + 1 => do
      let (entries, rest) ← flowEntries fuel levels true rest
      .ok (.mapping entries, rest)
  | fuel + 1, levels, .blockListStart :: rest =>
    match inBlock, levels with
    | false, _ => .error .malformed
    | true, 0 => .error .tooDeep
    | true, levels + 1 => do
      let (items, rest) ← blockItems fuel levels rest
      .ok (.list items, rest)
  | fuel + 1, levels, .blockMappingStart :: rest =>
    match inBlock, levels with
    | false, _ => .error .malformed
    | true, 0 => .error .tooDeep
    | true, levels + 1 => do
      let (entries, rest) ← blockEntries fuel levels rest
      .ok (.mapping entries, rest)
  | fuel + 1, levels, .entry :: rest =>
    match mayBeFlush, levels with
    | false, _ => .error .malformed
    | true, 0 => .error .tooDeep
    | true, levels + 1 => do
      let (items, rest) ← flushItems fuel levels (.entry :: rest)
      .ok (.list items, rest)
  | _, _, tokens => misplaced tokens

/-- The node that the tokens start with, unless one of the given tokens shows that it is left
out. -/
def readUnless (fuel levels : Nat) (ends : List Token) (inBlock mayBeFlush : Bool)
    (tokens : List Token) : Except Unreadable (Node × List Token) :=
  match fuel with
  | 0 => .error .malformed
  | fuel + 1 =>
    if isLeftOut ends tokens then .ok (blank, tokens)
    else read fuel levels inBlock mayBeFlush tokens

/-- The items of an indented list. -/
def blockItems (fuel levels : Nat) (tokens : List Token) :
    Except Unreadable (List Node × List Token) :=
  match fuel, tokens with
  | 0, _ => .error .malformed
  | fuel + 1, .entry :: rest => do
    let (item, rest) ← readUnless fuel levels [.entry, .blockEnd] true false rest
    let (items, rest) ← blockItems fuel levels rest
    .ok (item :: items, rest)
  | _, .blockEnd :: rest => .ok ([], rest)
  | _, tokens => misplaced tokens

/-- The items of a list that is not indented. -/
def flushItems (fuel levels : Nat) (tokens : List Token) :
    Except Unreadable (List Node × List Token) :=
  match fuel, tokens with
  | 0, _ => .error .malformed
  | fuel + 1, .entry :: rest => do
    let (item, rest) ← readUnless fuel levels [.entry, .key, .value, .blockEnd] true false rest
    let (items, rest) ← flushItems fuel levels rest
    .ok (item :: items, rest)
  | _, tokens => .ok ([], tokens)

/-- The entries of an indented mapping. -/
def blockEntries (fuel levels : Nat) (tokens : List Token) :
    Except Unreadable (List (Node × Node) × List Token) :=
  match fuel, tokens with
  | 0, _ => .error .malformed
  | fuel + 1, .key :: rest => do
    let (key, rest) ← readUnless fuel levels [.key, .value, .blockEnd] true true rest
    let (value, rest) ←
      match rest with
      | .value :: rest => readUnless fuel levels [.key, .value, .blockEnd] true true rest
      | _ => .ok (blank, rest)
    let (entries, rest) ← blockEntries fuel levels rest
    .ok ((key, value) :: entries, rest)
  | _, .blockEnd :: rest => .ok ([], rest)
  | _, tokens => misplaced tokens

/-- The items of a list in brackets.  An entry of a mapping may stand for an item. -/
def flowItems (fuel levels : Nat) (isFirst : Bool) (tokens : List Token) :
    Except Unreadable (List Node × List Token) :=
  match fuel, tokens with
  | 0, _ => .error .malformed
  | _, .flowListEnd :: rest => .ok ([], rest)
  | fuel + 1, tokens => do
    let rest ←
      match isFirst, tokens with
      | true, _ => .ok tokens
      | false, .comma :: rest => .ok rest
      | false, _ => misplaced tokens
    match rest with
    | .key :: rest =>
      match levels with
      | 0 => .error .tooDeep
      | inner + 1 => do
        let (key, rest) ← readUnless fuel inner [.value, .comma, .flowListEnd] false false rest
        let (value, rest) ←
          match rest with
          | .value :: rest => readUnless fuel inner [.comma, .flowListEnd] false false rest
          | _ => .ok (blank, rest)
        let (items, rest) ← flowItems fuel levels false rest
        .ok (.mapping [(key, value)] :: items, rest)
    | .flowListEnd :: rest => .ok ([], rest)
    | _ => do
      let (item, rest) ← read fuel levels false false rest
      let (items, rest) ← flowItems fuel levels false rest
      .ok (item :: items, rest)

/-- The entries of a mapping in braces.  A key may stand without a value. -/
def flowEntries (fuel levels : Nat) (isFirst : Bool) (tokens : List Token) :
    Except Unreadable (List (Node × Node) × List Token) :=
  match fuel, tokens with
  | 0, _ => .error .malformed
  | _, .flowMappingEnd :: rest => .ok ([], rest)
  | fuel + 1, tokens => do
    let rest ←
      match isFirst, tokens with
      | true, _ => .ok tokens
      | false, .comma :: rest => .ok rest
      | false, _ => misplaced tokens
    match rest with
    | .key :: rest => do
      let (key, rest) ← readUnless fuel levels [.value, .comma, .flowMappingEnd] false false rest
      let (value, rest) ←
        match rest with
        | .value :: rest => readUnless fuel levels [.comma, .flowMappingEnd] false false rest
        | _ => .ok (blank, rest)
      let (entries, rest) ← flowEntries fuel levels false rest
      .ok ((key, value) :: entries, rest)
    | .flowMappingEnd :: rest => .ok ([], rest)
    | _ => do
      let (key, rest) ← read fuel levels false false rest
      let (entries, rest) ← flowEntries fuel levels false rest
      .ok ((key, blank) :: entries, rest)

end

/-- Nothing but ends of documents may be left. -/
def finish : List Token → Except Unreadable Unit
  | [] => .ok ()
  | .documentEnd :: rest => finish rest
  | tokens => misplaced tokens

/-- The document that begins with its content. -/
def content (tokens : List Token) : Except Unreadable (Option Node) := do
  let (node, rest) ← read (4 * tokens.length + 4) deepest true false tokens
  finish rest
  .ok (some node)

/-- The only document that the tokens hold; there may be none. -/
def ofTokens (tokens : List Token) : Except Unreadable (Option Node) :=
  match tokens with
  | [] => .ok none
  | .documentStart :: rest =>
    match rest with
    | [] => .ok (some blank)
    | .documentEnd :: rest => do
      finish rest
      .ok (some blank)
    | _ => content rest
  | _ => content tokens

end Node

end Checkout.Yaml
