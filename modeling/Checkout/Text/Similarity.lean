import Checkout.Text.Points

/-!
# Similar words

How alike two words are: the longest run of code points that they share, and in turn the longest
runs on both sides of it.  The likeness of two words is twice the number of shared code points over
the number of all.
-/

namespace Checkout.Text.Similarity

variable {Item : Type} [DecidableEq Item]

/-- The length of the run that two texts begin with in common. -/
def commonStart : List Item → List Item → Nat
  | c :: rest, d :: others => if c = d then commonStart rest others + 1 else 0
  | _, _ => 0

/-- A run that two texts share: where it starts in each, and its length. -/
structure Run where
  first : Nat
  second : Nat
  length : Nat

/-- The longest run that two texts share; of several the one that starts first. -/
def longest (first second : List Item) : Run :=
  let starts :=
    (List.range first.length).flatMap fun i => (List.range second.length).map fun j => (i, j)
  starts.foldl (fun best start =>
    let length := commonStart (first.drop start.1) (second.drop start.2)
    if best.length < length then ⟨start.1, start.2, length⟩ else best) ⟨0, 0, 0⟩

/-- The number of items in the runs that two texts share. -/
def shared (fuel : Nat) (first second : List Item) : Nat :=
  match fuel with
  | 0 => 0
  | fuel + 1 =>
    let run := longest first second
    if run.length = 0 then 0
    else
      shared fuel (first.take run.first) (second.take run.second) + run.length +
        shared fuel (first.drop (run.first + run.length)) (second.drop (run.second + run.length))

/-- The number of shared items of two words. -/
def sharedOf (first second : List Item) : Nat :=
  shared (first.length + 1) first second

/-- The parts in ten of the likeness from which on words count as similar. -/
def threshold : Nat :=
  6

/-- The most words that are named as similar. -/
def most : Nat :=
  3

/-- The likeness of two words, as its numerator and denominator. -/
def likeness (first second : String) : Nat × Nat :=
  (2 * sharedOf (points first.toList) (points second.toList),
    count first.toList + count second.toList)

/-- Whether the first word with its likeness goes before the second: it is more alike, or as much
alike and later in order. -/
def goesBefore (first second : (Nat × Nat) × String) : Bool :=
  let left := first.1.1 * second.1.2
  let right := second.1.1 * first.1.2
  right < left || (left == right && decide (second.2 ≤ first.2))

/-- Whether the lengths of two words let them be similar: no more is shared than the shorter has. -/
def mayBeSimilar (first second : String) : Bool :=
  let sizes := (count first.toList, count second.toList)
  threshold * (sizes.1 + sizes.2) ≤ 10 * (2 * min sizes.1 sizes.2)

/-- The words that are most similar to a word, the most similar first. -/
def similar (word : String) (words : List String) : List String :=
  let rated := (words.filter (mayBeSimilar word)).map fun other => (likeness other word, other)
  let close := rated.filter fun entry => threshold * entry.1.2 ≤ 10 * entry.1.1
  ((close.mergeSort goesBefore).take most).map (·.2)

end Checkout.Text.Similarity
