/-!
# Splitting at a separator

Dotted keys and file paths are divided at every occurrence of one separating character.  There is
always one piece more than there are separators, so pieces may be empty.
-/

namespace Checkout.Text

/-- The pieces between the separators. -/
def splitAt (separator : Char) : List Char → List (List Char)
  | [] => [[]]
  | c :: rest =>
    if c = separator then [] :: splitAt separator rest
    else
      match splitAt separator rest with
      | [] => [[c]]
      | first :: others => (c :: first) :: others

/-- The pieces of a text between the separators. -/
def pieces (separator : Char) (text : String) : List String :=
  (splitAt separator text.toList).map String.ofList

theorem splitAt_ne_nil (separator : Char) (text : List Char) : splitAt separator text ≠ [] := by
  cases text with
  | nil => simp [splitAt]
  | cons c rest =>
    simp only [splitAt]
    split
    · simp
    · split <;> simp

end Checkout.Text
