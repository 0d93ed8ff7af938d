/-!
# Entries in order of first insertion

A list of keyed entries in which every key stands once.  Putting a value under a known key keeps
the key's place; an unknown key goes to the end.  Catalogs, baskets and settings are kept this way,
since the order in which things were first named is shown.
-/

namespace Checkout.Entries

universe u v

variable {Key : Type u} {Item : Type v} [DecidableEq Key]

/-- The value under a key. -/
def get? (key : Key) : List (Key × Item) → Option Item
  | [] => none
  | (known, value) :: rest => if known = key then some value else get? key rest

/-- The entries with a value under a key. -/
def put (key : Key) (value : Item) : List (Key × Item) → List (Key × Item)
  | [] => [(key, value)]
  | (known, old) :: rest =>
    if known = key then (known, value) :: rest else (known, old) :: put key value rest

/-- Whether an entry has the key. -/
def has (key : Key) (entries : List (Key × Item)) : Bool :=
  (get? key entries).isSome

/-- The entries with others put onto them one after another. -/
def putAll (pairs entries : List (Key × Item)) : List (Key × Item) :=
  pairs.foldl (fun entries pair => put pair.1 pair.2 entries) entries

/-- The entries put one after another into an empty list. -/
def ofList (pairs : List (Key × Item)) : List (Key × Item) :=
  putAll pairs []

@[simp]
theorem get?_nil (key : Key) : get? key ([] : List (Key × Item)) = none :=
  rfl

/-- A value is found under the key it was put under, and other keys keep theirs. -/
@[simp]
theorem get?_put (key other : Key) (value : Item) (entries : List (Key × Item)) :
    get? other (put key value entries) =
      if key = other then some value else get? other entries := by
  induction entries with
  | nil => simp [put, get?]
  | cons entry rest ih =>
    obtain ⟨known, old⟩ := entry
    by_cases same : known = key
    · subst same
      by_cases found : known = other <;> simp [put, get?, found]
    · by_cases found : known = other
      · subst found
        have distinct : ¬ key = known := fun equal => same equal.symm
        simp [put, get?, same, distinct]
      · simp [put, get?, same, found, ih]

/-- Putting a value under a known key keeps the keys and their order; an unknown key is added at
the end. -/
theorem map_fst_put (key : Key) (value : Item) (entries : List (Key × Item)) :
    (put key value entries).map Prod.fst =
      if has key entries then entries.map Prod.fst else entries.map Prod.fst ++ [key] := by
  induction entries with
  | nil => simp [put, has]
  | cons entry rest ih =>
    obtain ⟨known, old⟩ := entry
    by_cases same : known = key
    · simp [put, has, get?, same]
    · simp only [put, same, if_false, List.map_cons, ih, has, get?]
      split <;> simp [*]

end Checkout.Entries
