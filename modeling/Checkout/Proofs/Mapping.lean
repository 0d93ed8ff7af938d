import Checkout.Value
import Mathlib.Data.List.Infix
import Mathlib.Data.List.Nodup

/-!
# Mappings as finite maps

Keys of equal value are the same key, so a mapping is told by what stands under each key whatever
its spelling.  Putting a value under a key replaces it where the key is known, in its place and
with its first spelling, and adds it at the end where it is not.  Mappings in mappings make up a
tree, and a path of keys leads into it as long as there are sections on the way.
-/

namespace Checkout

open Value (underSame?)

/-! ## Keys that are the same -/

theorem Key.canonical_spelledAs (keys : List Key) (key : Key) :
    (key.spelledAs keys).canonical = key.canonical := by
  unfold spelledAs
  cases found : keys.find? fun known => known.canonical = key.canonical with
  | none => rfl
  | some known =>
    have same := List.find?_some found
    exact of_decide_eq_true same

theorem Key.canonical_eq_text_iff {key : Key} {name : String} :
    key.canonical = .text name ↔ key = .text name := by
  cases key with
  | fraction value => cases whole : value.whole? <;> simp [canonical, whole]
  | _ => simp [canonical]

/-- A text is spelled in one way. -/
theorem Key.spelledAs_text (keys : List Key) (name : String) :
    (Key.text name).spelledAs keys = .text name :=
  canonical_eq_text_iff.mp (canonical_spelledAs keys (.text name))

namespace Mapping

variable {key known : Key} {value old : Value} {entries front back : Mapping}

/-- The keys of a mapping without their spellings. -/
def keys (entries : Mapping) : List Key :=
  entries.map fun entry => entry.1.canonical

@[simp]
theorem keys_cons (entry : Key × Value) (rest : Mapping) :
    keys (entry :: rest) = entry.1.canonical :: keys rest :=
  rfl

@[simp]
theorem keys_append (front back : Mapping) : keys (front ++ back) = keys front ++ keys back :=
  List.map_append

/-- A value is put into the first entry with the same key. -/
theorem putKey_cons (key known : Key) (value old : Value) (rest : Mapping) :
    putKey key value ((known, old) :: rest) =
      if known.canonical = key.canonical then (known, value) :: rest
      else (known, old) :: putKey key value rest := by
  by_cases same : known.canonical = key.canonical
  · simp [putKey, Key.spelledAs, Entries.put, same]
  · have spelled : key.spelledAs (((known, old) :: rest).map Prod.fst) =
        key.spelledAs (rest.map Prod.fst) := by
      simp [Key.spelledAs, same]
    have other : known ≠ key.spelledAs (rest.map Prod.fst) := by
      rintro rfl
      exact same (Key.canonical_spelledAs _ key)
    rw [putKey, spelled, Entries.put, if_neg other, if_neg same, putKey]

theorem underSame?_cons (key known : Key) (value : Value) (rest : Mapping) :
    underSame? key ((known, value) :: rest) =
      if known.canonical = key.canonical then some value else underSame? key rest := by
  by_cases same : known.canonical = key.canonical <;> simp [underSame?, same]

theorem underSame?_eq_none_iff : underSame? key entries = none ↔ key.canonical ∉ keys entries := by
  simp [underSame?, keys]

/-- Keys that are the same have the same value under them. -/
theorem underSame?_congr (same : known.canonical = key.canonical) (entries : Mapping) :
    underSame? known entries = underSame? key entries := by
  rw [underSame?, underSame?, same]

theorem underSame?_putKey (key other : Key) (value : Value) (entries : Mapping) :
    underSame? other (putKey key value entries) =
      if key.canonical = other.canonical then some value else underSame? other entries := by
  induction entries with
  | nil => exact underSame?_cons other key value []
  | cons entry rest ih =>
    obtain ⟨known, old⟩ := entry
    rw [putKey_cons, underSame?_cons]
    by_cases same : known.canonical = key.canonical
    · rw [if_pos same, underSame?_cons, same]
      split <;> rfl
    · rw [if_neg same, underSame?_cons, ih]
      by_cases found : known.canonical = other.canonical
      · rw [if_pos found, if_pos found, if_neg fun equal => same (found.trans equal.symm)]
      · rw [if_neg found, if_neg found]

/-- The entries with distinct keys are found under their keys. -/
theorem underSame?_of_mem (distinct : (keys entries).Nodup) (isEntry : (key, value) ∈ entries) :
    underSame? key entries = some value := by
  induction entries with
  | nil => cases isEntry
  | cons entry rest ih =>
    obtain ⟨known, old⟩ := entry
    rw [keys_cons, List.nodup_cons] at distinct
    rw [underSame?_cons]
    rcases List.mem_cons.mp isEntry with same | inRest
    · cases same
      rw [if_pos rfl]
    · rw [if_neg, ih distinct.2 inRest]
      intro same
      exact distinct.1 (same ▸ List.mem_map_of_mem inRest)

theorem mem_of_underSame? (found : underSame? key entries = some value) :
    ∃ known, (known, value) ∈ entries := by
  obtain ⟨entry, isFirst, rfl⟩ := Option.map_eq_some_iff.mp found
  exact ⟨entry.1, List.mem_of_find?_eq_some isFirst⟩

/-! ## Adding entries -/

theorem putKey_append (isNew : key.canonical ∉ keys front) (value : Value) (back : Mapping) :
    putKey key value (front ++ back) = front ++ putKey key value back := by
  induction front with
  | nil => rfl
  | cons entry rest ih =>
    obtain ⟨known, old⟩ := entry
    rw [keys_cons, List.mem_cons, not_or] at isNew
    rw [List.cons_append, putKey_cons, if_neg (Ne.symm isNew.1), ih isNew.2, List.cons_append]

theorem underSame?_append (isNew : key.canonical ∉ keys front) (back : Mapping) :
    underSame? key (front ++ back) = underSame? key back := by
  have absent := underSame?_eq_none_iff.mpr isNew
  rw [underSame?, Option.map_eq_none_iff] at absent
  rw [underSame?, List.find?_append, absent, Option.none_or, underSame?]

/-- The keys of a mapping stand in front of those of what is made of it. -/
theorem map_fst_prefix_putKey (key : Key) (value : Value) (entries : Mapping) :
    entries.map Prod.fst <+: (putKey key value entries).map Prod.fst := by
  rw [putKey, Entries.map_fst_put]
  split
  · exact List.prefix_refl _
  · exact List.prefix_append _ _

theorem nodup_keys_putKey (distinct : (keys entries).Nodup) (key : Key) (value : Value) :
    (keys (putKey key value entries)).Nodup := by
  induction entries with
  | nil => exact List.nodup_singleton _
  | cons entry rest ih =>
    obtain ⟨known, old⟩ := entry
    have others := List.nodup_cons.mp distinct
    rw [putKey_cons]
    split
    · exact distinct
    · rename_i different
      rw [keys_cons, List.nodup_cons, ← underSame?_eq_none_iff, underSame?_putKey,
        if_neg (Ne.symm different), underSame?_eq_none_iff]
      exact ⟨others.1, ih others.2⟩

end Mapping

/-! ## Trees -/

/-- A value is a tree of sections if no section in it has the same key twice. -/
inductive Value.IsTree : Value → Prop
  | plain {value : Value} : value.entries? = none → IsTree value
  | mapping {entries : Mapping} : (Mapping.keys entries).Nodup →
      (∀ entry ∈ entries, IsTree entry.2) → IsTree (.mapping entries)

namespace Value

variable {entries : Mapping} {key : Key} {value : Value} {way : List Key}

@[simp]
theorem isTree_mapping_iff : IsTree (.mapping entries) ↔
    (Mapping.keys entries).Nodup ∧ ∀ entry ∈ entries, IsTree entry.2 := by
  constructor
  · intro isTree
    cases isTree with
    | plain plain => cases plain
    | mapping distinct inner => exact ⟨distinct, inner⟩
  · rintro ⟨distinct, inner⟩
    exact .mapping distinct inner

@[simp]
theorem isTree_null : IsTree .null :=
  .plain rfl

@[simp]
theorem isTree_flag (flag : Bool) : IsTree (.flag flag) :=
  .plain rfl

@[simp]
theorem isTree_text (text : String) : IsTree (.text text) :=
  .plain rfl

@[simp]
theorem isTree_list (items : List Value) : IsTree (.list items) :=
  .plain rfl

theorem IsTree.nodup_keys (isTree : IsTree (.mapping entries)) : (Mapping.keys entries).Nodup :=
  (isTree_mapping_iff.mp isTree).1

theorem IsTree.under (isTree : IsTree (.mapping entries))
    (found : underSame? key entries = some value) : IsTree value := by
  obtain ⟨known, isEntry⟩ := Mapping.mem_of_underSame? found
  exact (isTree_mapping_iff.mp isTree).2 _ isEntry

/-! ## Paths -/

/-- What stands at a path, if every key on the way is one of a section. -/
def at? : Value → List Key → Option Value
  | value, [] => some value
  | .mapping entries, key :: rest => (underSame? key entries).bind fun value => at? value rest
  | _, _ :: _ => none

/-- A path leads through a value of a tree that is no section. -/
def Ends (tree : Value) (way : List Key) : Prop :=
  ∃ front back value, way = front ++ back ∧ back ≠ [] ∧ tree.at? front = some value ∧
    value.entries? = none

theorem at?_cons (entries : Mapping) (key : Key) (rest : List Key) :
    at? (.mapping entries) (key :: rest) =
      (underSame? key entries).bind fun value => at? value rest := by
  rw [at?]

theorem at?_plain (plain : value.entries? = none) (more : way ≠ []) : at? value way = none := by
  obtain ⟨key, rest, rfl⟩ := List.exists_cons_of_ne_nil more
  cases value with
  | mapping entries => cases plain
  | _ => rfl

theorem at?_append (value : Value) (front back : List Key) :
    at? value (front ++ back) = (at? value front).bind fun inner => at? inner back := by
  induction front generalizing value with
  | nil => rfl
  | cons key rest ih =>
    cases value with
    | mapping entries =>
      rw [List.cons_append, at?_cons, at?_cons]
      cases underSame? key entries with
      | none => rfl
      | some inner => exact ih inner
    | _ => rfl

/-- A path that is open in one value of a section is open behind its key. -/
theorem not_ends_of_not_ends_cons {rest : List Key} (found : underSame? key entries = some value)
    (isOpen : ¬Ends (.mapping entries) (key :: rest)) : ¬Ends value rest := by
  rintro ⟨front, back, plain, rfl, more, stands, isPlain⟩
  refine isOpen ⟨key :: front, back, plain, rfl, more, ?_, isPlain⟩
  rw [at?_cons, found, Option.bind_some, stands]

end Value

end Checkout
