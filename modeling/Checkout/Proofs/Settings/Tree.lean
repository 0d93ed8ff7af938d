import Checkout.Settings.Tree

/-!
# Reading back what was written into settings

A value that is written at a path is read there again, every path that leads to it leads to a
section, and at a path that parts from the written one everything is as before.  All three hold for
every tree: where something else than a section stands on the way, writing puts an empty section in
its place, and nothing could be read behind it before either.
-/

namespace Checkout.Settings

variable {way other : List String} {value : Value} {tree : Mapping}

/-- Neither of two paths leads on from the other. -/
structure Apart (way other : List String) : Prop where
  not_prefix : ¬way <+: other
  not_extension : ¬other <+: way

instance (way other : List String) : Decidable (Apart way other) :=
  decidable_of_iff (¬way <+: other ∧ ¬other <+: way)
    ⟨fun both => ⟨both.1, both.2⟩, fun apart => ⟨apart.1, apart.2⟩⟩

theorem Apart.ne (apart : Apart way other) : way ≠ other := by
  rintro rfl
  exact apart.not_prefix (List.prefix_refl way)

/-- Paths that begin with the same key are apart behind it. -/
theorem apart_cons_iff {key : String} : Apart (key :: way) (key :: other) ↔ Apart way other := by
  constructor
  · rintro ⟨notPrefix, notExtension⟩
    exact ⟨fun leads => notPrefix ((List.prefix_cons_inj key).mpr leads),
      fun leads => notExtension ((List.prefix_cons_inj key).mpr leads)⟩
  · rintro ⟨notPrefix, notExtension⟩
    exact ⟨fun leads => notPrefix ((List.prefix_cons_inj key).mp leads),
      fun leads => notExtension ((List.prefix_cons_inj key).mp leads)⟩

/-! ## One key -/

@[simp]
theorem lookup_empty (way : List String) : lookup way [] = none := by
  rcases way with _ | ⟨key, _ | ⟨next, rest⟩⟩ <;> rfl

/-- What is looked up behind a key is looked up in the section under it. -/
theorem lookup_cons_cons (key next : String) (rest : List String) (tree : Mapping) :
    lookup (key :: next :: rest) tree = lookup (next :: rest) (sectionAt key tree) := by
  rw [lookup, sectionAt]
  split <;> simp

@[simp]
theorem sectionAt_put (key : String) (inner tree : Mapping) :
    sectionAt key (Mapping.put key (.mapping inner) tree) = inner := by
  simp [sectionAt]

/-- A path that begins with another key leads to the same. -/
theorem lookup_put_of_ne {key first : String} (different : key ≠ first) (rest : List String) :
    lookup (first :: rest) (Mapping.put key value tree) = lookup (first :: rest) tree := by
  cases rest with
  | nil => simp [lookup, different]
  | cons next rest => simp [lookup, different]

/-! ## Paths -/

/-- What is written at a path is read there, but nothing is as good as no value. -/
theorem lookup_set (named : way ≠ []) (value : Value) (tree : Mapping) :
    lookup way (set way value tree) = if value.isNull then none else some value := by
  induction way generalizing tree with
  | nil => exact absurd rfl named
  | cons key rest ih =>
    cases rest with
    | nil => cases value <;> simp [lookup, set, Value.isNull]
    | cons next rest =>
      rw [set, lookup_cons_cons, sectionAt_put]
      exact ih (List.cons_ne_nil next rest) _

/-- Writing at a path changes nothing at a path that is apart from it. -/
theorem lookup_set_of_apart (apart : Apart way other) (value : Value) (tree : Mapping) :
    lookup other (set way value tree) = lookup other tree := by
  induction way generalizing other tree with
  | nil => exact absurd List.nil_prefix apart.not_prefix
  | cons key rest ih =>
    cases other with
    | nil => exact absurd List.nil_prefix apart.not_extension
    | cons first others =>
      by_cases same : key = first
      · -- Both paths go on in the section under the key, and part there.
        subst same
        have apartBehind := apart_cons_iff.mp apart
        cases rest with
        | nil => exact absurd List.nil_prefix apartBehind.not_prefix
        | cons next rest =>
          cases others with
          | nil => exact absurd List.nil_prefix apartBehind.not_extension
          | cons after others =>
            rw [set, lookup_cons_cons, sectionAt_put, ih apartBehind, ← lookup_cons_cons]
      · cases rest with
        | nil => exact lookup_put_of_ne same others
        | cons next rest => exact lookup_put_of_ne same others

/-! ## The way to a path -/

/-- The section at the end of a path; there is an empty one where the path leads to something else
or to nothing. -/
def sectionBehind (way : List String) (tree : Mapping) : Mapping :=
  way.foldl (fun tree key => sectionAt key tree) tree

/-- On the way to a written path stand the sections that stood there, with the value written into
them. -/
theorem lookup_set_append {front back : List String} (started : front ≠ []) (more : back ≠ [])
    (value : Value) (tree : Mapping) :
    lookup front (set (front ++ back) value tree) =
      some (.mapping (set back value (sectionBehind front tree))) := by
  induction front generalizing tree with
  | nil => exact absurd rfl started
  | cons key rest ih =>
    cases rest with
    | nil =>
      obtain ⟨next, others, rfl⟩ := List.exists_cons_of_ne_nil more
      simp [set, lookup, sectionBehind]
    | cons next rest =>
      rw [List.cons_append, List.cons_append, set, lookup_cons_cons, sectionAt_put,
        ← List.cons_append, ih (List.cons_ne_nil next rest)]
      rfl

/-! ## Dotted names -/

theorem path_ne_nil (name : String) : path name ≠ [] :=
  fun none => Text.splitAt_ne_nil '.' name.toList (List.map_eq_nil_iff.mp none)

theorem get_put (tree : Mapping) (name : String) (value default : Value) :
    get (put tree name value) name default = if value.isNull then default else value := by
  rw [get, put, lookup_set (path_ne_nil name)]
  split <;> rfl

theorem get_put_of_apart {name read : String} (apart : Apart (path name) (path read))
    (tree : Mapping) (value default : Value) :
    get (put tree name value) read default = get tree read default := by
  rw [get, put, lookup_set_of_apart apart, get]

/-- A name with only the first of the keys of a written one leads to a section. -/
theorem exists_get_put_of_prefix {name shorter : String} (leads : path shorter <+: path name)
    (proper : path shorter ≠ path name) (tree : Mapping) (value : Value) :
    ∃ inner, ∀ default, get (put tree name value) shorter default = .mapping inner := by
  obtain ⟨back, whole⟩ := leads
  have more : back ≠ [] := by
    rintro rfl
    exact proper (by rw [← whole, List.append_nil])
  refine ⟨set back value (sectionBehind (path shorter) tree), fun default => ?_⟩
  rw [get, put, ← whole, lookup_set_append (path_ne_nil shorter) more, Option.getD_some]

/-- Whatever stands in a tree, a value that is written under a dotted name is read there, but
nothing is as good as no value; every name with only the first of its keys leads to a section; and
what is read under a name that parts from it is what was read before. -/
theorem get_put_laws (tree : Mapping) (name : String) (value : Value) :
    (∀ default, get (put tree name value) name default =
        if value.isNull then default else value) ∧
      (∀ shorter, path shorter <+: path name → path shorter ≠ path name →
        ∃ inner, ∀ default, get (put tree name value) shorter default = .mapping inner) ∧
      ∀ other, Apart (path name) (path other) → ∀ default,
        get (put tree name value) other default = get tree other default := by
  refine ⟨get_put tree name value, ?_, ?_⟩
  · exact fun shorter leads proper => exists_get_put_of_prefix leads proper tree value
  · exact fun other apart => get_put_of_apart apart tree value

/-- False is written behind a text and an empty key, and what was beside the text stays. -/
theorem get_put_laws_scalar :
    let tree : Mapping := [("data", .mapping [("dir", .text "."), ("list", .null)])]
    get (put tree "data.dir..on" (.flag false)) "data.dir..on" (.whole 1) = .flag false ∧
      path "data.dir." <+: path "data.dir..on" ∧ path "data.dir." ≠ path "data.dir..on" ∧
      (∃ inner, ∀ default,
        get (put tree "data.dir..on" (.flag false)) "data.dir." default = .mapping inner) ∧
      Apart (path "data.dir..on") (path "data.list") ∧
      get (put tree "data.dir..on" (.flag false)) "data.list" (.whole 2) = .whole 2 := by
  intro tree
  obtain ⟨reads, sections, keeps⟩ := get_put_laws tree "data.dir..on" (.flag false)
  have leads : path "data.dir." <+: path "data.dir..on" := by decide
  have proper : path "data.dir." ≠ path "data.dir..on" := by decide
  have apart : Apart (path "data.dir..on") (path "data.list") := by decide
  exact ⟨reads _, leads, proper, sections _ leads proper, apart, keeps _ apart _⟩

end Checkout.Settings
