import Checkout.Proofs.Mapping
import Checkout.Settings.Basic

/-!
# Trees put over trees

What stands in an overlay of two trees is told path by path.  A value of the upper tree hides what
lies below it, whether that is a value or a whole section; sections on both sides are overlaid in
turn; and where the upper tree says nothing the lower one is seen.  Nothing else is lost.

A tree that already lies over another changes nothing when it is put over it once more, so the
settings that are handed on give the same settings again.
-/

namespace Checkout

open Value (underSame?)

namespace Settings

open Value (at? at?_cons at?_plain at?_append not_ends_of_not_ends_cons)

variable {below above : Mapping} {lower : Option Value} {upper value : Value} {way : List Key}

/-- A value that is no section is not overlaid. -/
theorem overlayValue_of_plain (plain : upper.entries? = none) (lower : Option Value) :
    overlayValue lower upper = upper := by
  cases upper with
  | mapping above => cases plain
  | _ => rfl

/-- Nothing is overlaid where there is no section below. -/
theorem overlayValue_over_plain (plain : lower.bind Value.entries? = none) (upper : Value) :
    overlayValue lower upper = upper := by
  cases upper with
  | mapping above =>
    rw [overlayValue]
    rintro inner rfl
    cases plain
  | _ => rfl

theorem overlayValue_mapping (below above : Mapping) :
    overlayValue (some (.mapping below)) (.mapping above) = .mapping (overlay below above) := by
  rw [overlayValue]

theorem overlay_cons (below : Mapping) (key : Key) (value : Value) (rest : Mapping) :
    overlay below ((key, value) :: rest) =
      overlay (Mapping.putKey key (overlayValue (underSame? key below) value) below) rest := by
  rw [overlay]

/-- Under a key stands what the upper mapping has there, put over what the lower one has. -/
theorem underSame?_overlay (distinct : (Mapping.keys above).Nodup) (key : Key)
    (below : Mapping) :
    underSame? key (overlay below above) =
      match underSame? key above with
      | some value => some (overlayValue (underSame? key below) value)
      | none => underSame? key below := by
  induction above generalizing below with
  | nil => rw [overlay]; rfl
  | cons entry rest ih =>
    obtain ⟨known, value⟩ := entry
    rw [Mapping.keys_cons, List.nodup_cons] at distinct
    rw [overlay_cons, ih distinct.2, Mapping.underSame?_cons]
    by_cases same : known.canonical = key.canonical
    · have absent : underSame? key rest = none :=
        Mapping.underSame?_eq_none_iff.mpr (same ▸ distinct.1)
      rw [absent, if_pos same]
      dsimp only
      rw [Mapping.underSame?_putKey, if_pos same, Mapping.underSame?_congr same]
    · rw [if_neg same, Mapping.underSame?_putKey, if_neg same]

/-! ## What stands at a path -/

/-- Below an upper value stands a section, or nothing that could be overlaid. -/
theorem plain_or_mapping (lower : Option Value) :
    lower.bind Value.entries? = none ∨ ∃ below, lower = some (.mapping below) := by
  cases lower with
  | none => exact .inl rfl
  | some under =>
    cases under with
    | mapping below => exact .inr ⟨below, rfl⟩
    | _ => exact .inl rfl

theorem bind_at?_of_plain (plain : lower.bind Value.entries? = none) (more : way ≠ []) :
    (lower.bind fun under => at? under way) = none := by
  cases lower with
  | none => rfl
  | some under => exact at?_plain plain more

/-- What the upper value has at a path is put over what the lower one has there. -/
theorem at?_overlayValue_of_some (isTree : upper.IsTree) (stands : at? upper way = some value) :
    at? (overlayValue lower upper) way =
      some (overlayValue (lower.bind fun under => at? under way) value) := by
  induction way generalizing lower upper with
  | nil =>
    cases stands
    cases lower <;> rfl
  | cons key rest ih =>
    cases upper with
    | mapping above =>
      rw [at?_cons] at stands
      obtain ⟨next, found, standsBehind⟩ := Option.bind_eq_some_iff.mp stands
      rcases plain_or_mapping lower with plain | ⟨below, rfl⟩
      · rw [overlayValue_over_plain plain, bind_at?_of_plain plain (List.cons_ne_nil key rest),
          overlayValue_over_plain rfl, at?_cons, found]
        exact standsBehind
      · rw [overlayValue_mapping, at?_cons, underSame?_overlay isTree.nodup_keys, found]
        dsimp only [Option.bind_some]
        rw [ih (isTree.under found) standsBehind, at?_cons]
    | _ => cases stands

/-- Where the upper value has nothing at a path and no value in its way, the lower one is seen. -/
theorem at?_overlayValue_of_none (isTree : upper.IsTree) (nothing : at? upper way = none)
    (isOpen : ¬upper.Ends way) :
    at? (overlayValue lower upper) way = lower.bind fun under => at? under way := by
  induction way generalizing lower upper with
  | nil => cases nothing
  | cons key rest ih =>
    cases upper with
    | mapping above =>
      rcases plain_or_mapping lower with plain | ⟨below, rfl⟩
      · rw [overlayValue_over_plain plain, nothing,
          bind_at?_of_plain plain (List.cons_ne_nil key rest)]
      · rw [overlayValue_mapping, at?_cons, underSame?_overlay isTree.nodup_keys,
          Option.bind_some, at?_cons]
        rw [at?_cons] at nothing
        cases found : underSame? key above with
        | none => rfl
        | some next =>
          rw [found, Option.bind_some] at nothing
          dsimp only [Option.bind_some]
          exact ih (isTree.under found) nothing (not_ends_of_not_ends_cons found isOpen)
    | _ => exact absurd ⟨[], key :: rest, _, rfl, List.cons_ne_nil key rest, rfl, rfl⟩ isOpen

/-- A value in the way hides everything behind it. -/
theorem at?_overlayValue_of_ends (isTree : upper.IsTree) (ends : upper.Ends way) :
    at? (overlayValue lower upper) way = none := by
  obtain ⟨front, back, plain, rfl, more, stands, isPlain⟩ := ends
  rw [at?_append, at?_overlayValue_of_some isTree stands, overlayValue_of_plain isPlain]
  exact at?_plain isPlain more

/-! ## A tree that already lies over another -/

/-- An entry whose key leads a mapping, or is put into an empty one, becomes its first. -/
theorem putKey_of_leads {key : Key} {keys : List Key}
    (leads : below.map Prod.fst <+: key :: keys) (value : Value) :
    Mapping.putKey key value below = (key, value) :: below.tail := by
  cases below with
  | nil => rfl
  | cons lower others =>
    obtain ⟨rfl, _⟩ := List.cons_prefix_cons.mp leads
    rw [Mapping.putKey_cons, if_pos rfl, List.tail_cons]

/-- The first entry of a mapping is not seen under another key. -/
theorem underSame?_tail_of_leads {key other : Key} {keys : List Key}
    (leads : below.map Prod.fst <+: key :: keys) (different : key.canonical ≠ other.canonical) :
    underSame? other below.tail = underSame? other below := by
  cases below with
  | nil => rfl
  | cons lower others =>
    obtain ⟨rfl, _⟩ := List.cons_prefix_cons.mp leads
    rw [Mapping.underSame?_cons, if_neg different, List.tail_cons]

/-- Entries that lie over a mapping already replace what stands there, one after another, and the
others follow.  The induction is on the upper entries; those in front have been replaced. -/
theorem overlay_of_absorbed {front below above : Mapping}
    (distinct : (Mapping.keys (front ++ above)).Nodup)
    (leads : below.map Prod.fst <+: above.map Prod.fst)
    (settled : ∀ entry ∈ above, overlayValue (underSame? entry.1 below) entry.2 = entry.2) :
    overlay (front ++ below) above = front ++ above := by
  induction above generalizing front below with
  | nil =>
    have none : below = [] := List.map_eq_nil_iff.mp (List.prefix_nil.mp leads)
    rw [none, overlay]
  | cons entry rest ih =>
    obtain ⟨key, value⟩ := entry
    have moved (entries : Mapping) :
        front ++ (key, value) :: entries = front ++ [(key, value)] ++ entries := by simp
    have isNew : key.canonical ∉ Mapping.keys front := by
      rw [Mapping.keys_append, List.nodup_append] at distinct
      exact fun known => distinct.2.2 _ known _ List.mem_cons_self rfl
    have onlyFirst : ∀ other ∈ rest, key.canonical ≠ other.1.canonical := by
      rw [Mapping.keys_append, Mapping.keys_cons] at distinct
      intro other isOther same
      exact (List.nodup_cons.mp distinct.of_append_right).1 (same ▸ List.mem_map_of_mem isOther)
    rw [overlay_cons, Mapping.underSame?_append isNew, settled _ List.mem_cons_self,
      Mapping.putKey_append isNew, putKey_of_leads leads, moved below.tail, moved rest]
    refine ih (moved rest ▸ distinct) ?leads ?settled
    case leads =>
      simpa only [List.drop_one, List.map_tail, List.map_cons, List.tail_cons] using leads.drop 1
    case settled =>
      intro other isOther
      rw [underSame?_tail_of_leads leads (onlyFirst other isOther)]
      exact settled other (List.mem_cons_of_mem _ isOther)

theorem map_fst_prefix_overlay (below above : Mapping) :
    below.map Prod.fst <+: (overlay below above).map Prod.fst := by
  induction above generalizing below with
  | nil => rw [overlay]
  | cons entry rest ih =>
    rw [overlay_cons]
    exact (Mapping.map_fst_prefix_putKey _ _ below).trans (ih _)

theorem nodup_keys_overlay (distinct : (Mapping.keys below).Nodup) (above : Mapping) :
    (Mapping.keys (overlay below above)).Nodup := by
  induction above generalizing below with
  | nil => rwa [overlay]
  | cons entry rest ih =>
    rw [overlay_cons]
    exact ih (Mapping.nodup_keys_putKey distinct _ _)

/-- Whether what lies over a value already is not changed when it is put over it once more. -/
def Absorbs (lower : Value) : Prop :=
  ∀ upper : Value, upper.IsTree →
    overlayValue (some lower) (overlayValue (some lower) upper) = overlayValue (some lower) upper

/-- Such a value also lies over itself. -/
theorem Absorbs.overlayValue_self {value : Value} (absorbs : Absorbs value) :
    overlayValue (some value) value = value := by
  cases value with
  | mapping entries =>
    have same := absorbs (.mapping []) (.mapping List.nodup_nil nofun)
    rw [overlayValue_mapping, overlay] at same
    exact same
  | _ => rfl

/-- Every value of an overlay lies over what the lower mapping has under its key. -/
theorem overlayValue_of_mem_overlay (distinct : (Mapping.keys below).Nodup)
    (aboveDistinct : (Mapping.keys above).Nodup) (absorbs : ∀ entry ∈ below, Absorbs entry.2)
    (aboveTrees : ∀ entry ∈ above, entry.2.IsTree) :
    ∀ entry ∈ overlay below above,
      overlayValue (underSame? entry.1 below) entry.2 = entry.2 := by
  rintro ⟨key, value⟩ isEntry
  have found := Mapping.underSame?_of_mem (nodup_keys_overlay distinct above) isEntry
  rw [underSame?_overlay aboveDistinct] at found
  cases under : underSame? key below with
  | none => exact overlayValue_over_plain rfl value
  | some lower =>
    obtain ⟨known, isLower⟩ := Mapping.mem_of_underSame? under
    cases stands : underSame? key above with
    | none =>
      rw [stands, under] at found
      cases found
      exact (absorbs _ isLower).overlayValue_self
    | some upper =>
      obtain ⟨spelled, isUpper⟩ := Mapping.mem_of_underSame? stands
      rw [stands, under] at found
      cases found
      exact absorbs _ isLower upper (aboveTrees _ isUpper)

/-- What lies over a tree already is not changed when it is put over it once more. -/
theorem absorbs_of_isTree {lower : Value} (isTree : lower.IsTree) : Absorbs lower := by
  induction isTree with
  | @plain value plain =>
    intro upper _
    have noSection : (some value).bind Value.entries? = none := plain
    rw [overlayValue_over_plain noSection, overlayValue_over_plain noSection]
  | @mapping below distinct inner ih =>
    intro upper upperIsTree
    cases upperIsTree with
    | plain plain => rw [overlayValue_of_plain plain, overlayValue_of_plain plain]
    | @mapping above aboveDistinct aboveInner =>
      have settled := overlayValue_of_mem_overlay distinct aboveDistinct ih aboveInner
      have absorbed : overlay ([] ++ below) (overlay below above) = [] ++ overlay below above :=
        overlay_of_absorbed (nodup_keys_overlay distinct above)
          (map_fst_prefix_overlay below above) settled
      rw [overlayValue_mapping, overlayValue_mapping]
      exact congrArg Value.mapping absorbed

theorem overlay_overlay (lowerIsTree : Value.IsTree (.mapping below))
    (upperIsTree : Value.IsTree (.mapping above)) :
    overlay below (overlay below above) = overlay below above := by
  have same := absorbs_of_isTree lowerIsTree _ upperIsTree
  rw [overlayValue_mapping, overlayValue_mapping] at same
  exact Value.mapping.inj same

/-! ## The laws of overlays -/

/-- What an overlay of two mappings has at a path. -/
structure OverlaidAt (below above : Mapping) (way : List Key) : Prop where
  /-- A value of the upper mapping that is no section stands there. -/
  of_plain (value : Value) : at? (.mapping above) way = some value → value.entries? = none →
    at? (.mapping (overlay below above)) way = some value
  /-- Of two sections the overlay stands there. -/
  of_sections (lower upper : Mapping) : at? (.mapping below) way = some (.mapping lower) →
    at? (.mapping above) way = some (.mapping upper) →
      at? (.mapping (overlay below above)) way = some (.mapping (overlay lower upper))
  /-- A section of the upper mapping alone stands there as it is. -/
  of_section (upper : Mapping) : at? (.mapping above) way = some (.mapping upper) →
    (∀ lower, at? (.mapping below) way ≠ some (.mapping lower)) →
      at? (.mapping (overlay below above)) way = some (.mapping upper)
  /-- Where the upper mapping says nothing, the lower one is seen, be there something or not. -/
  of_nothing : at? (.mapping above) way = none → ¬Value.Ends (.mapping above) way →
    at? (.mapping (overlay below above)) way = at? (.mapping below) way
  /-- There is nothing behind a value of the upper mapping that is no section. -/
  of_ends : Value.Ends (.mapping above) way → at? (.mapping (overlay below above)) way = none

theorem overlaidAt (isTree : Value.IsTree (.mapping above)) (below : Mapping) (way : List Key) :
    OverlaidAt below above way := by
  have put {value : Value} (stands : at? (.mapping above) way = some value) :
      at? (.mapping (overlay below above)) way =
        some (overlayValue (at? (.mapping below) way) value) := by
    have isAbove : at? (overlayValue (some (.mapping below)) (.mapping above)) way =
        some (overlayValue (at? (.mapping below) way) value) :=
      at?_overlayValue_of_some isTree stands
    rwa [overlayValue_mapping] at isAbove
  constructor
  case of_plain =>
    intro value stands plain
    rw [put stands, overlayValue_of_plain plain]
  case of_sections =>
    intro lower upper under isAbove
    rw [put isAbove, under, overlayValue_mapping]
  case of_section =>
    intro upper isAbove noSection
    have plain : (at? (.mapping below) way).bind Value.entries? = none := by
      rcases plain_or_mapping (at? (.mapping below) way) with plain | ⟨lower, under⟩
      · exact plain
      · exact absurd under (noSection lower)
    rw [put isAbove, overlayValue_over_plain plain]
  case of_nothing =>
    intro nothing isOpen
    have seen : at? (overlayValue (some (.mapping below)) (.mapping above)) way =
        at? (.mapping below) way := at?_overlayValue_of_none isTree nothing isOpen
    rwa [overlayValue_mapping] at seen
  case of_ends =>
    intro ends
    have hidden : at? (overlayValue (some (.mapping below)) (.mapping above)) way = none :=
      at?_overlayValue_of_ends isTree ends
    rwa [overlayValue_mapping] at hidden

theorem isTree_defaults : Value.IsTree (.mapping defaults) := by
  simp [defaults, Mapping.keys, Key.canonical]

/-- The settings that are handed on give the same settings again. -/
theorem copy_ofTree_copy (isTree : Value.IsTree (.mapping above)) :
    ((copy (ofTree above).tree).bind fun handed => copy (ofTree handed).tree) =
      copy (ofTree above).tree := by
  have again : (ofTree (ofTree above).tree).tree = (ofTree above).tree :=
    overlay_overlay isTree_defaults isTree
  by_cases shallow : (Value.mapping (ofTree above).tree).depth ≤ deepest
  · have handed : copy (ofTree above).tree = .ok (ofTree above).tree := if_pos shallow
    rw [handed, bind_ok, again, handed]
  · have tooDeep : copy (ofTree above).tree = .error .tooDeep := if_neg shallow
    rw [tooDeep, bind_error]

/-- A tree that is put over another leaves at every path what its own value there hides or lets
through, and the settings that come of it do not change when they are handed on. -/
theorem overlay_laws {above : Mapping} (isTree : Value.IsTree (.mapping above)) :
    (∀ below way, OverlaidAt below above way) ∧
      ((copy (ofTree above).tree).bind fun handed => copy (ofTree handed).tree) =
        copy (ofTree above).tree :=
  ⟨overlaidAt isTree, copy_ofTree_copy isTree⟩

/-- A truth value is the same key as the number that it counts as, and keeps its spelling. -/
example : overlay [(.whole 1, .text "one")] [(.flag true, .text "yes")] =
    [(.whole 1, .text "yes")] :=
  rfl

/-- Settings with a text where the section of data belongs, a section where a text belongs, and
some of a section. -/
def standTree : Mapping :=
  [("data", .text "stand"),
   ("report", .mapping [("currency_symbol", .mapping [("left", .text "$")]), ("width", .null)])]

/-- The text hides the folder, the section replaces the symbol, and the suffix beside it stays. -/
theorem overlay_laws_stand :
    Value.IsTree (.mapping standTree) ∧
      at? (.mapping (overlay defaults standTree)) ["data", "dir"] = none ∧
      at? (.mapping (overlay defaults standTree)) ["report", "currency_symbol"] =
        some (.mapping [("left", .text "$")]) ∧
      at? (.mapping (overlay defaults standTree)) ["report", "minor_unit_suffix"] =
        some (.text "p") ∧
      ((copy (ofTree standTree).tree).bind fun handed => copy (ofTree handed).tree) =
        copy (ofTree standTree).tree := by
  have isTree : Value.IsTree (.mapping standTree) := by
    simp [standTree, Mapping.keys, Key.canonical]
  obtain ⟨laws, handedOn⟩ := overlay_laws isTree
  refine ⟨isTree, ?_, ?_, ?_, handedOn⟩
  · exact (laws defaults _).of_ends
      ⟨["data"], ["dir"], .text "stand", rfl, List.cons_ne_nil _ _, rfl, rfl⟩
  · refine (laws defaults _).of_section _ rfl ?_
    intro lower isSection
    cases isSection
  · rw [(laws defaults _).of_nothing rfl]
    · rfl
    · rintro ⟨front, back, value, whole, more, stands, plain⟩
      rcases front with _ | ⟨first, _ | ⟨second, rest⟩⟩
      · cases stands
        cases plain
      · cases whole
        cases stands
        cases plain
      · simp at whole
        exact more whole.2.2.2

end Settings

end Checkout
