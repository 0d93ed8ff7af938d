import Checkout.Proofs.Offer.Registered

/-!
# The shared list of built-in parsers

The built-in parsers stand in a list that all calls of a program share, and whoever knows the place
of a list sees what is added to it there.  Loading the parsers in use copies the shared list, adds
the parsers of extensions to the copy and hands on another new list.  It only ever adds to a list
that it has made itself, so every list that stood somewhere before a call stands there unchanged
after it, and the parsers that are handed on are those of a call of its own.
-/

namespace Checkout.Offer

open Registry (asked combine discover enabled sectionOf)

/-- Lists of parsers, each at its place. -/
structure Shelf where
  lists : List (List Parser)

namespace Shelf

/-- The shelf of a program that has just been started. -/
def initial : Shelf :=
  ⟨[Parser.builtIn]⟩

/-- The place of the built-in parsers. -/
def shared : Nat :=
  0

/-- The list at a place. -/
def listAt (shelf : Shelf) (place : Nat) : List Parser :=
  (shelf.lists[place]?).getD []

/-- The shelf with a list at a new place. -/
def place (shelf : Shelf) (parsers : List Parser) : Nat × Shelf :=
  (shelf.lists.length, ⟨shelf.lists ++ [parsers]⟩)

/-- The shelf with a parser added to the list at a place. -/
def add (shelf : Shelf) (place : Nat) (parser : Parser) : Shelf :=
  ⟨shelf.lists.modify place (· ++ [parser])⟩

/-- Whether a parser of a list goes by a name. -/
def isTaken (parsers : List Parser) (name : Key) : Bool :=
  parsers.any fun parser => parser.name?.bind Value.key? = some name

/-- The shelf with the parsers that were found added to the list at a place, but for those whose
names are taken. -/
def addFound (place : Nat) (taken : Key → Bool) (shelf : Shelf) (found : List (Key × Parser)) :
    Shelf :=
  found.foldl (fun shelf entry => if taken entry.1 then shelf else shelf.add place entry.2) shelf

/-- The place of the list of the parsers in use, and the shelf that is left. -/
def load (shelf : Shelf) (extensions : List Extension) (settings : Mapping) :
    Except Fault Nat × Shelf :=
  match sectionOf settings with
  | .error fault => (.error fault, shelf)
  | .ok offers =>
    let (own, copied) := shelf.place (shelf.listAt shared)
    match (discover (asked offers extensions)).outcome with
    | .error fault => (.error fault, copied)
    | .ok found =>
      let filled := addFound own (isTaken (copied.listAt own)) copied found
      match enabled (Mapping.get? "disabled_parsers" offers) (filled.listAt own) with
      | .error fault => (.error fault, filled)
      | .ok parsers =>
        let (handed, after) := filled.place parsers
        (.ok handed, after)

/-! ## Lists at new places -/

@[simp]
theorem listAt_last (front : List (List Parser)) (parsers : List Parser) :
    listAt ⟨front ++ [parsers]⟩ front.length = parsers := by
  simp [listAt]

theorem add_last (front : List (List Parser)) (parsers : List Parser) (parser : Parser) :
    add ⟨front ++ [parsers]⟩ front.length parser = ⟨front ++ [parsers ++ [parser]]⟩ := by
  simp [add, List.modify_eq_take_drop]

/-- Only the last list grows. -/
theorem addFound_last (front : List (List Parser)) (parsers : List Parser) (taken : Key → Bool)
    (found : List (Key × Parser)) :
    addFound front.length taken ⟨front ++ [parsers]⟩ found =
      ⟨front ++ [parsers ++ (found.filter fun entry => !taken entry.1).map Prod.snd]⟩ := by
  induction found generalizing parsers with
  | nil => simp [addFound]
  | cons entry rest ih =>
    rw [addFound, List.foldl_cons, ← addFound]
    by_cases isTaken : taken entry.1 = true
    · rw [if_pos isTaken, ih, List.filter_cons_of_neg (by simp [isTaken])]
    · rw [if_neg isTaken, add_last, ih, List.filter_cons_of_pos (by simp [isTaken]),
        List.map_cons, List.append_assoc, List.singleton_append]

/-! ## One call -/

variable {shelf : Shelf}

/-- What stands on a shelf before a call stands there after it. -/
theorem lists_prefix_load (shelf : Shelf) (extensions : List Extension) (settings : Mapping) :
    shelf.lists <+: (shelf.load extensions settings).2.lists := by
  unfold load
  split
  · exact List.prefix_refl _
  · simp only [place, listAt_last]
    split
    · exact List.prefix_append _ _
    · simp only [addFound_last]
      split
      · exact List.prefix_append _ _
      · rw [List.append_assoc]
        exact List.prefix_append _ _

/-- The list that a call hands on holds the parsers in use. -/
theorem listAt_load (standing : shelf.listAt shared = Parser.builtIn)
    (extensions : List Extension) (settings : Mapping) :
    (shelf.load extensions settings).1.map (shelf.load extensions settings).2.listAt =
      (Registry.load extensions settings).outcome := by
  have combined (found : List (Key × Parser)) : Parser.builtIn ++
      (found.filter fun entry => !isTaken Parser.builtIn entry.1).map Prod.snd =
        combine found := rfl
  cases isSection : sectionOf settings with
  | error fault => simp [load, Registry.load, isSection, Except.map]
  | ok offers =>
    rw [Registry.outcome_load isSection]
    simp only [load, isSection, place, listAt_last, addFound_last, standing, combined]
    cases (discover (asked offers extensions)).outcome with
    | error fault => rfl
    | ok found =>
      dsimp only [bind_ok]
      cases enabled (Mapping.get? "disabled_parsers" offers) (combine found) with
      | error fault => rfl
      | ok parsers => exact congrArg Except.ok (listAt_last _ parsers)

/-! ## Any calls -/

/-- The shelf after some calls. -/
def after (calls : List (List Extension × Mapping)) : Shelf :=
  calls.foldl (fun shelf call => (shelf.load call.1 call.2).2) initial

theorem listAt_of_prefix {before : List (List Parser)} (kept : before <+: shelf.lists)
    {place : Nat} (inside : place < before.length) :
    shelf.listAt place = listAt ⟨before⟩ place := by
  obtain ⟨new, whole⟩ := kept
  rw [listAt, listAt, ← whole, List.getElem?_append_left inside]

theorem initial_prefix_after (calls : List (List Extension × Mapping)) :
    initial.lists <+: (after calls).lists := by
  induction calls using List.reverseRecOn with
  | nil => exact List.prefix_refl _
  | append_singleton calls call ih =>
    rw [after, List.foldl_append]
    exact ih.trans (lists_prefix_load _ call.1 call.2)

/-- The shared list holds the built-in parsers after any calls. -/
theorem listAt_shared_after (calls : List (List Extension × Mapping)) :
    (after calls).listAt shared = Parser.builtIn :=
  listAt_of_prefix (initial_prefix_after calls) Nat.zero_lt_one

end Shelf

/-! ## The parsers in use -/

namespace Registry

/-- Whatever extensions are installed, loading ends with the built-in parsers and the newest of
each other name that was brought, less the disabled ones.  Extensions that bring no parser make no
difference, and neither do calls before: the shared list of built-in parsers is the same after any
calls, and a further call hands on the same parsers. -/
theorem load_inUse {extensions : List Extension} {settings offers : Mapping}
    {disabled : List String} (orderly : ∀ extension ∈ extensions, extension.IsOrderly)
    (isSection : sectionOf settings = .ok offers)
    (lists : Lists (Mapping.get? "disabled_parsers" offers) disabled) :
    ∃ parsers, (load extensions settings).outcome = .ok parsers ∧
      InUse (brought (asked offers extensions)) disabled parsers ∧
      (load (bringing extensions) settings).outcome = .ok parsers ∧
      ∀ calls, (Shelf.after calls).listAt Shelf.shared = Parser.builtIn ∧
        ((Shelf.after calls).load extensions settings).1.map
          ((Shelf.after calls).load extensions settings).2.listAt = .ok parsers := by
  have loaded := outcome_load_of_lists orderly isSection lists
  refine ⟨_, loaded, inUse_candidates _ disabled, ?_, ?_⟩
  · rw [outcome_load_bringing orderly isSection lists, loaded]
  · intro calls
    have standing := Shelf.listAt_shared_after calls
    refine ⟨standing, ?_⟩
    rw [Shelf.listAt_load standing, loaded]

/-- A parser of some kind that accepts no line. -/
def idle (name kind : String) : CustomParser where
  name? := some (.text name)
  kind := kind
  parse _ _ := .ok none

/-- The object that such a parser is. -/
def idleObject (name kind : String) : Extension.Object where
  name? := some (.text name)
  kind := kind
  parse? := some fun _ _ => .ok none

/-- Extensions that bring a parser twice, take the name of a built-in one, or bring none: one can
not be loaded, and one reads no lines. -/
def stallExtensions : List Extension :=
  [⟨"free", .kind (some (idleObject "free" "First"))⟩,
   ⟨"broken", .missing "no module"⟩,
   ⟨"bulk", .object (idleObject "bulk" "Bulk")⟩,
   ⟨"shadow", .object (idleObject "bundle" "Shadow")⟩,
   ⟨"junk", .object ⟨some (.text "junk"), "Junk", none⟩⟩,
   ⟨"again", .kind (some (idleObject "free" "Second"))⟩]

theorem isOrderly_idleObject {extension : Extension} {name kind : String}
    (gives : extension.target.object? = some (idleObject name kind)) : extension.IsOrderly :=
  .object gives fun _ _ isName _ => ⟨name, (Option.some.inj isName).symm⟩

/-- The offers section of settings that disable a built-in parser. -/
def stallOffers : Mapping :=
  [("disabled_parsers", .list [.text "bundle"])]

/-- The name that was brought twice keeps its place and has the second parser, and the disabled name
is not taken by the extension. -/
theorem load_inUse_stall :
    (∀ extension ∈ stallExtensions, extension.IsOrderly) ∧
      Lists (Mapping.get? "disabled_parsers" stallOffers) ["bundle"] ∧
      (load stallExtensions [("offers", .mapping stallOffers)]).outcome =
        .ok [.discount, .custom (idle "free" "Second"), .custom (idle "bulk" "Bulk")] ∧
      InUse (brought stallExtensions) ["bundle"]
        [.discount, .custom (idle "free" "Second"), .custom (idle "bulk" "Bulk")] ∧
      ∀ calls, (Shelf.after calls).listAt Shelf.shared = Parser.builtIn := by
  have orderly : ∀ extension ∈ stallExtensions, extension.IsOrderly := by
    simp only [stallExtensions, List.forall_mem_cons]
    refine ⟨isOrderly_idleObject rfl, .missing rfl, isOrderly_idleObject rfl,
      isOrderly_idleObject rfl, .object rfl ?_, isOrderly_idleObject rfl, nofun⟩
    intro name parse _ reads
    cases reads
  have lists : Lists (Mapping.get? "disabled_parsers" stallOffers) ["bundle"] := .names ["bundle"]
  have isSection : sectionOf [("offers", .mapping stallOffers)] = .ok stallOffers := rfl
  obtain ⟨parsers, loaded, inUse, _, calls⟩ := load_inUse orderly isSection lists
  have computed : (load stallExtensions [("offers", .mapping stallOffers)]).outcome =
      .ok [.discount, .custom (idle "free" "Second"), .custom (idle "bulk" "Bulk")] := rfl
  have same := Except.ok.inj (loaded.symm.trans computed)
  subst same
  exact ⟨orderly, lists, computed, inUse, fun before => (calls before).1⟩

end Registry

end Checkout.Offer
