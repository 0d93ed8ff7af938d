import Checkout.Offer.Registry
import Checkout.Proofs.Entries
import Checkout.Proofs.Mapping

/-!
# Parsers in use

Whatever extensions are installed, the parsers in use are the built-in ones and then one for each
name that some extension brings, less the names that are disabled.  A name stands where it was
brought first and is that of the parser that was brought last; a built-in name is never taken, be it
disabled or not.  Extensions that bring nothing make no difference.
-/

namespace Checkout

/-- The text that the parser goes by, if it goes by one. -/
def Parser.text? (parser : Parser) : Option String :=
  parser.name?.bind Value.text?

/-- The names of the built-in parsers. -/
def Parser.builtInNames : List String :=
  builtIn.filterMap text?

namespace Offer

/-! ## What extensions bring -/

namespace Extension

/-- The object that a target gives, if it gives one. -/
def Target.object? : Target → Option Object
  | .kind made? => made?
  | .object ready => some ready
  | _ => none

/-- The parser that an object is, with its name, if it goes by a text and reads lines. -/
def Object.parser? : Object → Option (String × CustomParser)
  | ⟨some (.text name), kind, some parse⟩ => some (name, ⟨some (.text name), kind, parse⟩)
  | _ => none

/-- The parser that an extension brings, with its name. -/
def brought? (extension : Extension) : Option (String × CustomParser) :=
  extension.target.object?.bind Object.parser?

/-- An extension can not be loaded because something is missing, or it gives an object, be it made
or ready.  If the object has a name and reads lines, the name is a text. -/
inductive IsOrderly (extension : Extension) : Prop
  | missing {reason : String} : extension.target = .missing reason → IsOrderly extension
  | object {object : Object} : extension.target.object? = some object →
      (∀ name parse, object.name? = some name → object.parse? = some parse →
        ∃ text, name = .text text) →
      IsOrderly extension

theorem Target.content_of_object? {target : Target} {object : Object}
    (gives : target.object? = some object) : target.content = object.content := by
  cases target with
  | missing reason => cases gives
  | failing => cases gives
  | kind made? =>
    cases gives
    rfl
  | object other =>
    cases gives
    rfl

/-- An orderly extension is left out, or it brings a parser that goes by a text. -/
theorem IsOrderly.content {extension : Extension} (orderly : extension.IsOrderly) :
    (extension.brought? = none ∧ ((∃ reason, extension.target.content = .missing reason) ∨
      extension.target.content = .other)) ∨
    ∃ name parser, extension.brought? = some (name, parser) ∧
      extension.target.content = .parser (.text name) parser := by
  cases orderly with
  | missing isMissing =>
    rw [brought?, isMissing]
    exact .inl ⟨rfl, .inl ⟨_, rfl⟩⟩
  | @object object gives named =>
    rw [brought?, gives, Option.bind_some, Target.content_of_object? gives]
    obtain ⟨name?, kind, parse?⟩ := object
    cases name? with
    | none => exact .inl ⟨rfl, .inr rfl⟩
    | some name =>
      cases parse? with
      | none =>
        refine .inl ⟨?_, .inr rfl⟩
        cases name <;> rfl
      | some parse =>
        obtain ⟨text, rfl⟩ := named name parse rfl rfl
        exact .inr ⟨text, _, rfl, rfl⟩

end Extension

namespace Registry

variable {extensions : List Extension} {disabled : List String}

/-- The parsers that extensions bring, with their names. -/
def brought (extensions : List Extension) : List (String × CustomParser) :=
  extensions.filterMap Extension.brought?

/-- Parsers go by the names that they are listed with. -/
def Named (parsers : List (String × Parser)) : Prop :=
  ∀ parser ∈ parsers, parser.2.name? = some (.text parser.1)

theorem named_brought (extensions : List Extension) :
    ∀ parser ∈ brought extensions, parser.2.name? = some (.text parser.1) := by
  intro parser isIn
  obtain ⟨extension, _, brings⟩ := List.mem_filterMap.mp isIn
  obtain ⟨object, _, isParser⟩ := Option.bind_eq_some_iff.mp brings
  unfold Extension.Object.parser? at isParser
  split at isParser
  · cases isParser
    rfl
  · cases isParser

/-- The parsers of extensions are put under their names one after another. -/
theorem outcome_discoverOnto (orderly : ∀ extension ∈ extensions, extension.IsOrderly)
    (found : List (Key × Parser)) :
    (discoverOnto found extensions).outcome =
      .ok (Entries.putAll ((brought extensions).map (Prod.map Key.text Parser.custom)) found) := by
  induction extensions generalizing found with
  | nil => rfl
  | cons extension rest ih =>
    have others := ih fun other isIn => orderly other (List.mem_cons_of_mem _ isIn)
    rcases (orderly extension List.mem_cons_self).content with
      ⟨nothing, ⟨reason, isMissing⟩ | isOther⟩ | ⟨name, parser, brings, isParser⟩
    · rw [brought, List.filterMap_cons_none nothing]
      simp only [discoverOnto, isMissing, Logged.outcome_bind, Logged.outcome_tell, bind_ok]
      exact others found
    · rw [brought, List.filterMap_cons_none nothing]
      simp only [discoverOnto, isOther, Logged.outcome_bind, Logged.outcome_tell, bind_ok]
      exact others found
    · rw [brought, List.filterMap_cons_some brings]
      simp only [discoverOnto, isParser, Value.key?, Logged.outcome_bind, Logged.outcome_tell,
        bind_ok, Key.spelledAs_text]
      exact others _

/-- The parsers that are found, each under its name. -/
theorem outcome_discover (orderly : ∀ extension ∈ extensions, extension.IsOrderly) :
    (discover extensions).outcome =
      .ok ((Entries.ofList (brought extensions)).map (Prod.map Key.text Parser.custom)) := by
  have injective : Function.Injective Key.text := fun _ _ same => Key.text.inj same
  rw [discover, outcome_discoverOnto orderly]
  exact congrArg Except.ok (Entries.putAll_map injective Parser.custom (brought extensions) [])

/-! ## Disabled names -/

/-- A setting lists names; one that counts as absent lists none. -/
inductive Lists : Option Value → List String → Prop
  | absent : Lists none []
  | empty {value : Value} : value.isEmpty = true → Lists (some value) []
  | names (names : List String) : Lists (some (.list (names.map .text))) names

/-- A text is named in a list if it stands there. -/
theorem isNamedBy_list (name : String) (names : List String) :
    isNamedBy (.text name) (.list (names.map .text)) = .ok (decide (name ∈ names)) := by
  rw [isNamedBy, Except.ok.injEq]
  induction names with
  | nil => rfl
  | cons first rest ih =>
    rw [List.map_cons, List.any_cons, ih, Value.same, Bool.eq_iff_iff, Bool.or_eq_true,
      beq_iff_eq, decide_eq_true_iff, decide_eq_true_iff, List.mem_cons, eq_comm]

theorem isDisabled_of_lists {setting : Option Value} (lists : Lists setting disabled)
    (name : String) : isDisabled setting (.text name) = .ok (decide (name ∈ disabled)) := by
  cases lists with
  | absent => rfl
  | empty isEmpty => simp [isDisabled, isEmpty]
  | names =>
    cases disabled with
    | nil => rfl
    | cons first rest => exact isNamedBy_list name (first :: rest)

/-- The parsers that are left are those with other names. -/
theorem enabled_of_named {setting : Option Value} (lists : Lists setting disabled)
    {parsers : List (String × Parser)} (named : Named parsers) :
    enabled setting (parsers.map Prod.snd) =
      .ok ((parsers.filter fun parser => parser.1 ∉ disabled).map Prod.snd) := by
  induction parsers with
  | nil => rfl
  | cons parser rest ih =>
    have label : parser.2.label = .text parser.1 := by
      rw [Parser.label, named parser List.mem_cons_self, Option.getD_some]
    have others := ih fun other isIn => named other (List.mem_cons_of_mem _ isIn)
    simp only [List.map_cons, enabled, label, isDisabled_of_lists lists, others, bind, Except.bind]
    by_cases isOut : parser.1 ∈ disabled
    · simp [isOut]
    · simp [isOut]

/-! ## The parsers in use -/

/-- The built-in parsers with their names. -/
def standing : List (String × Parser) :=
  [("discount", .discount), ("bundle", .bundle)]

/-- The parsers that come into question, with their names: the built-in ones and the newest of each
other name that was brought. -/
def candidates (brought : List (String × CustomParser)) : List (String × Parser) :=
  standing ++ ((Entries.ofList brought).filter fun entry => entry.1 ∉ Parser.builtInNames).map
    (Prod.map id Parser.custom)

theorem isShadowing_text (name : String) :
    isShadowing (.text name) = decide (name ∈ Parser.builtInNames) := by
  simp [isShadowing, Parser.builtInNames, Parser.builtIn, Parser.text?, Parser.name?, Value.text?,
    Value.key?, eq_comm]

theorem combine_eq_candidates (brought : List (String × CustomParser)) :
    combine ((Entries.ofList brought).map (Prod.map Key.text Parser.custom)) =
      (candidates brought).map Prod.snd := by
  simp [combine, candidates, standing, Parser.builtIn, List.filter_map, Function.comp_def,
    isShadowing_text]

theorem named_standing : Named standing := by
  simp [Named, standing, Parser.name?]

theorem map_fst_standing : standing.map Prod.fst = Parser.builtInNames :=
  rfl

theorem mem_brought_of_mem_ofList {brought : List (String × CustomParser)}
    {entry : String × CustomParser} (isEntry : entry ∈ Entries.ofList brought) :
    entry ∈ brought := by
  have found := (Entries.mem_iff_get? (Entries.nodup_ofList brought)).mp isEntry
  obtain ⟨front, back, rfl, _⟩ := Entries.exists_last_of_get?_ofList found
  exact List.mem_append_right front List.mem_cons_self

theorem named_candidates (extensions : List Extension) :
    Named (candidates (brought extensions)) := by
  intro parser isIn
  rcases List.mem_append.mp isIn with isStanding | isAdded
  · exact named_standing parser isStanding
  · obtain ⟨entry, isKept, rfl⟩ := List.mem_map.mp isAdded
    exact named_brought extensions entry (mem_brought_of_mem_ofList (List.mem_of_mem_filter isKept))

/-- No two parsers that come into question have one name. -/
theorem nodup_candidates (brought : List (String × CustomParser)) :
    ((candidates brought).map Prod.fst).Nodup := by
  have newest : ((Entries.ofList brought).filter fun entry =>
      entry.1 ∉ Parser.builtInNames).map Prod.fst =
        ((Entries.ofList brought).map Prod.fst).filter (· ∉ Parser.builtInNames) := by
    rw [List.filter_map]
    rfl
  rw [candidates, List.map_append, List.map_map, map_fst_standing]
  have names : Prod.fst ∘ Prod.map id Parser.custom =
    (Prod.fst : String × CustomParser → String) := rfl
  rw [names, newest, List.nodup_append]
  refine ⟨by decide, (Entries.nodup_ofList brought).filter _, ?_⟩
  rintro name isBuiltIn other isAdded rfl
  have isNew := (List.mem_filter.mp isAdded).2
  exact of_decide_eq_true isNew isBuiltIn

/-- The parser is the last of those that were brought under a name. -/
def IsNewest (brought : List (String × CustomParser)) (name : String) (parser : Parser) : Prop :=
  ∃ front own back, brought = front ++ (name, own) :: back ∧ name ∉ back.map Prod.fst ∧
    parser = .custom own

/-- Parsers are those in use where some parsers were brought and some names are disabled. -/
structure InUse (brought : List (String × CustomParser)) (disabled : List String)
    (parsers : List Parser) : Prop where
  /-- The built-in parsers come first, then the newest parser of each other name in the order in
  which the names were brought first; disabled ones are left out. -/
  shape : ∃ added, parsers =
      (Parser.builtIn.filter fun parser => parser.text? ∉ disabled.map some) ++ added ∧
    List.Forall₂ (IsNewest brought)
      ((brought.map Prod.fst).eraseDups.filter fun name =>
        name ∉ Parser.builtInNames ∧ name ∉ disabled) added
  /-- All parsers go by names, no two by the same. -/
  named : ∃ names : List String,
    parsers.map Parser.name? = names.map (fun name => some (.text name)) ∧ names.Nodup

/-- The newest of each name that is left, with its name. -/
def added (brought : List (String × CustomParser)) (disabled : List String) :
    List (String × CustomParser) :=
  (Entries.ofList brought).filter fun entry => entry.1 ∉ Parser.builtInNames ∧ entry.1 ∉ disabled

theorem map_fst_added (brought : List (String × CustomParser)) (disabled : List String) :
    (added brought disabled).map Prod.fst =
      (brought.map Prod.fst).eraseDups.filter fun name =>
        name ∉ Parser.builtInNames ∧ name ∉ disabled := by
  rw [← Entries.map_fst_ofList, List.filter_map]
  rfl

theorem filter_candidates (brought : List (String × CustomParser)) (disabled : List String) :
    ((candidates brought).filter fun parser => parser.1 ∉ disabled).map Prod.snd =
      (Parser.builtIn.filter fun parser => parser.text? ∉ disabled.map some) ++
        (added brought disabled).map fun entry => .custom entry.2 := by
  have builtIn : Parser.builtIn = standing.map Prod.snd := rfl
  have left : (standing.filter fun parser => parser.1 ∉ disabled).map Prod.snd =
      Parser.builtIn.filter fun parser => parser.text? ∉ disabled.map some := by
    rw [builtIn, List.filter_map]
    congr 1
    apply List.filter_congr
    intro parser isIn
    have isDisabled : parser.2.text? ∈ disabled.map some ↔ parser.1 ∈ disabled := by
      rw [Parser.text?, named_standing parser isIn]
      exact List.mem_map_of_injective (Option.some_injective String)
    simp only [Function.comp_apply, isDisabled]
  rw [candidates, List.filter_append, List.map_append, left, List.filter_map, List.filter_filter,
    List.map_map, added]
  congr 2
  apply List.filter_congr
  intro entry _
  simp [and_comm]

theorem inUse_candidates (extensions : List Extension) (disabled : List String) :
    InUse (brought extensions) disabled
      (((candidates (brought extensions)).filter fun parser => parser.1 ∉ disabled).map
        Prod.snd) := by
  constructor
  case shape =>
    refine ⟨_, filter_candidates _ _, ?_⟩
    rw [← map_fst_added, List.forall₂_map_left_iff, List.forall₂_map_right_iff, List.forall₂_same]
    intro entry isAdded
    have isEntry := List.mem_of_mem_filter isAdded
    have found := (Entries.mem_iff_get? (Entries.nodup_ofList _)).mp isEntry
    obtain ⟨front, back, whole, absent⟩ := Entries.exists_last_of_get?_ofList found
    exact ⟨front, entry.2, back, whole, absent, rfl⟩
  case named =>
    refine ⟨((candidates (brought extensions)).filter fun parser => parser.1 ∉ disabled).map
      Prod.fst, ?_, ?_⟩
    · rw [List.map_map, List.map_map]
      apply List.map_congr_left
      intro parser isIn
      exact named_candidates extensions parser (List.mem_of_mem_filter isIn)
    · exact (nodup_candidates _).sublist (List.filter_sublist.map _)

/-! ## Loading -/

variable {settings offers : Mapping}

/-- The extensions that are asked for parsers. -/
def asked (offers : Mapping) (extensions : List Extension) : List Extension :=
  if usesExtensions offers then extensions else []

theorem outcome_load (isSection : sectionOf settings = .ok offers) :
    (load extensions settings).outcome =
      (discover (asked offers extensions)).outcome.bind fun found =>
        enabled (Mapping.get? "disabled_parsers" offers) (combine found) := by
  simp only [load, Logged.outcome_bind, Logged.outcome_ofOutcome, Logged.outcome_tell, isSection,
    bind_ok, apply_ite Logged.outcome, asked]
  split <;> rfl

theorem orderly_asked (orderly : ∀ extension ∈ extensions, extension.IsOrderly)
    (offers : Mapping) : ∀ extension ∈ asked offers extensions, extension.IsOrderly := by
  unfold asked
  split
  · exact orderly
  · nofun

/-- The parsers in use are those that come into question and are not disabled. -/
theorem outcome_load_of_lists (orderly : ∀ extension ∈ extensions, extension.IsOrderly)
    (isSection : sectionOf settings = .ok offers)
    (lists : Lists (Mapping.get? "disabled_parsers" offers) disabled) :
    (load extensions settings).outcome =
      .ok (((candidates (brought (asked offers extensions))).filter fun parser =>
        parser.1 ∉ disabled).map Prod.snd) := by
  have askedOrderly := orderly_asked orderly offers
  rw [outcome_load isSection, outcome_discover askedOrderly, bind_ok, combine_eq_candidates,
    enabled_of_named lists (named_candidates _)]

/-- The extensions that bring a parser. -/
def bringing (extensions : List Extension) : List Extension :=
  extensions.filter fun extension => extension.brought?.isSome

theorem brought_bringing (extensions : List Extension) :
    brought (bringing extensions) = brought extensions := by
  rw [brought, bringing, List.filterMap_filter]
  apply List.filterMap_congr
  intro extension _
  cases extension.brought? <;> simp

theorem asked_bringing (offers : Mapping) (extensions : List Extension) :
    brought (asked offers (bringing extensions)) = brought (asked offers extensions) := by
  unfold asked
  split
  · exact brought_bringing extensions
  · rfl

/-- Extensions that bring nothing make no difference to what is in use. -/
theorem outcome_load_bringing (orderly : ∀ extension ∈ extensions, extension.IsOrderly)
    (isSection : sectionOf settings = .ok offers)
    (lists : Lists (Mapping.get? "disabled_parsers" offers) disabled) :
    (load (bringing extensions) settings).outcome = (load extensions settings).outcome := by
  have bringingOrderly : ∀ extension ∈ bringing extensions, extension.IsOrderly :=
    fun extension isIn => orderly extension (List.mem_of_mem_filter isIn)
  rw [outcome_load_of_lists bringingOrderly isSection lists, asked_bringing,
    outcome_load_of_lists orderly isSection lists]

end Registry

end Offer

end Checkout
