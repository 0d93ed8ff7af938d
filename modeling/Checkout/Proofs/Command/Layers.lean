import Checkout.Command.Run
import Checkout.Command.Toolbox
import Checkout.Proofs.Folder.Supply
import Checkout.Proofs.Settings.Tree

/-!
# The layers of settings

The settings in force come in four layers: options lie over the environment, the environment over
the settings file, and the file over the defaults.  The two upper layers write texts under five
dotted names.  Since none of these names leads on from another, each can be read by itself, and what
is read under any other name is what the file and the defaults say.
-/

namespace Checkout

/-! ## Texts written one after another -/

namespace Settings

/-- A dotted name with the text that is written under it, if one is given. -/
abbrev Override :=
  String × Option String

/-- The tree with the text of an override, if it has one. -/
def putOverride (tree : Mapping) (override : Override) : Mapping :=
  override.2.elim tree fun text => put tree override.1 (.text text)

/-- The text that is given last under a name. -/
def lastText? (name : String) : List Override → Option String
  | [] => none
  | (setting, text?) :: rest => (lastText? name rest).or (if setting = name then text? else none)

/-- An override does not write under a name, or writes just there. -/
def Override.IsClearOf (override : Override) (name : String) : Prop :=
  override.2 = none ∨ override.1 = name ∨ Apart (path override.1) (path name)

theorem get_putOverride {override : Override} {name : String} (clear : override.IsClearOf name)
    (tree : Mapping) (default : Value) :
    get (putOverride tree override) name default =
      (if override.1 = name then override.2 else none).elim (get tree name default) .text := by
  obtain ⟨setting, text?⟩ := override
  cases text? with
  | none => simp [putOverride]
  | some text =>
    rcases clear with none | same | apart
    · cases none
    · subst same
      simp [putOverride, get_put, Value.isNull]
    · have different : setting ≠ name := fun same => apart.ne (congrArg path same)
      simp [putOverride, get_put_of_apart apart, different]

/-- Of the overrides that write under a name, the last counts. -/
theorem get_foldl_putOverride {overrides : List Override} {name : String}
    (clear : ∀ override ∈ overrides, override.IsClearOf name) (tree : Mapping) (default : Value) :
    get (overrides.foldl putOverride tree) name default =
      (lastText? name overrides).elim (get tree name default) .text := by
  induction overrides generalizing tree with
  | nil => rfl
  | cons override rest ih =>
    rw [List.foldl_cons, ih fun other isIn => clear other (List.mem_cons_of_mem _ isIn),
      get_putOverride (clear override List.mem_cons_self), lastText?]
    cases lastText? name rest <;> rfl

theorem lastText?_eq_none {overrides : List Override} {name : String}
    (others : ∀ override ∈ overrides, override.2 = none ∨ override.1 ≠ name) :
    lastText? name overrides = none := by
  induction overrides with
  | nil => rfl
  | cons override rest ih =>
    rw [lastText?, ih fun other isIn => others other (List.mem_cons_of_mem _ isIn), Option.none_or]
    rcases others override List.mem_cons_self with none | different
    · rw [none, ite_self]
    · rw [if_neg different]

/-- Overrides that only write elsewhere change nothing. -/
theorem get_foldl_putOverride_of_apart {overrides : List Override} {name : String}
    (elsewhere : ∀ override ∈ overrides, override.2 = none ∨ Apart (path override.1) (path name))
    (tree : Mapping) (default : Value) :
    get (overrides.foldl putOverride tree) name default = get tree name default := by
  have clear : ∀ override ∈ overrides, override.IsClearOf name :=
    fun override isIn => (elsewhere override isIn).imp_right .inr
  have none : lastText? name overrides = none := lastText?_eq_none fun override isIn =>
    (elsewhere override isIn).imp_right fun apart same => apart.ne (congrArg path same)
  rw [get_foldl_putOverride clear, none]
  rfl

/-- The text of a variable of the environment, unless it is empty. -/
def valueIn? (environment : List (String × String)) (name : String) : Option String :=
  (Entries.get? name environment).filter fun text => !text.isEmpty

/-- Variables override settings by their texts, one after another. -/
theorem overrideBy_eq_foldl (environment : List (String × String)) (tree : Mapping)
    (entries : List (String × String)) :
    overrideBy environment tree entries =
      (entries.map fun entry => (entry.2, valueIn? environment entry.1)).foldl putOverride
        tree := by
  induction entries generalizing tree with
  | nil => rfl
  | cons entry rest ih =>
    rw [overrideBy, ih, List.map_cons, List.foldl_cons, valueIn?]
    cases Entries.get? entry.1 environment with
    | none => rfl
    | some text =>
      by_cases empty : text.isEmpty = true <;> simp [putOverride, Option.filter_some, empty]

end Settings

/-! ## The layers -/

namespace Command

open Settings (Apart Override lastText? path putOverride valueIn?)

/-- What the environment and the options write over the settings of the file, in order. -/
def overrides (request : Request) (environment : List (String × String)) : List Override :=
  (Settings.overridingVariables.map fun entry => (entry.2, valueIn? environment entry.1)) ++
    [("data.dir", request.dataDirectory.map FilePath.toText),
     ("report.format", if request.asJson then some "json" else none),
     ("logging.level", if request.isVerbose then some "DEBUG" else none)]

/-- The names under which something is written in a run. -/
def overridden (request : Request) (environment : List (String × String)) : List String :=
  ((overrides request environment).filter fun override => override.2.isSome).map Prod.fst

/-- Settings lie in layers over those of the file and the defaults.  Under each of the five names
that can be overridden the uppermost layer counts that says something, and every name that is apart
from the overridden ones is read as in the file and the defaults. -/
structure Layered (request : Request) (environment : List (String × String))
    (below above : Mapping) : Prop where
  directory (default : Value) : Settings.get above "data.dir" default =
    ((request.dataDirectory.map FilePath.toText).or
      (valueIn? environment "PRICEBASKET_DATA_DIR")).elim
        (Settings.get below "data.dir" default) .text
  level (default : Value) : Settings.get above "logging.level" default =
    ((if request.isVerbose then some "DEBUG" else none).or
      (valueIn? environment "PRICEBASKET_LOG_LEVEL")).elim
        (Settings.get below "logging.level" default) .text
  format (default : Value) : Settings.get above "report.format" default =
    if request.asJson then .text "json" else Settings.get below "report.format" default
  symbol (default : Value) : Settings.get above "report.currency_symbol" default =
    (valueIn? environment "PRICEBASKET_CURRENCY_SYMBOL").elim
      (Settings.get below "report.currency_symbol" default) .text
  style (default : Value) : Settings.get above "logging.format" default =
    (valueIn? environment "PRICEBASKET_LOG_FORMAT").elim
      (Settings.get below "logging.format" default) .text
  frame {name : String}
    (apart : ∀ setting ∈ overridden request environment, Apart (path setting) (path name))
    (default : Value) : Settings.get above name default = Settings.get below name default

variable {request : Request} {environment : List (String × String)}

/-- The settings of the environment and the options are written one after another. -/
theorem overrideByOptions_eq_foldl (settings : Settings) :
    overrideByOptions request (settings.withEnvironment environment).tree =
      (overrides request environment).foldl putOverride settings.tree := by
  rw [overrides, List.foldl_append, ← Settings.overrideBy_eq_foldl]
  simp only [overrideByOptions, Settings.withEnvironment, List.foldl_cons, List.foldl_nil]
  cases request.dataDirectory <;> cases request.asJson <;> cases request.isVerbose <;>
    simp [putOverride]

/-- The names that can be overridden. -/
def overridable : List String :=
  ["data.dir", "report.currency_symbol", "logging.level", "logging.format", "report.format"]

theorem apart_overridable : ∀ setting ∈ overridable, ∀ name ∈ overridable,
    setting = name ∨ Apart (path setting) (path name) := by
  decide

/-- Each name that can be overridden is read by itself. -/
theorem isClearOf_overridable (request : Request) (environment : List (String × String))
    {name : String} (isName : name ∈ overridable) :
    ∀ override ∈ overrides request environment, override.IsClearOf name := by
  intro override isIn
  have names : ∀ setting ∈ (overrides request environment).map Prod.fst,
      setting ∈ overridable := by
    change ∀ setting ∈ ["data.dir", "report.currency_symbol", "logging.level", "logging.format",
      "data.dir", "report.format", "logging.level"], setting ∈ overridable
    decide
  exact .inr (apart_overridable _ (names _ (List.mem_map_of_mem isIn)) name isName)

/-- What the environment and the options write lies over any settings in layers. -/
theorem layered_overrides (below : Mapping) :
    Layered request environment below
      ((overrides request environment).foldl putOverride below) := by
  have read {name : String} (isName : name ∈ overridable) (default : Value) :=
    Settings.get_foldl_putOverride (isClearOf_overridable request environment isName) below
      default
  constructor
  case directory =>
    intro default
    rw [read (by decide)]
    simp [overrides, Settings.overridingVariables, lastText?]
  case level =>
    intro default
    rw [read (by decide)]
    simp [overrides, Settings.overridingVariables, lastText?]
  case format =>
    intro default
    rw [read (by decide)]
    cases given : request.asJson <;>
      simp [overrides, Settings.overridingVariables, lastText?, given]
  case symbol =>
    intro default
    rw [read (by decide)]
    simp [overrides, Settings.overridingVariables, lastText?]
  case style =>
    intro default
    rw [read (by decide)]
    simp [overrides, Settings.overridingVariables, lastText?]
  case frame =>
    intro name apart default
    refine Settings.get_foldl_putOverride_of_apart ?_ below default
    intro override isIn
    cases given : override.2 with
    | none => exact .inl rfl
    | some text =>
      refine .inr (apart override.1 (List.mem_map_of_mem ?_))
      exact List.mem_filter.mpr ⟨isIn, by rw [given]; rfl⟩

/-- Options lie over the environment, the environment over the file and the file over the defaults,
whatever the document in the file looks like, and nothing else is touched. -/
theorem settingsOf_layered {surroundings : Surroundings} {request : Request}
    {document : Mapping} {source : Option FilePath}
    (read : fileSettings surroundings request = .ok (Settings.ofTree document source)) :
    ∃ tree, settingsOf surroundings request = .ok tree ∧
      Layered request surroundings.environment (Settings.ofTree document).tree tree := by
  refine ⟨_, ?_, layered_overrides _⟩
  rw [settingsOf, read]
  exact congrArg Except.ok (overrideByOptions_eq_foldl _)

/-- A settings file with a text where the section of data belongs. -/
def stallDocument : Mapping :=
  [("data", .text "stall"), ("logging", .mapping [("level", .text "INFO")])]

def stallText : String :=
  "\x7b\"data\": \"stall\", \"logging\": \x7b\"level\": \"INFO\"\x7d\x7d"

/-- Surroundings with that file and two variables, one of them empty. -/
def stall : Surroundings where
  tools := toolbox
  tree := ⟨[(["shop.json"], .file stallText.toUTF8)]⟩
  environment := [("PRICEBASKET_DATA_DIR", "stock"), ("PRICEBASKET_LOG_FORMAT", "")]

def stallRequest : Request where
  settingsFile := some ⟨"/", ["shop.json"]⟩
  isVerbose := true

theorem fileSettings_stall :
    fileSettings stall stallRequest =
      .ok (Settings.ofTree stallDocument (some ⟨"/", ["shop.json"]⟩)) := by
  have place : stall.tree.placeOf [] ⟨"/", ["shop.json"]⟩ = .ok ["shop.json"] := by
    decide +kernel
  have found : stall.tree.look [] ⟨"/", ["shop.json"]⟩ = .ok (some (.file stallText.toUTF8)) := by
    rw [FileTree.look, place]
    rfl
  have format : Settings.Format.ofSuffix? (FilePath.suffix ⟨"/", ["shop.json"]⟩) = some .json := by
    decide +kernel
  have content : FileTree.textOf? stallText.toUTF8 = some stallText := by
    rw [FileTree.textOf?, FileTree.contentOf?_toUTF8, Option.map_some]
    decide +kernel
  have document : Json.read stallText.toList = .ok (.mapping stallDocument) := by
    have characters : stallText.toList = ['\x7b', '"', 'd', 'a', 't', 'a', '"', ':', ' ', '"', 's',
        't', 'a', 'l', 'l', '"', ',', ' ', '"', 'l', 'o', 'g', 'g', 'i', 'n', 'g', '"', ':', ' ',
        '\x7b', '"', 'l', 'e', 'v', 'e', 'l', '"', ':', ' ', '"', 'I', 'N', 'F', 'O', '"', '\x7d',
        '\x7d'] := by decide
    simp [characters, Json.read, Json.readValue, Json.readEntries, Json.skipBlanks, Json.readText,
      Json.readChars?, Json.deepest, bind, Except.bind, Mapping.put, Entries.put, stallDocument]
  change Settings.ofFile Yaml.load stall.tree [] ⟨"/", ["shop.json"]⟩ = _
  rw [Settings.ofFile, found]
  simp only [bind, Except.bind, Settings.ofNode, format, Settings.ofContent,
    Settings.Format.read, Settings.readJson, content, document, Except.mapError,
    Settings.ofDocument]

/-- The folder comes from the environment, although the file has no section for it, and the level
from the switch.  The empty variable says nothing, and there is no catalog file any more. -/
theorem settingsOf_layered_stall :
    fileSettings stall stallRequest =
        .ok (Settings.ofTree stallDocument (some ⟨"/", ["shop.json"]⟩)) ∧
      ∃ tree, settingsOf stall stallRequest = .ok tree ∧
        Settings.get tree "data.dir" .null = .text "stock" ∧
        Settings.get tree "logging.level" .null = .text "DEBUG" ∧
        Settings.get tree "logging.format" .null = .text "text" ∧
        Settings.get tree "data.catalog_file" .null = .null := by
  refine ⟨fileSettings_stall, ?_⟩
  obtain ⟨tree, settled, layered⟩ := settingsOf_layered fileSettings_stall
  refine ⟨tree, settled, layered.directory .null, layered.level .null, ?_, ?_⟩
  · rw [layered.style]
    rfl
  · rw [layered.frame (by decide)]
    rfl

end Command

end Checkout
