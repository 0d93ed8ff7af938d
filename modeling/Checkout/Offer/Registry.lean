import Checkout.Offer.Parser
import Checkout.Text.Part

/-!
# Parsers of extensions

Extensions of the shop may bring parsers of their own: a kind of which one is made, or one that is
ready.  An extension that can not be loaded, or that brings something else, is left out with a
warning and does not affect the others.  Of two parsers with one name the later takes the place of
the earlier; the built-in parsers are never replaced.  The settings may turn extensions off and
disable parsers by name.
-/

namespace Checkout.Offer

namespace Extension

/-- An object that an extension may bring. -/
structure Object where
  /-- The name that the object goes by, if it has one. -/
  name? : Option Value
  /-- The name of the object's kind. -/
  kind : String
  /-- How the object reads lines, if it does. -/
  parse? : Option (Catalog → List Char → Except Fault (Option Rule))

/-- What loading an extension gives. -/
inductive Target
  /-- Something that the extension needs is missing, as the reason tells. -/
  | missing (reason : String)
  /-- Loading fails in some other way. -/
  | failing
  /-- A kind of objects, with the one that is made of it, unless making it fails. -/
  | kind (made? : Option Object)
  /-- An object that is ready to be used. -/
  | object (object : Object)

/-- What an extension brings. -/
inductive Content
  | missing (reason : String)
  | failing
  /-- Something that is no parser. -/
  | other
  /-- A parser with its name. -/
  | parser (name : Value) (parser : CustomParser)

/-- What an object is: a parser if it has a name and reads lines. -/
def Object.content (object : Object) : Content :=
  match object.name?, object.parse? with
  | some name, some parse => .parser name { name? := some name, kind := object.kind, parse }
  | _, _ => .other

/-- What a target brings. -/
def Target.content : Target → Content
  | .missing reason => .missing reason
  | .failing => .failing
  | .kind none => .failing
  | .kind (some made) => made.content
  | .object ready => ready.content

end Extension

/-- An installed extension. -/
structure Extension where
  name : String
  target : Extension.Target

namespace Registry

/-- The name of the logger of the registry. -/
def logger : String :=
  "pricebasket.plugins"

/-- The warning about an extension that can not be loaded. -/
def missingRecord (extension : Extension) (reason : String) : Journal.Record :=
  .warning logger ("Could not load offer parser plugin '" ++ extension.name ++ "': " ++ reason)

/-- The warning about an extension without a parser. -/
def otherRecord (extension : Extension) : Journal.Record :=
  .warning logger ("Plugin '" ++ extension.name ++ "' is not an offer parser, skipping")

/-- The parsers of extensions by name, put onto those found before. -/
def discoverOnto (found : List (Key × Parser)) : List Extension → Logged (List (Key × Parser))
  | [] => pure found
  | extension :: rest =>
    match extension.target.content with
    | .missing reason => do
      Logged.tell [missingRecord extension reason]
      discoverOnto found rest
    | .failing => Logged.ofOutcome (.error .extensionFailed)
    | .other => do
      Logged.tell [otherRecord extension]
      discoverOnto found rest
    | .parser name parser =>
      match name.key? with
      | none => Logged.ofOutcome (.error .wrongKind)
      | some key => do
        Logged.tell [.debug logger ("Discovered offer parser plugin '" ++ name.shown ++ "'")]
        let known := key.spelledAs (found.map Prod.fst)
        discoverOnto (Entries.put known (.custom parser) found) rest

/-- The parsers of extensions by name, in the order in which the names were first found. -/
def discover (extensions : List Extension) : Logged (List (Key × Parser)) :=
  discoverOnto [] extensions

/-- Whether a parser of an extension has the name of a built-in one. -/
def isShadowing (name : Key) : Bool :=
  Parser.builtIn.any fun parser => parser.name?.bind Value.key? = some name

/-- The warnings about parsers that would shadow a built-in one. -/
def shadowRecords (found : List (Key × Parser)) : List Journal.Record :=
  (found.filter fun entry => isShadowing entry.1).map fun entry =>
    .warning logger ("Plugin parser '" ++ entry.1.value.shown ++
      "' shadows a built-in parser, skipping")

/-- The built-in parsers and those found that shadow none of them. -/
def combine (found : List (Key × Parser)) : List Parser :=
  Parser.builtIn ++ (found.filter fun entry => !isShadowing entry.1).map Prod.snd

/-! ## Settings -/

/-- The offers section of settings; one that counts as absent is empty. -/
def sectionOf (settings : Mapping) : Except Fault Mapping :=
  match Mapping.get? "offers" settings with
  | none => .ok []
  | some (.mapping entries) => .ok entries
  | some value => if value.isEmpty then .ok [] else .error .lacking

/-- Whether the parsers of extensions are used. -/
def usesExtensions (offers : Mapping) : Bool :=
  match Mapping.get? "discover_plugins" offers with
  | none => true
  | some value => !value.isEmpty

/-- Whether a value that is not empty names something: in a list, as a key, or anywhere in a
text. -/
def isNamedBy (name : Value) : Value → Except Fault Bool
  | .list names => .ok (names.any fun other => other.same name)
  | .mapping entries =>
    match name.key? with
    | some key => .ok (Value.underSame? key entries).isSome
    | none => .error .wrongKind
  | .text names =>
    match name.text? with
    | some name => .ok (Text.isPart name names)
    | none => .error .wrongKind
  | _ => .error .wrongKind

/-- Whether the setting for disabled parsers names a parser; one that counts as absent names
none. -/
def isDisabled (disabled : Option Value) (name : Value) : Except Fault Bool :=
  match disabled with
  | none => .ok false
  | some value => if value.isEmpty then .ok false else isNamedBy name value

/-- The parsers whose names are not disabled. -/
def enabled (disabled : Option Value) : List Parser → Except Fault (List Parser)
  | [] => .ok []
  | parser :: rest => do
    let isOut ← isDisabled disabled parser.label
    let others ← enabled disabled rest
    .ok (if isOut then others else parser :: others)

/-- The parsers in use under some settings. -/
def load (extensions : List Extension) (settings : Mapping) : Logged (List Parser) := do
  let offers ← Logged.ofOutcome (sectionOf settings)
  let found ← if usesExtensions offers then discover extensions else pure []
  Logged.tell (shadowRecords found)
  Logged.ofOutcome (enabled (Mapping.get? "disabled_parsers" offers) (combine found))

end Registry

end Checkout.Offer
