import Checkout.Item
import Checkout.Journal.Instant
import Checkout.Journal.Record
import Checkout.Json.Printer
import Checkout.Text.Part
import Checkout.Text.Template
import Checkout.Text.Word

/-!
# Writing the journal

A journal entry is a record as it is written out: its message, which may still be a template, with
the attributes that go along with it by name.  Entries are written as plain lines, as JSON, or for
a terminal, where the name of the level is coloured.
-/

namespace Checkout.Journal

/-! ## Messages -/

/-- What the directives of a message stand for. -/
inductive Arguments
  /-- Arguments that have all to be used. -/
  | several (values : List Value)
  /-- One value, which gives its parts by name if it is a mapping. -/
  | single (value : Value)

namespace Arguments

/-- The arguments that a message is handed.  A single mapping gives its values by name, unless it is
empty. -/
def ofList : List Value → Arguments
  | [.mapping (entry :: entries)] => .single (.mapping (entry :: entries))
  | values => .several values

/-- Whether there is nothing that a directive could stand for. -/
def isEmpty : Arguments → Bool
  | .several values => values.isEmpty
  | .single value => value.isEmpty

/-- The arguments as a template takes them. -/
def forTemplate : Arguments → Text.Template.Arguments
  | .several values => .listed values
  | .single (.mapping entries) => .ofMapping entries
  | .single (.list items) => .spare (some (.list items))
  | .single value => .listed [value]

/-- The arguments as a value.  Several are listed in parentheses, where one alone has a comma behind
it. -/
def value : Arguments → Value
  | .several [value] => .other ("(" ++ value.listed ++ ",)")
  | .several values => .other ("(" ++ ", ".intercalate (values.map Value.listed) ++ ")")
  | .single value => value

end Arguments

/-- An exception that goes along with an entry. -/
inductive Exception
  /-- A value was not usable, for a reason that may be empty. -/
  | unusable (reason : String)
  /-- A value in place of an exception; one that counts as absent stands for none. -/
  | replaced (value : Value)

namespace Exception

/-- The exception as a value. -/
def value : Exception → Value
  | .unusable reason =>
    .other ("(<class 'ValueError'>, ValueError(" ++ Text.quoted reason ++ "), None)")
  | .replaced value => value

/-- The text of what stands in place of an exception: its third part tells where it arose, and only
nothing that arose nowhere has a text. -/
def replacedText : Value → Except Fault String
  | .list (_ :: .null :: .null :: _) => .ok "NoneType: None"
  | .list (_ :: _ :: _ :: _) => .error .lacking
  | .list _ => .error .tooShort
  | .text text => .error (if Text.count text.toList < 3 then .tooShort else .lacking)
  | .mapping _ => .error (.unknownName "2")
  | _ => .error .wrongKind

/-- The text of an exception, if there is one. -/
def text? : Exception → Except Fault (Option String)
  | .unusable reason =>
    .ok (some (if reason.isEmpty then "ValueError" else "ValueError: " ++ reason))
  | .replaced value => if value.isEmpty then .ok none else (replacedText value).map some

end Exception

/-! ## Entries -/

/-- A record as it is written out. -/
structure Entry where
  /-- The message, or the template that it is made from. -/
  template : Value
  arguments : Arguments := .several []
  /-- The level, the logger, the line and whatever else is known, by name. -/
  attributes : Mapping
  exception : Exception := .replaced .null

namespace Entry

/-- The attributes that every entry has. -/
def attributesOf (logger level : Value) (rank : Int) (line : Value) : Mapping :=
  [("name", logger), ("levelname", level), ("levelno", .whole rank), ("lineno", line),
   ("funcName", .null), ("threadName", .text "MainThread"),
   ("processName", .text "MainProcess"), ("exc_text", .null), ("stack_info", .null)]

/-- The entry with a value in place of what it has under a name. -/
def replace (entry : Entry) (name : String) (value : Value) : Entry :=
  if name = "msg" then { entry with template := value }
  else if name = "args" then { entry with arguments := .single value }
  else if name = "exc_info" then { entry with exception := .replaced value }
  else { entry with attributes := Mapping.put name value entry.attributes }

/-- The entry with values in place of what it has under their names. -/
def replaceAll (entry : Entry) (values : List (String × Value)) : Entry :=
  values.foldl (fun entry other => entry.replace other.1 other.2) entry

/-- The attribute that makes the message of an entry.  Nothing else may be put in its place. -/
def maker : String :=
  "getMessage"

/-- The message.  Without arguments it is taken as it is. -/
def message (entry : Entry) : Except Fault String :=
  if (Mapping.get? maker entry.attributes).isSome then .error .wrongKind
  else if entry.arguments.isEmpty then .ok entry.template.shown
  else Text.Template.render entry.template.shown entry.arguments.forTemplate

/-- The attribute with a name. -/
def valueOf (entry : Entry) (name : String) : Value :=
  (Mapping.get? name entry.attributes).getD .null

/-! ## JSON -/

/-- What an element of a list stands for as an entry of a mapping: its two parts. -/
def pairOf (place : Nat) (element : Value) : Except Fault (Key × Value) :=
  match element.parts? with
  | none => .error .wrongKind
  | some [key, value] =>
    match key.key? with
    | some key => .ok (key, value)
    | none => .error .wrongKind
  | some parts =>
    .error (.unusable ("dictionary update sequence element #" ++ Text.Numeral.text place ++
      " has length " ++ Text.Numeral.text parts.length ++ "; 2 is required"))

/-- The fields with the pairs that elements stand for put over them; the elements are counted from a
place on. -/
def withPairs (fields : Mapping) (place : Nat) : List Value → Except Fault Mapping
  | [] => .ok fields
  | element :: rest => do
    let (key, value) ← pairOf place element
    withPairs (Mapping.putKey key value fields) (place + 1) rest

/-- The fields with others put over them: those of a mapping, or the pairs that the parts of another
value stand for. -/
def withFields (fields : Mapping) : Value → Except Fault Mapping
  | .mapping others => .ok (Mapping.putAll others fields)
  | others =>
    match others.parts? with
    | some elements => withPairs fields 0 elements
    | none => .error .wrongKind

/-- The value that has been put in place of the instant of the entry. -/
def instant? (entry : Entry) : Option Value :=
  Mapping.get? "created" entry.attributes

/-- Looks at the value in place of the instant: its date has to be one that can be written. -/
def checkDate (entry : Entry) : Except Fault Unit :=
  match entry.instant? with
  | none => .ok ()
  | some value => do
    let _ ← (← Instant.ofValue value).dateYear

/-- Looks at the value in place of the instant: its year has to be one that is counted.  Where there
is nothing, the present instant is taken. -/
def checkClock (entry : Entry) : Except Fault Unit :=
  match entry.instant? with
  | none | some .null => .ok ()
  | some value => do
    let _ ← (← Instant.ofValue value).clockYear

/-- The fields of the entry. -/
def fields (entry : Entry) (time : String) : Except Fault Mapping := do
  entry.checkDate
  let basic : Mapping :=
    [("timestamp", .text time), ("level", entry.valueOf "levelname"),
     ("logger", entry.valueOf "name"), ("line", entry.valueOf "lineno"),
     ("message", .text (← entry.message))]
  let extended ←
    match Mapping.get? "extra_fields" entry.attributes with
    | some others => withFields basic others
    | none => .ok basic
  let explained :=
    match ← entry.exception.text? with
    | some text => Mapping.put "exception" (.text text) extended
    | none => extended
  .ok (match Mapping.get? "operation" entry.attributes with
    | some operation => Mapping.put "operation" operation explained
    | none => explained)

/-- The entry as JSON on one line. -/
def json (entry : Entry) (time : String) : Except Fault String := do
  .ok (Json.compact (.mapping (← entry.fields time)))

/-! ## Lines of text -/

/-- The text without a width or precision at its start: a star, or digits of any script. -/
def skipSize : List Char → List Char
  | '*' :: rest => rest
  | text => text.dropWhile fun c => (Text.Numeral.asciiDigit? c).isSome

/-- The text without a precision at its start; a point alone is none. -/
def skipPrecision : List Char → List Char
  | '.' :: rest => if (skipSize rest).length < rest.length then skipSize rest else '.' :: rest
  | text => text

/-- The letters that end a directive, and the percent sign. -/
def kinds : List Char :=
  "diouxefgcrsa%".toList

/-- Whether a character ends a directive, in either case: beside the capital letters these are the
i's with and without a dot of the other case, and the long s. -/
def isKind (c : Char) : Bool :=
  kinds.contains c.toLower || ['İ', 'ı', 'ſ'].contains c

/-- Whether a name, its closing parenthesis and what else makes a directive stand at the start of a
text. -/
def startsDirective (text : List Char) : Bool :=
  match text.dropWhile Text.isWord with
  | ')' :: rest =>
    let behind := skipPrecision (skipSize (rest.dropWhile Text.Template.flagCharacters.contains))
    text.head?.any Text.isWord && behind.head?.any isKind
  | _ => false

/-- Whether a text contains a directive with a name. -/
def hasDirective : List Char → Bool
  | '%' :: '(' :: rest => startsDirective rest || hasDirective rest
  | _ :: rest => hasDirective rest
  | [] => false

end Entry

/-- The form of a line: a template in which some attribute of the entry is named. -/
structure Form where
  template : String
  named : Entry.hasDirective template.toList = true

namespace Form

/-- The message alone. -/
def message : Form :=
  ⟨"%(message)s", by decide +kernel⟩

/-- The form of plain lines. -/
def plain : Form :=
  ⟨"%(levelname)s: %(message)s", by decide +kernel⟩

/-- The form of lines on a terminal. -/
def terminal : Form :=
  ⟨"%(asctime)s - %(levelname)s - [%(module)s:%(lineno)d] - %(message)s", by decide +kernel⟩

/-- Whether the time is shown in lines of the form. -/
def showsTime (form : Form) : Bool :=
  Text.isPart "%(asctime)" form.template

/-- The form that a template gives; an empty template stands for the message alone. -/
def ofTemplate (template : String) : Except Fault Form :=
  if template.isEmpty then .ok message
  else if named : Entry.hasDirective template.toList then .ok ⟨template, named⟩
  else .error (.unusable ("Invalid format '" ++ template ++ "' for '%' style"))

/-- The form that a value gives; one that counts as absent stands for the message alone. -/
def ofValue : Value → Except Fault Form
  | .text template => ofTemplate template
  | value => if value.isEmpty then .ok message else .error .wrongKind

end Form

namespace Entry

/-- All attributes of the entry with its message and the time. -/
def allAttributes (entry : Entry) (message time : String) : Mapping :=
  Mapping.put "asctime" (.text time) (Mapping.put "message" (.text message)
    (Mapping.put "exc_info" entry.exception.value (Mapping.put "args" entry.arguments.value
      (Mapping.put "msg" entry.template entry.attributes))))

/-- The line of the entry in some form. -/
def lineOf (entry : Entry) (form : Form) (time : String) : Except Fault String := do
  let message ← entry.message
  if form.showsTime then entry.checkClock
  match Text.Template.render form.template (.ofMapping (entry.allAttributes message time)) with
  | .error (.unknownName name) =>
    .error (.unusable ("Formatting field not found in record: " ++ Text.quoted name))
  | outcome => outcome

/-- The text with another on a line of its own behind it, unless that counts as absent. -/
def appendLine (text : String) : Value → Except Fault String
  | .text other =>
    .ok (if other.isEmpty then text
      else if text.toList.getLast? = some '\n' then text ++ other
      else text ++ "\n" ++ other)
  | other => if other.isEmpty then .ok text else .error .wrongKind

/-- What explains the entry behind its line: the text that is kept for its exception, or else that
of the exception itself. -/
def explanation (entry : Entry) : Except Fault Value :=
  let kept := entry.valueOf "exc_text"
  if kept.isEmpty then do
    match ← entry.exception.text? with
    | some text => .ok (.text text)
    | none => .ok .null
  else .ok kept

/-- The entry in some form, with what explains it and the calls that led to it behind. -/
def formatted (entry : Entry) (form : Form) (time : String) : Except Fault String := do
  let line ← entry.lineOf form time
  let explained ← appendLine line (← entry.explanation)
  appendLine explained (entry.valueOf "stack_info")

/-- The codes of the colours of levels. -/
def colours : List (String × String) :=
  [("DEBUG", "36"), ("INFO", "32"), ("WARNING", "33"), ("ERROR", "31"), ("CRITICAL", "35")]

/-- The text with the first occurrence of the name of a level in the colour of that level. -/
def coloured (level text : String) : String :=
  match colours.lookup level with
  | none => text
  | some code =>
    Text.replacePart level ("\x1b[" ++ code ++ "m" ++ level ++ "\x1b[0m") text

/-- The entry in some form on a terminal.  The colour is looked up under the name of the level,
which has to be a value without parts. -/
def onTerminal (entry : Entry) (form : Form) (time : String) : Except Fault String := do
  let text ← entry.formatted form time
  match entry.valueOf "levelname" with
  | .text level => .ok (coloured level text)
  | level => if level.key?.isSome then .ok text else .error .wrongKind

end Entry

/-- How entries are written. -/
inductive Style
  | plain
  | json
  | terminal
  /-- The message alone. -/
  | bare
  deriving DecidableEq

/-- An entry in a style. -/
def Style.write (style : Style) (entry : Entry) (time : String) : Except Fault String :=
  match style with
  | .plain => entry.formatted .plain time
  | .json => entry.json time
  | .terminal => entry.onTerminal .terminal time
  | .bare => entry.formatted .message time

/-- The attributes that a record from a module has beside those of every entry: the module, and what
an operation brought. -/
def Record.attributesIn (record : Record) (module : String) : Mapping :=
  match record.operation with
  | some operation =>
    [("module", .text module), ("operation", operation),
     ("extra_fields", .mapping record.context)]
  | none => [("module", .text module)]

/-- The entry of a record that stands in some line of a module. -/
def Record.entry (record : Record) (module : String) (line : Int) : Entry where
  template := .text record.message
  attributes :=
    Entry.attributesOf (.text record.logger) (.text record.level.name) record.level.rank
      (.whole line) ++ record.attributesIn module

end Checkout.Journal
