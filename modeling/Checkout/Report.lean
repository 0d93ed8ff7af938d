import Checkout.Problem

/-!
# Reports of problems

What is told about a problem: its kind, a message, details by name, and for a corrupt file the
place.  The wording of every problem is here and nowhere else.

A report can also be made up from loose parts, which may be values of any kind.  They are reported
as they are, and a message shows them the way a value is shown.
-/

namespace Checkout

namespace Report

/-- The kinds of problems. -/
inductive Kind
  /-- A problem of which only the message is known. -/
  | unspecified
  | blankItem
  | unknownItem
  | missingDataFile
  | settings
  /-- A data file that is not in its intended format, in a way of which only the reason is known. -/
  | corruptData
  | malformedEntry
  | malformedPrice
  | duplicateEntry
  | unsupportedRule
  | ambiguousRule
  deriving DecidableEq

namespace Kind

/-- Whether the problem is a defect of a catalog file. -/
def isOfCatalog : Kind → Bool
  | .malformedEntry => true
  | .malformedPrice => true
  | .duplicateEntry => true
  | _ => false

/-- Whether the problem is a defect of an offers file. -/
def isOfOffers : Kind → Bool
  | .unsupportedRule => true
  | .ambiguousRule => true
  | _ => false

/-- Whether the problem is a defect of a data file. -/
def isOfFile (kind : Kind) : Bool :=
  kind = .corruptData || kind.isOfCatalog || kind.isOfOffers

end Kind

/-- Where a data file goes wrong and why. -/
structure Place where
  reason : Value
  line : Value
  source : Value

end Report

/-- What is told about a problem. -/
structure Report where
  kind : Report.Kind
  message : Value
  details : Value
  place : Option Report.Place := none

namespace Report

/-! ## Wording -/

/-- A report of a message with details; there are none where they count as absent. -/
def ofMessage (kind : Kind) (message details : Value) : Report :=
  { kind, message, details := if details.isEmpty then .mapping [] else details }

def blankItem (rawName : Value) : Report :=
  ofMessage .blankItem (.text "Item ID must not be blank") (.mapping [("raw_name", rawName)])

def unknownItem (item : Value) : Report :=
  ofMessage .unknownItem (.text (item.shown ++ " doesn't exist in the catalog"))
    (.mapping [("item", .text item.shown)])

def missingDataFile (name searched : Value) : Report :=
  ofMessage .missingDataFile
    (.text ("Data file '" ++ name.shown ++ "' not found and no default is packaged"))
    (.mapping [("name", name), ("searched", searched)])

/-- A report of a settings file. -/
def settings (message path : String) : Report :=
  ofMessage .settings (.text message) (.mapping [("path", .text path)])

/-- A report of a corrupt file.  The message ends with the line, and the details always tell the
place. -/
def corrupt (kind : Kind) (reason line source : Value) (details : Mapping) : Report where
  kind := kind
  message := .text (reason.shown ++ " (line " ++ line.shown ++ ")")
  details := .mapping (Mapping.put "source" source (Mapping.put "line_number" line details))
  place := some { reason, line, source }

def duplicateEntry (item line source : Value) : Report :=
  corrupt .duplicateEntry (.text ("Duplicate entry found for " ++ item.shown)) line source
    [("item", .text item.shown)]

def unsupportedRule (rule line source : Value) : Report :=
  corrupt .unsupportedRule (.text ("Unsupported offer rule: " ++ rule.shown)) line source
    [("rule", rule)]

def ambiguousRule (rule line : Value) (parsers : List Value) (source : Value) : Report :=
  corrupt .ambiguousRule (.text ("Ambiguous offer rule: " ++ rule.shown)) line source
    [("rule", rule), ("parsers", .list parsers)]

end Report

/-! ## The reports of problems -/

/-- An optional text as a value. -/
def Report.optional : Option String → Value
  | some text => .text text
  | none => .null

/-- The report of a corrupt file. -/
def Corruption.report (corruption : Corruption) : Report :=
  let line : Value := .whole corruption.line
  let source := Report.optional corruption.source
  match corruption.defect with
  | .missingPrice =>
    .corrupt .malformedEntry (.text "Entries must have both the item name and the price") line
      source []
  | .badPrice word =>
    .corrupt .malformedPrice (.text ("Malformed price '" ++ word ++ "'")) line source []
  | .duplicateEntry item => .duplicateEntry (.text item) line source
  | .unsupportedRule rule => .unsupportedRule (.text rule) line source
  | .ambiguousRule rule parsers => .ambiguousRule (.text rule) line parsers source

/-- The report of a settings file. -/
def SettingsDefect.report : SettingsDefect → Report
  | .notFound path => .settings ("Configuration file not found: " ++ path) path
  | .unsupportedFormat suffix path => .settings ("Unsupported config format: " ++ suffix) path
  | .unreadable path => .settings ("Could not parse " ++ path) path
  | .notAMapping path => .settings ("Configuration in " ++ path ++ " must be a mapping") path

/-- The report of a problem. -/
def Problem.report : Problem → Report
  | .blankItem rawName => .blankItem (.text rawName)
  | .unknownItem item => .unknownItem (.text item)
  | .missingDataFile name searched => .missingDataFile (.text name) (.text searched)
  | .settings defect => defect.report
  | .corruptData corruption => corruption.report

/-- The message of a problem. -/
def Problem.message (problem : Problem) : String :=
  problem.report.message.shown

/-- What is told about a fault that nothing takes care of. -/
def Fault.message : Fault → String
  | .problem cause => cause.message
  | .arithmetic .invalidOperation => "Amount without a value"
  | .arithmetic .overflow => "Amount out of range"
  | .divisionByZero => "Division by zero"
  | .unusable message => message
  | .wrongKind => "Value of the wrong kind"
  | .outOfRange => "Number out of range"
  | .tooLarge => "Result too large"
  | .tooDeep => "Nested too deeply"
  | .noDate => "Time without a date"
  | .lacking => "Value without what is asked of it"
  | .unknownName name => "Unknown name: " ++ name
  | .tooShort => "List too short"
  | .closedMark => "Message with a mark that closes nothing"
  | .unencodable => "Text without bytes"
  | .undecodable => "File without text"
  | .longName => "File name too long"
  | .isDirectory => "Directory in place of a file"
  | .fileExists => "File in place of a directory"
  | .notADirectory => "File on the way to another"
  | .extensionFailed => "Extension not loaded"

/-! ## Reports from loose parts -/

namespace Report

/-- The report of a corrupt file with a reason of its own.  Its details have to be a mapping, unless
they count as absent. -/
def ofReason (kind : Kind) (reason line source details : Value) : Except Fault Report :=
  match details with
  | .mapping entries => .ok (corrupt kind reason line source entries)
  | details => if details.isEmpty then .ok (corrupt kind reason line source []) else .error .lacking

/-- The report of a kind that is made up from loose parts.  Parts that can be left out stand at the
end. -/
def ofParts (kind : Kind) (parts : List Value) : Except Fault Report :=
  match kind, parts with
  | .unspecified, [message] | .settings, [message] => .ok (ofMessage kind message .null)
  | .unspecified, [message, details] | .settings, [message, details] =>
    .ok (ofMessage kind message details)
  | .blankItem, [rawName] => .ok (blankItem rawName)
  | .unknownItem, [item] => .ok (unknownItem item)
  | .missingDataFile, [name] => .ok (missingDataFile name .null)
  | .missingDataFile, [name, searched] => .ok (missingDataFile name searched)
  | .corruptData, reason :: line :: rest
  | .malformedEntry, reason :: line :: rest
  | .malformedPrice, reason :: line :: rest =>
    match rest with
    | [] => ofReason kind reason line .null .null
    | [source] => ofReason kind reason line source .null
    | [source, details] => ofReason kind reason line source details
    | _ => .error .wrongKind
  | .duplicateEntry, [item, line] => .ok (duplicateEntry item line .null)
  | .duplicateEntry, [item, line, source] => .ok (duplicateEntry item line source)
  | .unsupportedRule, [rule, line] => .ok (unsupportedRule rule line .null)
  | .unsupportedRule, [rule, line, source] => .ok (unsupportedRule rule line source)
  | .ambiguousRule, [rule, line] => .ok (ambiguousRule rule line [] .null)
  | .ambiguousRule, rule :: line :: parsers :: rest =>
    match parsers.parts?, rest with
    | some parsers, [] => .ok (ambiguousRule rule line parsers .null)
    | some parsers, [source] => .ok (ambiguousRule rule line parsers source)
    | _, _ => .error .wrongKind
  | _, _ => .error .wrongKind

end Report

end Checkout
