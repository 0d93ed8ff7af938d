import Checkout.DataFile.Line
import Checkout.Offer.Parser

/-!
# The book of offers

The book holds the rules of all special offers in order.  It is read from a data file in which each
line of data is a rule that exactly one parser accepts; the first line that none or several accept
makes the whole file invalid.  Rules that share a description are counted, since their discounts
will be combined on a receipt.
-/

namespace Checkout

namespace Offer

/-- The rules of all special offers. -/
structure Book where
  rules : List Rule

namespace Book

/-- The name of the logger of books. -/
def logger : String :=
  "pricebasket.offers.package"

/-! ## From rules -/

/-- How often each text stands in a list, in the order of first occurrence. -/
def tally (texts : List String) : List (String × Nat) :=
  texts.foldl (fun counts text =>
    Entries.put text ((Entries.get? text counts).getD 0 + 1) counts) []

/-- The warning about a description that several rules share. -/
def sharedRecord (description : String) (count : Nat) : Journal.Record :=
  .warning logger (Text.Numeral.text count ++ " offer rules share the description '" ++
    description ++ "'; their discounts will be combined")

/-- The warnings about shared descriptions. -/
def sharedRecords (descriptions : List String) : List Journal.Record :=
  (tally descriptions).filterMap fun entry =>
    if 1 < entry.2 then some (sharedRecord entry.1 entry.2) else none

/-- The book of given rules. -/
def ofRules (rules : List Rule) : Logged Book := do
  let descriptions ← Logged.ofOutcome (rules.mapM Rule.description)
  Logged.tell (sharedRecords descriptions)
  pure ⟨rules⟩

/-! ## From a data file -/

/-- The parsers that accept a line, each with the rule it reads.  All parsers are tried, one after
another. -/
def readings (catalog : Catalog) (line : List Char) : List Parser → Logged (List (Parser × Rule))
  | [] => pure []
  | parser :: rest => do
    Logged.tell (parser.records catalog line)
    let rule? ← Logged.ofOutcome (parser.parse catalog line)
    let others ← readings catalog line rest
    pure (rule?.toList.map (fun rule => (parser, rule)) ++ others)

/-- The only one of the readings of a line, or the defect of the line. -/
def onlyReading (line : List Char) : List (Parser × Rule) → Except Defect (Parser × Rule)
  | [reading] => .ok reading
  | [] => .error (.unsupportedRule (String.ofList line))
  | several =>
    .error (.ambiguousRule (String.ofList line) (several.map fun reading => reading.1.label))

/-- The record of an accepted rule. -/
def acceptedRecord (line : DataFile.Line) (parser : Parser) (description : String) :
    Journal.Record :=
  .debug logger ("Line " ++ Text.Numeral.text line.number ++ " parsed by " ++
    parser.label.shown ++ ": " ++ description)

/-- The rules of data lines, up to the first defect. -/
def readLines (parsers : List Parser) (catalog : Catalog) (source : Option String) :
    List DataFile.Line → Logged (List Rule)
  | [] => pure []
  | line :: rest => do
    let found ← readings catalog line.text parsers
    match onlyReading line.text found with
    | .error defect =>
      Logged.ofOutcome (.error (.problem (.corruptData ⟨defect, line.number, source⟩)))
    | .ok (parser, rule) => do
      let description ← Logged.ofOutcome rule.description
      Logged.tell [acceptedRecord line parser description]
      let rules ← readLines parsers catalog source rest
      pure (rule :: rules)

/-- The book that the lines of a data file hold. -/
def ofLines (parsers : List Parser) (catalog : Catalog) (source : Option String)
    (lines : List DataFile.Line) : Logged Book := do
  let rules ← readLines parsers catalog source (DataFile.dataLines lines)
  ofRules rules

/-- The book that a text holds. -/
def ofText (parsers : List Parser) (catalog : Catalog) (source : Option String) (text : String) :
    Logged Book :=
  ofLines parsers catalog source (DataFile.linesOf text.toList)

/-! ## Asking the book -/

/-- The number of rules. -/
def size (book : Book) : Nat :=
  book.rules.length

/-- The rules that apply to a basket, in order. -/
def applicable (book : Book) (basket : Quantities) : List Rule :=
  book.rules.filter (·.isApplicable basket)

/-- The descriptions of all rules, in order. -/
def descriptions (book : Book) : Except Fault (List String) :=
  book.rules.mapM Rule.description

/-- The book as listings show it. -/
def listed (book : Book) : Except Fault String := do
  let shown := (← book.descriptions).map Text.quoted
  .ok ("OfferPackage([" ++ ", ".intercalate shown ++ "])")

end Book

end Offer

end Checkout
