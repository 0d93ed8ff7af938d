import Checkout.Offer.Rule

/-!
# Parsers of offer rules

A parser reads one kind of rule from one line of text and returns nothing for a line of any other
kind.  Two parsers are built in and never fail; a custom parser reads lines in its own way, and may
go by a name that is any plain value.
-/

namespace Checkout

/-- A parser of an extension. -/
structure CustomParser where
  /-- The name that the parser goes by, if it has one. -/
  name? : Option Value
  /-- The name of the parser's kind. -/
  kind : String
  parse : Catalog → List Char → Except Fault (Option Rule)

/-- A reader of one kind of rule. -/
inductive Parser
  | discount
  | bundle
  | custom (parser : CustomParser)

namespace Parser

/-- The parsers that are always there. -/
def builtIn : List Parser :=
  [.discount, .bundle]

/-- The name that the parser goes by, if it has one. -/
def name? : Parser → Option Value
  | .discount => some (.text "discount")
  | .bundle => some (.text "bundle")
  | .custom parser => parser.name?

/-- The name of the parser's kind. -/
def kind : Parser → String
  | .discount => "DiscountOfferParser"
  | .bundle => "BundleOfferParser"
  | .custom parser => parser.kind

/-- What the parser is called where it has to be told from others. -/
def label (parser : Parser) : Value :=
  parser.name?.getD (.text parser.kind)

/-- The rule that a line is, if the parser accepts it. -/
def parse (parser : Parser) (catalog : Catalog) (line : List Char) :
    Except Fault (Option Rule) :=
  match parser with
  | .discount => .ok ((Discount.read? catalog line).map .discount)
  | .bundle => .ok ((Bundle.read? catalog line).map .bundle)
  | .custom parser => parser.parse catalog line

/-- The records of parsing a line. -/
def records (parser : Parser) (catalog : Catalog) (line : List Char) : List Journal.Record :=
  match parser with
  | .discount => Discount.records catalog line
  | .bundle => Bundle.records catalog line
  | .custom _ => []

end Parser

end Checkout
