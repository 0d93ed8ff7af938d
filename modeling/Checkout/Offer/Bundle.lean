import Checkout.Offer.Discount

/-!
# Bundles

A bundle discounts units of one item for units of another: for every so many units of the required
item, one unit of the discounted item is cheaper by an amount.  Its rule is one line, such as
`Bread 0.40 per 2 Soup`, and is divided at the first place where it can be.
-/

namespace Checkout

/-- An amount off one unit of an item for every `per` units of another. -/
structure Bundle where
  discounted : ItemId
  required : ItemId
  amount : Amount
  per : Int

namespace Bundle

/-- The units of the discounted item that are cheaper. -/
def eligible (bundle : Bundle) (basket : Quantities) : Except Fault Int :=
  if bundle.per = 0 then .error .divisionByZero
  else .ok (min ((basket bundle.required).fdiv bundle.per) (basket bundle.discounted))

/-- A bundle applies to a basket with enough of the required item and some of the discounted one. -/
def isApplicable (bundle : Bundle) (basket : Quantities) : Bool :=
  bundle.per ≤ basket bundle.required && 0 < basket bundle.discounted

/-- What is taken off a basket. -/
def granted (bundle : Bundle) (basket : Quantities) : Except Fault Decimal :=
  if bundle.isApplicable basket then do
    Discount.timesQuantity bundle.amount (← bundle.eligible basket)
  else .ok Decimal.zeroCents

/-- What a receipt calls the bundle. -/
def description (bundle : Bundle) : String :=
  bundle.discounted.title ++ " and " ++ bundle.required.title ++ " bundle"

/-- Whether two bundles take the same off the same item for the same units of the same other. -/
def same (first second : Bundle) : Except Fault Bool :=
  if first.discounted = second.discounted ∧ first.required = second.required then do
    let sameAmounts ← first.amount.same second.amount
    .ok (sameAmounts && first.per == second.per)
  else .ok false

/-! ## The rule of a bundle -/

/-- The four parts of a rule as they are written. -/
structure Form where
  discounted : List Char
  amount : List Char
  per : List Char
  required : List Char
  deriving DecidableEq

/-- The first word of a text that begins with blanks or a word, and what follows it. -/
def takeWord (text : List Char) : List Char × List Char :=
  let start := Text.trimStart text
  (start.takeWhile fun c => !Text.isBlank c, start.dropWhile fun c => !Text.isBlank c)

/-- Whether a word is the one between the amount and the count. -/
def isPer (word : List Char) : Bool :=
  word.map Char.toLower = ['p', 'e', 'r']

/-- The amount, the count and the required item that a text of words goes on with. -/
def readTail? (text : List Char) : Option (List Char × List Char × List Char) :=
  let (amount, afterAmount) := takeWord text
  let (word, afterWord) := takeWord afterAmount
  let (per, afterPer) := takeWord afterWord
  let required := Text.trimStart afterPer
  if Discount.isPointed amount && isPer word && Text.Numeral.isDigits per && !required.isEmpty &&
      !required.contains '\n' then
    some (amount, per, required)
  else none

/-- The first division of a line into the four parts, where `before` is what stands in front, last
character first.  The discounted item is on one line and ends in front of a blank. -/
def divide? (before : List Char) : List Char → Option Form
  | [] => none
  | c :: rest =>
    if !before.isEmpty && Text.isBlank c then
      match readTail? (c :: rest) with
      | some (amount, per, required) => some ⟨before.reverse, amount, per, required⟩
      | none => if c = '\n' then none else divide? (c :: before) rest
    else if c = '\n' then none
    else divide? (c :: before) rest

/-- The four parts of the rule that a line writes. -/
def readForm? (line : List Char) : Option Form :=
  divide? [] (Text.trim line)

/-- Why a line of the right form is no rule. -/
inductive Rejection
  | unknownItem
  | badAmount
  | badCount

/-- The number of units that a run of digits writes, if it can be read and is not zero. -/
def readCount? (digits : List Char) : Option Nat :=
  (Text.Numeral.bounded? digits).filter (· ≠ 0)

/-- The bundle that four parts write, or why there is none. -/
def ofForm (catalog : Catalog) (form : Form) : Except Rejection Bundle :=
  let item? (name : List Char) := ItemId.ofName? (String.ofList name)
  match item? form.discounted, item? form.required with
  | some discounted, some required =>
    match catalog.price? discounted, catalog.price? required with
    | some price, some _ =>
      match Money.read? form.amount with
      | some amount =>
        if Decimal.compare? amount price = some .gt then .error .badAmount
        else
          match readCount? form.per with
          | some per => .ok { discounted, required, amount, per }
          | none => .error .badCount
      | none => .error .badAmount
    | _, _ => .error .unknownItem
  | _, _ => .error .unknownItem

/-- The bundle that a line writes, or why it writes none although it has the form of one. -/
def judge (catalog : Catalog) (line : List Char) : Option (Except Rejection Bundle) :=
  (readForm? line).map (ofForm catalog)

/-- The bundle that a line is the rule of. -/
def read? (catalog : Catalog) (line : List Char) : Option Bundle :=
  (judge catalog line).bind Except.toOption

/-- The name of the logger of bundles. -/
def logger : String :=
  "pricebasket.offers.bundle"

/-- What the journal says of a line that is not accepted. -/
def Rejection.remark? (line : List Char) : Rejection → Option String
  | .unknownItem => some ("Bundle rule '" ++ String.ofList line ++ "' names an unknown item")
  | .badAmount => some ("Bundle rule '" ++ String.ofList line ++ "' has an invalid amount")
  | .badCount => none

/-- The records of reading a line. -/
def records (catalog : Catalog) (line : List Char) : List Journal.Record :=
  match judge catalog line with
  | some (.error rejection) => (rejection.remark? line).toList.map (.debug logger)
  | _ => []

end Bundle

end Checkout
