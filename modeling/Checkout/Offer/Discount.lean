import Checkout.Basket

/-!
# Discounts

A discount takes something off every unit of one item: a whole percentage of its unit price, or an
amount.  Its rule is one line, the item followed by the discount, such as `Apples 10%` or
`Milk 0.25`.
-/

namespace Checkout

/-- Something taken off every unit of an item.  A percentage goes before an amount. -/
structure Discount where
  /-- Where the unit price of the item is looked up. -/
  catalog : Catalog
  item : ItemId
  amount : Option Amount
  percentage : Option Int

namespace Discount

/-- Whether a percentage of the price is taken off. -/
def isPercentage (discount : Discount) : Bool :=
  discount.percentage.isSome

/-- The percentage of a price, rounded to two decimals. -/
def percentageOf (percentage : Int) (price : Decimal) : Except Decimal.Failure Decimal := do
  Money.round (← Decimal.hundredth (← Decimal.mul price (Decimal.ofInt percentage)))

/-- What is taken off one unit; there may be nothing set. -/
def perUnit (discount : Discount) : Except Fault (Option Amount) :=
  match discount.percentage with
  | none => .ok discount.amount
  | some percentage =>
    match discount.catalog.price? discount.item with
    | none => .error .wrongKind
    | some price =>
      (Fault.ofArithmetic (percentageOf percentage price)).map fun part => some (.decimal part)

/-- A discount applies to a basket that holds its item. -/
def isApplicable (discount : Discount) (basket : Quantities) : Bool :=
  0 < basket discount.item

/-- An amount times a quantity, rounded to two decimals. -/
def timesQuantity (amount : Amount) (quantity : Int) : Except Fault Decimal := do
  Fault.ofArithmetic (Money.round (← amount.times quantity))

/-- What is taken off a basket. -/
def granted (discount : Discount) (basket : Quantities) : Except Fault Decimal :=
  if discount.isApplicable basket then do
    match ← discount.perUnit with
    | none => .error .wrongKind
    | some amount => timesQuantity amount (basket discount.item)
  else .ok Decimal.zeroCents

/-- What a receipt calls the discount. -/
def description (discount : Discount) : Except Fault String :=
  match discount.percentage, discount.amount with
  | some percentage, _ =>
    .ok (discount.item.title ++ " " ++ Text.Numeral.text percentage ++ "% off")
  | none, some amount => do
    let shown ← amount.show {}
    .ok (discount.item.title ++ " " ++ shown ++ " off")
  | none, none => .error .wrongKind

/-- Whether two amounts that may be missing are equal in value. -/
def sameAmount : Option Amount → Option Amount → Except Fault Bool
  | some first, some second => first.same second
  | none, none => .ok true
  | _, _ => .ok false

/-- Whether two discounts take the same off the same item. -/
def same (first second : Discount) : Except Fault Bool :=
  if first.item = second.item then do
    let sameAmounts ← sameAmount first.amount second.amount
    .ok (sameAmounts && first.percentage == second.percentage)
  else .ok false

/-! ## The rule of a discount -/

/-- The text in front of the last word of a line, without the blanks between them, and that word. -/
def splitLast (line : List Char) : List Char × List Char :=
  let reversed := line.reverse
  (Text.trimEnd (reversed.dropWhile fun c => !Text.isBlank c).reverse,
   (reversed.takeWhile fun c => !Text.isBlank c).reverse)

/-- What a rule takes off. -/
inductive Reduction
  /-- A percentage, by its digits. -/
  | percentage (digits : List Char)
  | amount (literal : List Char)
  deriving DecidableEq

/-- Whether the text is digits, a point and digits. -/
def isPointed (text : List Char) : Bool :=
  match text.dropWhile Char.isDigit with
  | '.' :: fraction =>
    Text.Numeral.isDigits (text.takeWhile Char.isDigit) && Text.Numeral.isDigits fraction
  | _ => false

/-- The reduction that a word writes: digits and a percent sign, or digits with a point between
them. -/
def Reduction.ofWord? (word : List Char) : Option Reduction :=
  if isPointed word then some (.amount word)
  else if word.getLast? = some '%' ∧ Text.Numeral.isDigits word.dropLast then
    some (.percentage word.dropLast)
  else none

/-- The item and the reduction that a line writes.  The item stands on one line. -/
def readForm? (line : List Char) : Option (List Char × Reduction) := do
  let (item, word) := splitLast (Text.trim line)
  let reduction ← Reduction.ofWord? word
  if item.isEmpty || item.contains '\n' then none else some (item, reduction)

/-- Why a line of the right form is no rule. -/
inductive Rejection
  | unknownItem (item : ItemId)
  | badPercentage
  | badAmount

/-- The discount that a reduction gives on an item of the catalog. -/
def ofReduction (catalog : Catalog) (item : ItemId) (price : Decimal) :
    Reduction → Except Rejection Discount
  | .percentage digits =>
    match Text.Numeral.bounded? digits with
    | some percentage =>
      if percentage ≤ 100 then
        .ok { catalog, item, amount := none, percentage := some percentage }
      else .error .badPercentage
    | none => .error .badPercentage
  | .amount literal =>
    match Money.read? literal with
    | some amount =>
      if Decimal.compare? amount price = some .gt then .error .badAmount
      else .ok { catalog, item, amount := some (.decimal amount), percentage := none }
    | none => .error .badAmount

/-- The discount that an item name and a reduction write, or why there is none. -/
def ofForm (catalog : Catalog) (name : List Char) (reduction : Reduction) :
    Option (Except Rejection Discount) :=
  (ItemId.ofName? (String.ofList name)).map fun item =>
    match catalog.price? item with
    | none => .error (.unknownItem item)
    | some price => ofReduction catalog item price reduction

/-- The discount that a line writes, or why it writes none although it has the form of one. -/
def judge (catalog : Catalog) (line : List Char) : Option (Except Rejection Discount) := do
  let (name, reduction) ← readForm? line
  ofForm catalog name reduction

/-- The discount that a line is the rule of. -/
def read? (catalog : Catalog) (line : List Char) : Option Discount :=
  (judge catalog line).bind Except.toOption

/-- The name of the logger of discounts. -/
def logger : String :=
  "pricebasket.offers.discount"

/-- What the journal says of a line that is not accepted. -/
def Rejection.remark? (line : List Char) : Rejection → Option String
  | .unknownItem item =>
    some ("Discount rule '" ++ String.ofList line ++ "' names unknown item " ++ item.name)
  | .badPercentage => none
  | .badAmount => some ("Discount rule '" ++ String.ofList line ++ "' has an invalid amount")

/-- The records of reading a line. -/
def records (catalog : Catalog) (line : List Char) : List Journal.Record :=
  match judge catalog line with
  | some (.error rejection) => (rejection.remark? line).toList.map (.debug logger)
  | _ => []

end Discount

end Checkout
