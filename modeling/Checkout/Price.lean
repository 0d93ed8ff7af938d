import Checkout.Offer.Book

/-!
# Prices

The price of a basket is its subtotal, what each applied offer takes off, and the total, which is
never below zero.  Offers that share a description are combined under it.  All sums are worked out
by adding one amount after another, and a result that can not be kept to two decimals fails, so
a price that is returned has lost no digit.

The amounts of a price that was worked out are decimal numbers.  A price can also be put together
from amounts of a caller, which are kept as they are.
-/

namespace Checkout

/-- The result of pricing a basket. -/
structure Price where
  subtotal : Amount
  total : Amount
  /-- What each applied offer takes off, by description, in the order of the descriptions. -/
  offers : List (String × Amount)

namespace Price

/-- Descriptions with their amounts in the order of the descriptions, code point by code point. -/
def sortOffers (offers : List (String × Amount)) : List (String × Amount) :=
  offers.mergeSort fun first second => decide (first.1 ≤ second.1)

/-- The price with given parts.  Of two amounts for one description the later counts. -/
def ofParts (subtotal total : Amount) (offers : List (String × Amount)) : Price :=
  ⟨subtotal, total, sortOffers (Entries.ofList offers)⟩

/-- The sum of what all offers take off, with two decimals. -/
def discount (price : Price) : Except Fault Decimal := do
  let exact ← Amount.sumFrom Decimal.zeroCents (price.offers.map Prod.snd)
  Fault.ofArithmetic (Money.round exact)

/-! ## Equality -/

/-- Whether every description of the first list has an equal amount in the second. -/
def offersWithin (first second : List (String × Amount)) : Except Fault Bool :=
  match first with
  | [] => .ok true
  | (description, amount) :: rest =>
    match Entries.get? description second with
    | none => .ok false
    | some other => do
      if ← amount.same other then offersWithin rest second else .ok false

/-- Whether two prices made apart from each other are equal: by value, whatever their powers of
ten. -/
def same (first second : Price) : Except Fault Bool := do
  if ← first.subtotal.same second.subtotal then
    if ← first.total.same second.total then
      if first.offers.length = second.offers.length then offersWithin first.offers second.offers
      else .ok false
    else .ok false
  else .ok false

/-- Whether a price is equal to itself, which one with an undefined amount is not.  What the offers
take off is the same in any case. -/
def sameAsItself (price : Price) : Except Fault Bool := do
  if ← price.subtotal.same price.subtotal then price.total.same price.total else .ok false

/-- What a price is filed under: the marks of its amounts in order, with the descriptions. -/
structure Mark where
  subtotal : Amount.Mark
  total : Amount.Mark
  offers : List (String × Amount.Mark)
  deriving DecidableEq

/-- The marks of offers; there are none if one of the amounts shares its mark with nothing. -/
def offerMarks? : List (String × Amount) → Except Fault (Option (List (String × Amount.Mark)))
  | [] => .ok (some [])
  | (description, amount) :: rest => do
    let first ← amount.mark?
    let others ← offerMarks? rest
    .ok (first.bind fun mark => others.map fun marks => (description, mark) :: marks)

/-- What a price is filed under in a table, if another price could share it. -/
def mark? (price : Price) : Except Fault (Option Mark) := do
  let subtotal ← price.subtotal.mark?
  let total ← price.total.mark?
  let offers ← offerMarks? price.offers
  .ok (subtotal.bind fun subtotal => total.bind fun total => offers.map fun offers =>
    { subtotal, total, offers })

/-- Whether two prices made apart from each other are filed under the same mark. -/
def sharesMark (first second : Price) : Except Fault Bool := do
  let firstMark ← first.mark?
  let secondMark ← second.mark?
  .ok (firstMark.isSome && firstMark = secondMark)

/-! ## Pricing -/

/-- The name of the logger of pricing. -/
def logger : String :=
  "pricebasket.core.pricing"

/-- The price of some units of an item of the catalog. -/
def lineAmount (catalog : Catalog) (item : ItemId) (count : Nat) : Except Fault Decimal :=
  match catalog.price? item with
  | none => .error .wrongKind
  | some price => Fault.ofArithmetic (Decimal.mul price (Decimal.ofInt count))

/-- The prices of all counted items added onto a first amount. -/
def subtotalFrom (catalog : Catalog) (start : Decimal) : List (ItemId × Nat) → Except Fault Decimal
  | [] => .ok start
  | (item, count) :: rest => do
    let amount ← lineAmount catalog item count
    let next ← Fault.ofArithmetic (Decimal.add start amount)
    subtotalFrom catalog next rest

/-- The price of what a basket holds, before any offer. -/
def subtotalOf (catalog : Catalog) (basket : Basket) : Except Fault Decimal := do
  let exact ← subtotalFrom catalog Decimal.zeroCents basket.counts
  Fault.ofArithmetic (Money.round exact)

/-- What a rule takes off a basket, with the description it is granted under. -/
def grant (basket : Quantities) (rule : Rule) : Except Fault (String × Amount) := do
  let amount ← rule.granted basket
  .ok (← rule.description, amount)

/-- The amounts by description with another amount combined under its description. -/
def combine (combined : List (String × Decimal)) (description : String) (amount : Amount) :
    Except Fault (List (String × Decimal)) := do
  let next ← amount.addTo ((Entries.get? description combined).getD Decimal.zeroCents)
  .ok (Entries.put description next combined)

/-- The record of an applied offer. -/
def appliedRecord (description : String) (amount : Amount) : Journal.Record :=
  .debug logger ("Applied offer '" ++ description ++ "': " ++ amount.shown)

/-- What the rules take off a basket, combined by description onto what earlier ones took off. -/
def combineAll (basket : Quantities) (combined : List (String × Decimal)) :
    List Rule → Logged (List (String × Decimal))
  | [] => pure combined
  | rule :: rest => do
    let (description, amount) ← Logged.ofOutcome (grant basket rule)
    let next ← Logged.ofOutcome (combine combined description amount)
    Logged.tell [appliedRecord description amount]
    combineAll basket next rest

/-- The subtotal less all amounts, but not below zero. -/
def totalOf (subtotal : Decimal) (amounts : List Decimal) : Except Decimal.Failure Decimal := do
  let taken ← Decimal.sumFrom Decimal.zeroCents amounts
  let left ← Decimal.sub subtotal taken
  Money.round (← Decimal.larger left Decimal.zeroCents)

/-- The record of a priced basket. -/
def pricedRecord (price : Price) (discount : Decimal) : Journal.Record :=
  .debug logger ("Priced basket: subtotal " ++ price.subtotal.shown ++ ", discount " ++
    discount.toText ++ ", total " ++ price.total.shown)

/-- The price of amounts that are decimal numbers. -/
def ofDecimals (subtotal total : Decimal) (offers : List (String × Decimal)) : Price :=
  ofParts subtotal total (offers.map fun offer => (offer.1, .decimal offer.2))

/-- The price of a basket by a catalog and a book of offers. -/
def ofBasket (catalog : Catalog) (basket : Basket) (book : Offer.Book) : Logged Price := do
  let subtotal ← Logged.ofOutcome (subtotalOf catalog basket)
  let offers ← combineAll basket.quantities [] (book.applicable basket.quantities)
  let total ← Logged.ofOutcome (Fault.ofArithmetic (totalOf subtotal (offers.map Prod.snd)))
  let price := ofDecimals subtotal total offers
  let discount ← Logged.ofOutcome price.discount
  Logged.tell [pricedRecord price discount]
  pure price

end Price

end Checkout
