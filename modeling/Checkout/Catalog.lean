import Checkout.Amount
import Checkout.DataFile.Line
import Checkout.Item
import Checkout.Journal.Record

/-!
# The catalog

A catalog holds every item of the shop once, with its unit price.  It is read from a data file in
which each line of data is an entry: the words of the item name followed by the price.  The
first entry that is not in order makes the whole file invalid.

A price is an amount of two decimals that is not below zero.  Both facts, and that no item stands
twice, are part of the type.
-/

namespace Checkout

namespace Catalog

/-- Whether a number can be a unit price. -/
def isPrice (price : Decimal) : Bool :=
  Money.isMoney price && Decimal.compare? price Decimal.zeroCents != some .lt

end Catalog

/-- The items of the shop with their unit prices, in the order of their entries. -/
structure Catalog where
  entries : List (ItemId × Decimal)
  /-- Every item has one entry. -/
  distinct : (entries.map Prod.fst).Nodup
  /-- Every price is one. -/
  priced : ∀ entry ∈ entries, Catalog.isPrice entry.2 = true

namespace Catalog

/-- The catalog without entries. -/
def empty : Catalog :=
  ⟨[], List.nodup_nil, by simp⟩

/-- The number of items. -/
def size (catalog : Catalog) : Nat :=
  catalog.entries.length

/-- The items in the order of their entries. -/
def items (catalog : Catalog) : List ItemId :=
  catalog.entries.map Prod.fst

/-- The unit price of an item, if the catalog has it. -/
def price? (catalog : Catalog) (item : ItemId) : Option Decimal :=
  Entries.get? item catalog.entries

/-- The unit price of an item under any spelling of its name. -/
def priceOf? (catalog : Catalog) (reference : ItemRef) : Option Decimal :=
  reference.resolve.toOption.bind catalog.price?

/-- Whether the catalog has an item under any spelling of its name. -/
def contains (catalog : Catalog) (reference : ItemRef) : Bool :=
  (catalog.priceOf? reference).isSome

/-- The catalog with one more entry at the end. -/
def add (catalog : Catalog) (item : ItemId) (price : Decimal) (isNew : item ∉ catalog.items)
    (isPriced : isPrice price = true) : Catalog where
  entries := catalog.entries ++ [(item, price)]
  distinct := by
    rw [List.map_append, List.nodup_append]
    refine ⟨catalog.distinct, by simp, ?_⟩
    intro known isKnown other isOther same
    simp only [List.map_cons, List.map_nil, List.mem_singleton] at isOther
    subst same isOther
    exact isNew isKnown
  priced := by
    intro entry isEntry
    rcases List.mem_append.mp isEntry with old | new
    · exact catalog.priced entry old
    · rw [List.mem_singleton.mp new]
      exact isPriced

/-- The catalog as listings show it. -/
def listed (catalog : Catalog) : String :=
  let entries := catalog.entries.map fun entry => entry.1.name ++ ": " ++ entry.2.toText
  "Catalog(\x7b" ++ ", ".intercalate entries ++ "\x7d)"

/-! ## From entries -/

/-- The catalog with an entry from a caller added, or why it can not be. -/
def addEntry (catalog : Catalog) (reference : ItemRef) (price : Amount) : Except Fault Catalog := do
  let item ← reference.resolve.mapError Fault.problem
  if isNew : item ∉ catalog.items then
    let invalid : Fault := .unusable ("Invalid price for " ++ item.name ++ ": " ++ price.listed)
    match price with
    | .decimal price =>
      if isPriced : isPrice price = true then .ok (catalog.add item price isNew isPriced)
      else .error invalid
    | .plain _ => .error invalid
  else .error (.unusable ("Duplicate entry found for " ++ item.name))

/-- The entries from a caller added one after another. -/
def addEntries (catalog : Catalog) : List (ItemRef × Amount) → Except Fault Catalog
  | [] => .ok catalog
  | (reference, price) :: rest => do
    let extended ← catalog.addEntry reference price
    extended.addEntries rest

/-- The catalog of given prices.  A later price for the same reference replaces an earlier one,
while two spellings of one item are a duplicate. -/
def ofPrices (prices : List (ItemRef × Amount)) : Except Fault Catalog :=
  empty.addEntries (Entries.ofList prices)

/-! ## From a data file -/

/-- The unit price that a word writes. -/
def readPrice? (word : List Char) : Option { price : Decimal // isPrice price = true } := do
  let amount ← Money.read? word
  if priced : isPrice amount = true then some ⟨amount, priced⟩ else none

/-- The words of the item name and the word of the price.  The last word is the price, and at least
one word stands before it. -/
def splitWords? (words : List (List Char)) : Option (List (List Char) × List Char) :=
  match words.reverse with
  | price :: last :: others => some ((last :: others).reverse, price)
  | _ => none

/-- The entry that the words of a line write. -/
def readEntry (words : List (List Char)) :
    Except Defect (ItemId × { price : Decimal // isPrice price = true }) :=
  match splitWords? words with
  | none => .error .missingPrice
  | some (name, word) =>
    match readPrice? word with
    | none => .error (.badPrice (String.ofList word))
    | some price =>
      match ItemId.ofName? (String.ofList (Text.unwords name)) with
      | none => .error .missingPrice
      | some item => .ok (item, price)

/-- The catalog with the entry of a line added, or the defect of that line. -/
def addLine (catalog : Catalog) (line : DataFile.Line) :
    Except Defect (ItemId × Decimal × Catalog) := do
  let (item, price) ← readEntry (Text.words line.text)
  if isNew : item ∉ catalog.items then
    .ok (item, price.val, catalog.add item price.val isNew price.property)
  else .error (.duplicateEntry item.name)

/-- The name of the logger of catalogs. -/
def logger : String :=
  "pricebasket.core.catalog"

/-- The record of an accepted entry. -/
def entryRecord (item : ItemId) (price : Decimal) (line : DataFile.Line) : Journal.Record :=
  .debug logger ("Catalog entry " ++ item.name ++ " = " ++ price.toText ++ " (line " ++
    Text.Numeral.text line.number ++ ")")

/-- The entries of data lines added one after another, up to the first defect. -/
def addLines (source : Option String) (catalog : Catalog) : List DataFile.Line → Logged Catalog
  | [] => pure catalog
  | line :: rest =>
    match catalog.addLine line with
    | .error defect =>
      Logged.ofOutcome (.error (.problem (.corruptData ⟨defect, line.number, source⟩)))
    | .ok (item, price, extended) => do
      Logged.tell [entryRecord item price line]
      extended.addLines source rest

/-- The catalog that the lines of a data file hold. -/
def ofLines (source : Option String) (lines : List DataFile.Line) : Logged Catalog :=
  empty.addLines source (DataFile.dataLines lines)

/-- The catalog that a text holds. -/
def ofText (source : Option String) (text : String) : Logged Catalog :=
  ofLines source (DataFile.linesOf text.toList)

end Catalog

end Checkout
