import Checkout.Catalog

/-!
# Baskets

A basket counts the units of each item that a customer adds, in the order in which the items were
first added.  Only items of the shop's catalog go into it.

Offers look at a basket only through the quantity of an item.  That view is a function of its own,
so that an offer can also be asked about quantities that no basket holds.
-/

namespace Checkout

/-- The quantity of every item.  Those of a basket are never negative. -/
abbrev Quantities :=
  ItemId → Int

namespace Quantities

/-- The quantities listed under any spelling of the names.  An item that is not listed has none, and
of two quantities for one item the later counts. -/
def ofNames (listed : List (String × Int)) : Quantities :=
  let counts := Entries.ofList (listed.map fun entry => (normalizeName entry.1, entry.2))
  fun item => (Entries.get? item.name counts).getD 0

end Quantities

/-- What a customer wants to buy. -/
structure Basket where
  catalog : Catalog
  /-- The units of each item, in the order first added. -/
  counts : List (ItemId × Nat)

namespace Basket

/-- A basket with nothing in it. -/
def empty (catalog : Catalog) : Basket :=
  ⟨catalog, []⟩

/-- The units of an item. -/
def count (basket : Basket) (item : ItemId) : Nat :=
  (Entries.get? item basket.counts).getD 0

/-- The basket with one unit more of an item of its catalog. -/
def put (basket : Basket) (item : ItemId) : Basket :=
  { basket with counts := Entries.put item (basket.count item + 1) basket.counts }

/-- The item that a reference adds: one that the catalog has. -/
def accept (basket : Basket) (reference : ItemRef) : Except Problem ItemId := do
  let item ← reference.resolve
  if (basket.catalog.price? item).isSome then .ok item else .error (.unknownItem item.name)

/-- The name of the logger of baskets. -/
def logger : String :=
  "pricebasket.core.basket"

/-- The basket with one unit more of an item.  An item that the catalog does not know leaves the
basket as it is. -/
def add (basket : Basket) (reference : ItemRef) : Logged (ItemId × Basket) :=
  match basket.accept reference with
  | .error problem => Logged.ofOutcome (.error (.problem problem))
  | .ok item => do
    Logged.tell [.debug logger ("Added " ++ item.name ++ " to basket (now " ++
      Text.Numeral.text (basket.count item + 1 : Nat) ++ ")")]
    pure (item, basket.put item)

/-- The quantities that the basket holds. -/
def quantities (basket : Basket) : Quantities :=
  fun item => basket.count item

/-- The units of an item under any spelling of its name. -/
def quantityOf (basket : Basket) (reference : ItemRef) : Except Problem Nat := do
  let item ← reference.resolve
  .ok (basket.count item)

/-- The number of different items. -/
def size (basket : Basket) : Nat :=
  basket.counts.length

def isEmpty (basket : Basket) : Bool :=
  basket.counts.isEmpty

/-- The basket as listings show it. -/
def listed (basket : Basket) : String :=
  let counts := basket.counts.map fun entry =>
    entry.1.name ++ " x" ++ Text.Numeral.text entry.2
  "Basket([" ++ ", ".intercalate counts ++ "])"

end Basket

end Checkout
