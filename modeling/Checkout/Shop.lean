import Checkout.Price

/-!
# The shop

A shop prices any number of baskets against one catalog and one book of offers.  Neither changes
while the shop is open, so what is put into one basket has no effect on another.
-/

namespace Checkout

/-- A catalog with the offers on it. -/
structure Shop where
  catalog : Catalog
  offers : Offer.Book

namespace Shop

/-- A basket for a new customer. -/
def newBasket (shop : Shop) : Basket :=
  .empty shop.catalog

/-- The price of a basket. -/
def price (shop : Shop) (basket : Basket) : Logged Price :=
  Price.ofBasket shop.catalog basket shop.offers

end Shop

/-- The baskets in use in a shop, by name. -/
structure Session where
  shop : Shop
  baskets : List (String × Basket)

namespace Session

/-- A session without baskets. -/
def start (shop : Shop) : Session :=
  ⟨shop, []⟩

/-- The basket of a name; a name that has none gets a new basket. -/
def basket (session : Session) (name : String) : Basket :=
  (Entries.get? name session.baskets).getD session.shop.newBasket

/-- The session with a basket under a name. -/
def put (session : Session) (name : String) (basket : Basket) : Session :=
  { session with baskets := Entries.put name basket session.baskets }

/-- The session with the basket of a name in use. -/
def visit (session : Session) (name : String) : Session :=
  session.put name (session.basket name)

/-- The names of the baskets in use, in order. -/
def names (session : Session) : List String :=
  (session.baskets.map Prod.fst).mergeSort fun first second => decide (first ≤ second)

/-- The session with one unit more of an item in the basket of a name. -/
def add (session : Session) (name : String) (reference : ItemRef) : Logged (ItemId × Session) := do
  let (item, basket) ← (session.basket name).add reference
  pure (item, session.put name basket)

end Session

end Checkout
