import Checkout.Offer.Bundle

/-!
# Offer rules

A rule says which baskets an offer applies to and what it takes off them.  Discounts and bundles
are built in; the set is open, and a custom rule answers the same three questions in its own way.
A rule is known to receipts by its description.
-/

namespace Checkout

/-- A rule with answers of its own. -/
structure CustomRule where
  description : String
  isApplicable : Quantities → Bool
  granted : Quantities → Amount

/-- A rule of how to apply a special offer. -/
inductive Rule
  | discount (discount : Discount)
  | bundle (bundle : Bundle)
  | custom (rule : CustomRule)

namespace Rule

/-- What a receipt calls the offer. -/
def description : Rule → Except Fault String
  | .discount offer => offer.description
  | .bundle offer => .ok offer.description
  | .custom rule => .ok rule.description

/-- Whether the offer applies to a basket. -/
def isApplicable (rule : Rule) (basket : Quantities) : Bool :=
  match rule with
  | .discount offer => offer.isApplicable basket
  | .bundle offer => offer.isApplicable basket
  | .custom rule => rule.isApplicable basket

/-- What the offer takes off a basket. -/
def granted (rule : Rule) (basket : Quantities) : Except Fault Amount :=
  match rule with
  | .discount offer => (offer.granted basket).map .decimal
  | .bundle offer => (offer.granted basket).map .decimal
  | .custom rule => .ok (rule.granted basket)

/-- Whether two rules made apart from each other are equal.  A custom rule is equal to no other. -/
def same : Rule → Rule → Except Fault Bool
  | .discount first, .discount second => first.same second
  | .bundle first, .bundle second => first.same second
  | _, _ => .ok false

end Rule

end Checkout
