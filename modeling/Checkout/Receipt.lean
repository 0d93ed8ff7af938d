import Checkout.Json.Printer
import Checkout.Price

/-!
# Receipts

A price is shown as a receipt of a few lines, or as JSON.  The settings of a shop may set the
currency symbol, the suffix of minor units and the format.
-/

namespace Checkout

namespace Receipt

/-- How receipts are written. -/
structure Layout where
  money : Money.Style := {}
  /-- The format of receipts that are not asked for in a certain one. -/
  format : Value := .text "text"

namespace Layout

/-- The layout that the report section of settings gives.  An absent section, or one that counts as
absent, leaves everything at its default; any other that is not a mapping can not be used. -/
def ofSection : Option Value → Except Fault Layout
  | none => .ok {}
  | some (.mapping entries) =>
    let symbol := (Mapping.get? "currency_symbol" entries).getD (.text "£")
    let minorSuffix := (Mapping.get? "minor_unit_suffix" entries).getD (.text "p")
    let format := (Mapping.get? "format" entries).getD (.text "text")
    .ok { money := { symbol, minorSuffix }, format }
  | some value => if value.isEmpty then .ok {} else .error .lacking

/-- The layout that settings give. -/
def ofSettings (settings : Mapping) : Except Fault Layout :=
  ofSection (Mapping.get? "report" settings)

end Layout

/-- A line of a receipt: what is paid for, and the amount. -/
def line (style : Money.Style) (label : String) (amount : Amount) : Except Fault String := do
  .ok (label ++ ": " ++ (← amount.show style))

/-- The lines of a receipt. -/
def lines (style : Money.Style) (price : Price) : Except Fault (List String) := do
  let first ← line style "Subtotal" price.subtotal
  let offers ←
    if price.offers.isEmpty then pure ["(No offers available)"]
    else price.offers.mapM fun offer => line style offer.1 offer.2
  let last ← line style "Total" price.total
  .ok (first :: offers ++ [last])

/-- A price as lines of text. -/
def text (style : Money.Style) (price : Price) : Except Fault String := do
  .ok ("\n".intercalate (← lines style price))

/-- The amounts of a price as texts. -/
def value (price : Price) : Value :=
  .mapping
    [("subtotal", .text price.subtotal.shown),
     ("offers", .mapping (price.offers.map fun offer => (.text offer.1, .text offer.2.shown))),
     ("total", .text price.total.shown)]

/-- A price as JSON. -/
def json (price : Price) : String :=
  Json.indented (value price)

/-- The format that a receipt is written in: the one asked for, unless it counts as absent. -/
def formatOf (layout : Layout) : Option Value → Value
  | some format => if format.isEmpty then layout.format else format
  | none => layout.format

/-- A price in the format asked for. -/
def render (layout : Layout) (price : Price) (format : Option Value) : Except Fault String :=
  match formatOf layout format with
  | .text "json" => .ok (json price)
  | .text "text" => text layout.money price
  | other => do
    .error (.unusable ("Unsupported report format: " ++ (← other.showing)))

end Receipt

end Checkout
