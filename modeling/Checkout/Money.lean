import Checkout.Decimal.Arithmetic
import Checkout.Decimal.Literal
import Checkout.Decimal.Order
import Checkout.Decimal.Printer
import Checkout.Problem

/-!
# Money

An amount of money is a decimal number with exactly two decimals.  Amounts are rounded half to
even, and an amount read from text must need no rounding.  Amounts below one whole unit are shown
in minor units with a suffix, all others with the currency symbol in front.
-/

namespace Checkout

namespace Money

/-- The power of ten of the last digit of an amount. -/
def place : Int :=
  -2

/-- The number rounded to two decimals. -/
def round (x : Decimal) : Except Decimal.Failure Decimal :=
  x.quantize place

/-- Whether the number is finite and has exactly two decimals. -/
def isMoney (x : Decimal) : Bool :=
  x.exponent? == some place

/-- The amount that a plain literal stands for, with blanks around it allowed.  A literal that is
not exact in two decimals stands for no amount. -/
def read? (text : List Char) : Option Decimal := do
  let literal ← Decimal.Literal.read? (Text.trim text)
  let exact ← literal.toDecimal?
  let amount ← (round exact).toOption
  if Decimal.compare? amount exact == some .eq then some amount else none

/-- How amounts are shown. -/
structure Style where
  /-- What stands in front of an amount of one unit or more. -/
  symbol : Value := .text "£"
  /-- What stands behind an amount in minor units. -/
  minorSuffix : Value := .text "p"

/-- The amount in minor units, as a whole number. -/
def minorUnits : Decimal → Int
  | .finite negative coefficient exponent =>
    Decimal.truncate (.finite negative coefficient (exponent - place))
  | _ => 0

/-- Whether an amount is smaller than one unit and not zero. -/
def isMinor (amount : Decimal) : Except Decimal.Failure Bool := do
  if Decimal.compare? amount (Decimal.ofInt 0) == some .eq then .ok false
  else Decimal.less amount.abs (Decimal.ofInt 1)

/-- The text of an amount that has been rounded to two decimals. -/
def showRounded (style : Style) (amount : Decimal) : Except Fault String := do
  if ← Fault.ofArithmetic (isMinor amount) then
    .ok (Text.Numeral.text (minorUnits amount) ++ (← style.minorSuffix.showing))
  else .ok ((← style.symbol.showing) ++ amount.toText)

/-- The text of an amount, rounded to two decimals first. -/
def «show» (style : Style) (amount : Decimal) : Except Fault String := do
  showRounded style (← Fault.ofArithmetic (round amount))

end Money

end Checkout
