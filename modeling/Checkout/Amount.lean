import Checkout.Money
import Checkout.Problem

/-!
# Amounts from callers

Where a caller hands an amount over it is a decimal number as a rule, but any plain value is taken
and kept as it is.  What a plain value is good for shows only when it is used: whole numbers and
truth values count in sums and products, and a text or a list of parts can be read as a number.
-/

namespace Checkout

/-- An amount as a caller hands it over: a decimal number, or a plain value that may still stand
for one. -/
inductive Amount
  | decimal (value : Decimal)
  | plain (value : Value)

instance : Coe Decimal Amount :=
  ⟨.decimal⟩

namespace Amount

/-! ## Numbers from parts -/

/-- The most items that a list or text can have at all, and the largest number of 64 binary digits,
one of which is the sign. -/
def mostItems : Int :=
  9_223_372_036_854_775_807

/-- Whether a whole number fits 64 binary digits. -/
def isBounded (number : Int) : Bool :=
  -mostItems - 1 ≤ number && number ≤ mostItems

/-- The whole number that a value is, which has to fit 64 binary digits. -/
def bounded (refusal : Fault) (value : Value) : Except Fault Int :=
  match value.whole? with
  | none => .error refusal
  | some number => if isBounded number then .ok number else .error .outOfRange

/-- The sign of a number from its parts. -/
def signPart (part : Value) : Except Fault Bool := do
  let refusal : Fault := .unusable "sign must be an integer with the value 0 or 1"
  let sign ← bounded refusal part
  if sign = 0 then .ok false else if sign = 1 then .ok true else .error refusal

/-- What the third part of a number says. -/
inductive Scale
  /-- The power of ten of the last digit. -/
  | power (exponent : Int)
  | infinite
  | undefined (signalling : Bool)

/-- The third part of a number. -/
def scalePart : Value → Except Fault Scale
  | .text "F" => .ok .infinite
  | .text "n" => .ok (.undefined false)
  | .text "N" => .ok (.undefined true)
  | .text _ =>
    .error (.unusable "string argument in the third position must be 'F', 'n' or 'N'")
  | part => (bounded (.unusable "exponent must be an integer") part).map .power

/-- The fault of a second part that is no list of digits. -/
def noDigits : Fault :=
  .unusable "coefficient must be a tuple of digits"

/-- The number that digits write, put behind those of another. -/
def digitsFrom (before : Nat) : List Value → Except Fault Nat
  | [] => .ok before
  | part :: rest => do
    let digit ← bounded noDigits part
    if 0 ≤ digit ∧ digit ≤ 9 then digitsFrom (10 * before + digit.toNat) rest
    else .error noDigits

/-- The second part of a number: the list of its digits. -/
def coefficientPart : Value → Except Fault Nat
  | .list digits => digitsFrom 0 digits
  | _ => .error noDigits

/-- The number with a sign, a scale and a coefficient. -/
def assemble (negative : Bool) (scale : Scale) (coefficient : Nat) : Except Fault Decimal :=
  match scale with
  | .infinite => .ok (.infinite negative)
  | .undefined signalling => .ok (.undefined negative signalling coefficient)
  | .power exponent =>
    match Decimal.Literal.toDecimal? { negative, coefficient, exponent } with
    | some number => .ok number
    | none => .error (.arithmetic .invalidOperation)

/-- The number whose sign, digits and scale are listed. -/
def ofParts : List Value → Except Fault Decimal
  | [sign, digits, scale] => do
    let negative ← signPart sign
    let scale ← scalePart scale
    let coefficient ← coefficientPart digits
    assemble negative scale coefficient
  | _ => .error (.unusable "argument must be a sequence of length 3")

/-! ## As a number -/

/-- The decimal number that an amount stands for.  Truth values count as zero and one, a text is
read as a number, and a list gives its parts. -/
def toDecimal : Amount → Except Fault Decimal
  | .decimal value => .ok value
  | .plain (.whole value) => .ok (Decimal.ofInt value)
  | .plain (.flag value) => .ok (Decimal.ofInt value.toNat)
  | .plain (.fraction value) => .ok value.toDecimal
  | .plain (.text value) => Fault.ofArithmetic (Decimal.ofText value.toList)
  | .plain (.list parts) => ofParts parts
  | .plain _ => .error .wrongKind

/-- The number that an amount counts as in sums, where only decimal and whole numbers count. -/
def number? : Amount → Option Decimal
  | .decimal value => some value
  | .plain value => value.whole?.map Decimal.ofInt

/-- The number that an amount counts as in comparisons, where texts and lists do not count as
any. -/
def comparable? : Amount → Option Decimal
  | .plain (.fraction value) => some value.toDecimal
  | amount => amount.number?

/-- The amount rounded to two decimals. -/
def round (amount : Amount) : Except Fault Decimal := do
  Fault.ofArithmetic (Money.round (← amount.toDecimal))

/-- Whether the amount has exactly two decimals; the question only makes sense for a decimal
number. -/
def isMoney : Amount → Except Fault Bool
  | .decimal value => .ok (Money.isMoney value)
  | .plain _ => .error .lacking

/-! ## Sums and products -/

/-- A number with an amount added. -/
def addTo (sum : Decimal) (amount : Amount) : Except Fault Decimal :=
  match amount.number? with
  | some number => Fault.ofArithmetic (Decimal.add sum number)
  | none => .error .wrongKind

/-- Some amounts added one after another onto a number. -/
def sumFrom (start : Decimal) : List Amount → Except Fault Decimal
  | [] => .ok start
  | amount :: rest => do
    let next ← amount.addTo start
    sumFrom next rest

/-- The most items that a list or text is ever given room for. -/
def mostStored : Int :=
  68_719_476_736

/-- How often something of some size is repeated.  A negative count is as good as zero, and what is
too large can not be made, for one of two reasons. -/
def repetitions (size : Nat) (count : Int) (beyond : Fault) : Except Fault Nat :=
  if !isBounded count then .error .outOfRange
  else if mostItems < size * count then .error beyond
  else if mostStored < size * count then .error .tooLarge
  else .ok count.toNat

/-- No number has both more digits than this and two decimals. -/
def manyDigits : Nat :=
  64

/-- The number that a text writes when it is repeated.  A text that is repeated often stands for
zero, for a number of too many digits or for none, so it need not be written in full. -/
def ofRepeatedText (text : String) (count : Int) : Except Fault Decimal := do
  let times ← repetitions (Text.count text.toList) count .outOfRange
  Fault.ofArithmetic
    (Decimal.ofText (List.replicate (min times manyDigits) text.toList).flatten)

/-- The number whose parts are those of a list that is repeated. -/
def ofRepeatedParts (parts : List Value) (count : Int) : Except Fault Decimal := do
  let times ← repetitions (8 * parts.length) count .tooLarge
  ofParts (List.replicate (min times 4) parts).flatten

/-- The number that an amount taken some times stands for.  Texts and lists are repeated. -/
def times (amount : Amount) (count : Int) : Except Fault Decimal :=
  match amount with
  | .decimal value => Fault.ofArithmetic (Decimal.mul value (Decimal.ofInt count))
  | .plain (.text text) => ofRepeatedText text count
  | .plain (.list parts) => ofRepeatedParts parts count
  | .plain (.fraction value) =>
    match Binary.ofInt count with
    | .infinite _ => .error .outOfRange
    | factor => .ok (value.mul factor).toDecimal
  | .plain value =>
    match value.whole? with
    | some number => .ok (Decimal.ofInt (number * count))
    | none => .error .wrongKind

/-! ## Comparing -/

/-- Whether two amounts are equal: by value if both are numbers. -/
def same (first second : Amount) : Except Fault Bool :=
  match first.comparable?, second.comparable? with
  | some first, some second => Fault.ofArithmetic (Decimal.sameValue first second)
  | none, none =>
    match first, second with
    | .plain first, .plain second => .ok (first.same second)
    | _, _ => .ok false
  | _, _ => .ok false

/-- What an amount is filed under. -/
inductive Mark
  | number (residue : Int)
  | nothing
  | text (value : String)
  deriving DecidableEq

/-- What an amount is filed under in a table; there may be nothing that another amount could share.
Lists and signalling results can not be filed. -/
def mark? : Amount → Except Fault (Option Mark)
  | .decimal (.undefined _ true _) => .error .wrongKind
  | .decimal value => .ok (value.residue?.map .number)
  | .plain .null => .ok (some .nothing)
  | .plain (.text value) => .ok (some (if value.isEmpty then .number 0 else .text value))
  | .plain (.fraction value) => .ok (value.toDecimal.residue?.map .number)
  | .plain value =>
    match value.whole?, value.key? with
    | some number, _ => .ok ((Decimal.ofInt number).residue?.map .number)
    | none, some _ => .ok (some (.text value.listed))
    | none, none => .error .wrongKind

/-! ## Showing -/

/-- The text of the amount as it was handed over. -/
def shown : Amount → String
  | .decimal value => value.toText
  | .plain value => value.shown

/-- The text of the amount, rounded to two decimals. -/
def «show» (style : Money.Style) (amount : Amount) : Except Fault String := do
  Money.show style (← amount.toDecimal)

/-- The amount as listings show it. -/
def listed : Amount → String
  | .decimal value => "Decimal('" ++ value.toText ++ "')"
  | .plain value => value.listed

end Amount

end Checkout
