import Checkout.Value
import Checkout.Decimal.Basic

/-!
# Problems

What can be wrong with the data and settings of a shop, as causes.  A defect of a data file comes
with the line where the file goes wrong and the name of the file, if it is known.

A fault is anything that stops an operation: a problem of the shop's own, or a value that the
operation can not work with.
-/

namespace Checkout

/-- What is wrong with a line of a data file. -/
inductive Defect
  /-- A catalog line is too short to hold an item name and a price. -/
  | missingPrice
  /-- The last word of a catalog line is not a non-negative amount with at most two decimals. -/
  | badPrice (word : String)
  /-- A catalog item stands in the file twice. -/
  | duplicateEntry (item : String)
  /-- No parser accepts an offer rule. -/
  | unsupportedRule (rule : String)
  /-- More than one parser accepts an offer rule. -/
  | ambiguousRule (rule : String) (parsers : List Value)

/-- A defect with its place: the number of the line, counted from one, and the file. -/
structure Corruption where
  defect : Defect
  line : Nat
  source : Option String

/-- What is wrong with a settings file. -/
inductive SettingsDefect
  | notFound (path : String)
  | unsupportedFormat (suffix path : String)
  | unreadable (path : String)
  | notAMapping (path : String)

/-- A problem with the data or settings of a shop. -/
inductive Problem
  /-- An item name with no character but blanks. -/
  | blankItem (rawName : String)
  /-- An item that the catalog does not know. -/
  | unknownItem (item : String)
  /-- A data file that is neither in the data directory nor among the defaults. -/
  | missingDataFile (name searched : String)
  | settings (defect : SettingsDefect)
  | corruptData (corruption : Corruption)

/-- What stops an operation. -/
inductive Fault
  | problem (problem : Problem)
  /-- The arithmetic of amounts has no result. -/
  | arithmetic (failure : Decimal.Failure)
  /-- A whole number is divided by zero. -/
  | divisionByZero
  /-- A value is of the right kind and still not usable, as the message tells. -/
  | unusable (message : String)
  /-- A value of another kind than the operation works with. -/
  | wrongKind
  /-- A number that is too large for the operation, on either side of zero. -/
  | outOfRange
  /-- A result that no memory can hold. -/
  | tooLarge
  /-- Lists and mappings are nested deeper than the operation goes. -/
  | tooDeep
  /-- A time that no date can be told of. -/
  | noDate
  /-- A value lacks what the operation asks of it. -/
  | lacking
  /-- Nothing is known under a name. -/
  | unknownName (name : String)
  /-- A list is shorter than the operation needs. -/
  | tooShort
  /-- A message closes a mark for a style that is not open. -/
  | closedMark
  /-- A text to be printed holds a half of a code point, which has no bytes. -/
  | unencodable
  /-- A file does not hold text. -/
  | undecodable
  /-- The name of a file is longer than names can be. -/
  | longName
  /-- A directory stands where a file is read. -/
  | isDirectory
  /-- A file stands where a directory is to be made. -/
  | fileExists
  /-- A file stands where a directory is passed through. -/
  | notADirectory
  /-- An installed extension fails while it is loaded. -/
  | extensionFailed

namespace Fault

/-- An item name is blank. -/
def blankItem (rawName : String) : Fault :=
  .problem (.blankItem rawName)

/-- A text has too many digits to be read as a whole number. -/
def tooLong (digits : Nat) : Fault :=
  .unusable ("Exceeds the limit (" ++ Text.Numeral.text Text.Numeral.maxLength ++
    " digits) for integer string conversion: value has " ++ Text.Numeral.text digits ++
    " digits; use sys.set_int_max_str_digits() to increase the limit")

/-- A whole number has too many digits to be shown. -/
def unshowable : Fault :=
  .unusable ("Exceeds the limit (" ++ Text.Numeral.text Text.Numeral.maxLength ++
    " digits) for integer string conversion; use sys.set_int_max_str_digits() to increase the " ++
    "limit")

/-- The most characters that are told of a text that is no number. -/
def mostTold : Nat :=
  200

/-- A text writes no whole number to a base. -/
def noNumber (base : Nat) (text : String) : Fault :=
  .unusable ("invalid literal for int() with base " ++ Text.Numeral.text base ++ ": " ++
    String.ofList ((Text.quoted text).toList.take mostTold))

/-- The result of arithmetic, with its failure as a fault. -/
def ofArithmetic {Result : Type} : Except Decimal.Failure Result → Except Fault Result
  | .ok result => .ok result
  | .error failure => .error (.arithmetic failure)

end Fault

/-- A value as it is shown by itself, which has to be short enough. -/
def Value.showing (value : Value) : Except Fault String :=
  if value.isShowable then .ok value.shown else .error .unshowable

/-! ## Outcomes -/

theorem toOption_eq_some_iff {Failure Result : Type} {outcome : Except Failure Result}
    {result : Result} : outcome.toOption = some result ↔ outcome = .ok result := by
  cases outcome <;> simp [Except.toOption]

@[simp]
theorem bind_ok {Cause First Second : Type} (first : First) (next : First → Except Cause Second) :
    (Except.ok first).bind next = next first :=
  rfl

@[simp]
theorem bind_error {Cause First Second : Type} (cause : Cause)
    (next : First → Except Cause Second) : (Except.error cause).bind next = .error cause :=
  rfl

/-- Two steps have a result if the first has one and the second has one on it. -/
theorem bind_eq_ok_iff {Cause First Second : Type} {first : Except Cause First}
    {next : First → Except Cause Second} {result : Second} :
    first.bind next = .ok result ↔ ∃ value, first = .ok value ∧ next value = .ok result := by
  cases first <;> simp

end Checkout
