import Checkout.Problem

/-!
# Instants

An instant is a number of seconds since the start of the year 1970, which has a year in the
calendar.  A record may carry any value as its instant, so it has to be a number, and one that fits
64 binary digits; and the year that it falls in, counted from 1900, has to fit 32.
-/

namespace Checkout.Journal

/-- A number of seconds since the start of the year 1970. -/
abbrev Instant :=
  Int

namespace Instant

/-- A bound of the numbers that fit 64 binary digits. -/
def limit : Int :=
  9_223_372_036_854_775_808

/-- The whole number that is not above a binary number. -/
def floor (negative : Bool) (significand : Nat) (power : Int) : Int :=
  let whole := Binary.wholePart significand power
  if !negative then whole
  else if Binary.isWhole significand power then -(whole : Int)
  else -(whole : Int) - 1

/-- The instant of some seconds, which have to fit 64 binary digits. -/
def bounded (seconds : Int) : Except Fault Instant :=
  if -limit ≤ seconds ∧ seconds < limit then .ok seconds else .error .outOfRange

/-- The instant that a value is. -/
def ofValue (value : Value) : Except Fault Instant :=
  match value with
  | .fraction .undefined => .error (.unusable "Invalid value NaN (not a number)")
  | .fraction (.infinite _) => .error .outOfRange
  | .fraction (.finite negative significand power) =>
    bounded (floor negative significand power)
  | other =>
    match other.whole? with
    | none => .error .wrongKind
    | some seconds => bounded seconds

/-- The seconds of a day. -/
def secondsPerDay : Int :=
  86_400

/-- The days of four hundred years. -/
def daysPerCycle : Int :=
  146_097

/-- The days from the first of March of the year zero to the start of the year 1970. -/
def daysBefore : Int :=
  719_468

/-- The year of a day of a cycle of four hundred years, each of which begins in March. -/
def yearOfCycle (day : Int) : Int :=
  (day - day / 1460 + day / 36_524 - day / 146_096) / 365

/-- The day of a year that begins in March, of a day of a cycle. -/
def dayOfYear (day : Int) : Int :=
  let year := yearOfCycle day
  day - (365 * year + year / 4 - year / 100)

/-- The first day of January in a year that begins in March. -/
def january : Int :=
  306

/-- The year that an instant falls in. -/
def year (instant : Instant) : Int :=
  let days := instant / secondsPerDay + daysBefore
  let day := days % daysPerCycle
  400 * (days / daysPerCycle) + yearOfCycle day + (if january ≤ dayOfYear day then 1 else 0)

/-- How many numbers fit 32 binary digits. -/
def words : Nat :=
  4_294_967_296

/-- Whether a number fits 32 binary digits. -/
def isWord (number : Int) : Bool :=
  number.bmod words = number

/-- The year of an instant, which may not be too far from 1900 to be counted from there. -/
def counted (instant : Instant) : Except Fault Int :=
  if isWord (instant.year - 1900) then .ok instant.year else .error .noDate

/-- The year of an instant on a clock, which has to fit 32 binary digits. -/
def clockYear (instant : Instant) : Except Fault Int := do
  let year ← instant.counted
  if isWord year then .ok year else .error .outOfRange

/-- The year of an instant in a date, which has to have four digits.  It is told by the last 32 of
its binary digits. -/
def dateYear (instant : Instant) : Except Fault Int := do
  let year := (← instant.counted).bmod words
  if 1 ≤ year ∧ year ≤ 9999 then .ok year
  else .error (.unusable ("year " ++ Text.Numeral.text year ++ " is out of range"))

end Instant

end Checkout.Journal
