import Checkout.Journal.Logger
import Std.Time.DateTime.PlainDateTime

/-!
# The time of an entry

JSON entries tell the time as one word with the fraction of the second and the distance from world
time, which is none.  Other entries tell the day and the time of day.
-/

namespace Checkout.Journal

open Std.Time (PlainDateTime)

/-- A number with zeros in front, up to a width. -/
def padded (width : Nat) (number : Int) : String :=
  let digits := Text.Numeral.text number
  String.ofList (List.replicate (width - digits.length) '0') ++ digits

/-- The day: year, month and day of the month. -/
def dayText (moment : PlainDateTime) : String :=
  padded 4 moment.year ++ "-" ++ padded 2 moment.month.val ++ "-" ++ padded 2 moment.day.val

/-- The time of day to the second. -/
def clockText (moment : PlainDateTime) : String :=
  padded 2 moment.hour.val ++ ":" ++ padded 2 moment.minute.val ++ ":" ++ padded 2 moment.second.val

/-- The fraction of the second in six places; a full second has none. -/
def fractionText (moment : PlainDateTime) : String :=
  let micro := moment.nanosecond.val / 1000
  if micro = 0 then "" else "." ++ padded 6 micro

/-- The time as a style tells it. -/
def Style.timeText (style : Style) (moment : PlainDateTime) : String :=
  match style with
  | .json => dayText moment ++ "T" ++ clockText moment ++ fractionText moment ++ "+00:00"
  | _ => dayText moment ++ " " ++ clockText moment

end Checkout.Journal
