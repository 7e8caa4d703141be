import CannedReply.Text.Numeral

/-!
Points of time as texts, from the seconds since the start of 1970: the date of a response, and the
time of a log line. Days are counted from the first of March of the year zero, so that the day
that only some years have comes last in its year.
-/

namespace CannedReply

/-- A point of time in the civil calendar, at Greenwich. -/
structure Instant where
  year : Nat
  month : Nat
  day : Nat
  weekday : Nat
  hour : Nat
  minute : Nat
  second : Nat
  deriving DecidableEq, Repr

namespace Instant

/-- The day that is so many days after the first of March of the year zero. -/
def date (n : Nat) : Nat × Nat × Nat :=
  let era := n / 146097
  let d := n % 146097
  let year := (d - d / 1460 + d / 36524 - d / 146096) / 365
  let ofYear := d - (365 * year + year / 4 - year / 100)
  let month := (5 * ofYear + 2) / 153
  let day := ofYear - (153 * month + 2) / 5 + 1
  if month < 10 then (400 * era + year, month + 3, day) else (400 * era + year + 1, month - 9, day)

/-- The point of time that is so many seconds after the start of 1970, which was a Thursday. -/
def ofSeconds (n : Nat) : Instant :=
  let days := n / 86400
  let (year, month, day) := date (days + 719468)
  { year, month, day
    weekday := (days + 4) % 7
    hour := n / 3600 % 24
    minute := n / 60 % 60
    second := n % 60 }

/-- A number with zeros in front, in so many places at least. -/
def padded (places n : Nat) : String :=
  let digits := Numeral.digits 10 n
  String.ofList (List.replicate (places - digits.length) '0' ++ digits)

/-- The names of the days of the week, Sunday first. -/
def weekdays : List String :=
  ["Sun", "Mon", "Tue", "Wed", "Thu", "Fri", "Sat"]

def months : List String :=
  ["Jan", "Feb", "Mar", "Apr", "May", "Jun", "Jul", "Aug", "Sep", "Oct", "Nov", "Dec"]

def timeText (t : Instant) : String :=
  padded 2 t.hour ++ ":" ++ padded 2 t.minute ++ ":" ++ padded 2 t.second

def responseText (t : Instant) : String :=
  weekdays.getD t.weekday "" ++ ", " ++ padded 2 t.day ++ " " ++ months.getD (t.month - 1) "" ++ " "
    ++ padded 4 t.year ++ " " ++ t.timeText ++ " GMT"

/-- The time of a log line, with the microseconds of its second. -/
def logText (t : Instant) (micros : Nat) : String :=
  padded 4 t.year ++ "-" ++ padded 2 t.month ++ "-" ++ padded 2 t.day ++ "T" ++ t.timeText ++ "."
    ++ padded 6 micros ++ "Z"

example : ofSeconds 784111777 = ⟨1994, 11, 6, 0, 8, 49, 37⟩ := by decide
example : ofSeconds 951782400 = ⟨2000, 2, 29, 2, 0, 0, 0⟩ := by decide
example : ofSeconds 0 = ⟨1970, 1, 1, 4, 0, 0, 0⟩ := by decide

end Instant

end CannedReply
