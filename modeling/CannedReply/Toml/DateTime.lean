import CannedReply.Toml.Number

/-!
Dates and times: a day of the calendar, a time of day, or both with or without an offset.
-/

namespace CannedReply.Toml

open CannedReply.Reader

/-- A day of the calendar. -/
structure Date where
  year : Nat
  month : Nat
  day : Nat
  deriving DecidableEq, Repr

/-- A time of day; the second sixty is a leap second. -/
structure Time where
  hour : Nat
  minute : Nat
  second : Nat
  nanosecond : Nat
  deriving DecidableEq, Repr

/-- A date, a time or both, and then perhaps the offset from universal time in minutes. -/
inductive DateTime where
  | date (date : Date)
  | time (time : Time)
  | both (date : Date) (time : Time) (offset : Option Int)
  deriving DecidableEq, Repr

/-- The number of days of a month, by the Gregorian calendar. -/
def daysIn (year month : Nat) : Nat :=
  if month = 2 then
    if year % 4 = 0 ∧ (year % 100 ≠ 0 ∨ year % 400 = 0) then 29 else 28
  else if month = 4 ∨ month = 6 ∨ month = 9 ∨ month = 11 then 30
  else 31

namespace Reader

/-- A number of exactly `n` digits between the bounds. -/
def field (n low high : Nat) : Reader Nat := fun s =>
  let ds := s.take n
  let value := Numeral.number 10 ds
  if ds.length = n ∧ ds.all (Numeral.isDigit 10) ∧ low ≤ value ∧ value ≤ high then
    some (value, s.drop n)
  else none

/-- Year, month and day. -/
def date : Reader Date := do
  let year ← field 4 0 9999
  token ['-']
  let month ← field 2 1 12
  token ['-']
  let day ← field 2 1 (daysIn year month)
  return { year, month, day }

/-- Hour, minute and second, with the digits of a fraction from the tenth one on left out. -/
def time : Reader Time := do
  let hour ← field 2 0 23
  token [':']
  let minute ← field 2 0 59
  token [':']
  let second ← field 2 0 60
  let fraction ← optional do
    token ['.']
    let first ← char (Numeral.isDigit 10)
    return first :: (← run (Numeral.isDigit 10))
  let places := (fraction.getD []).take 9
  let nanosecond := Numeral.number 10 (places ++ List.replicate (9 - places.length) '0')
  return { hour, minute, second, nanosecond }

/-- Universal time, or hours and minutes before or behind it. -/
def offset : Reader Int := do
  if (← optional (char fun c => c = 'Z' || c = 'z')).isSome then return 0
  let mark ← char fun c => c = '+' || c = '-'
  let hours ← field 2 0 23
  token [':']
  let minutes ← field 2 0 59
  let value : Int := hours * 60 + minutes
  return if mark = '-' then -value else value

/-- A date, a time or both. -/
def dateTime : Reader DateTime :=
  (do
    let day ← date
    let rest ← optional do
      discard (char fun c => c = 'T' || c = 't' || c = ' ')
      let moment ← time
      return (moment, ← optional offset)
    match rest with
    | some (moment, shift) => return .both day moment shift
    | none => return .date day)
  <|> (do return .time (← time))

end Reader

end CannedReply.Toml
