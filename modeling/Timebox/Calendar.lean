/-!
# Dates and times

A date of the calendar, reckoned as if that calendar had always been in use, and a timestamp, which
adds a time of the day. A timestamp may say how far it is ahead of universal time. Two timestamps
that do are the same when they name the same instant; one that does is never the same as one that
does not.
-/

namespace Timebox

/-- A date of the calendar. -/
structure Date where
  year : Nat
  month : Nat
  day : Nat
  deriving DecidableEq, Repr

namespace Date

/-- How many days a month has. -/
def daysIn (year month : Nat) : Nat :=
  if month = 2 then
    if year % 4 = 0 ∧ (year % 100 ≠ 0 ∨ year % 400 = 0) then 29 else 28
  else if [4, 6, 9, 11].contains month then 30 else 31

/-- The calendar has the date. -/
def isReal (d : Date) : Bool :=
  1 ≤ d.year && 1 ≤ d.month && d.month ≤ 12 && 1 ≤ d.day && d.day ≤ daysIn d.year d.month

/-- The number of the date among all dates, from one on. -/
def ordinal (d : Date) : Nat :=
  let years := d.year - 1
  let months := (List.range' 1 (d.month - 1)).map (daysIn d.year)
  365 * years + years / 4 - years / 100 + years / 400 + months.foldr (· + ·) 0 + d.day

end Date

/-- A date with a time of the day. -/
structure Timestamp where
  date : Date
  hour : Nat
  minute : Nat
  second : Nat
  microsecond : Nat := 0
  /-- How many minutes it is ahead of universal time, if that is said. -/
  ahead : Option Int := none
  deriving DecidableEq, Repr

namespace Timestamp

/-- The date is in the calendar, the day has the time, and the time is ahead or behind by less than
a day. -/
def isReal (t : Timestamp) : Bool :=
  t.date.isReal && t.hour < 24 && t.minute < 60 && t.second < 60 &&
    t.ahead.all fun minutes => minutes.natAbs < 24 * 60

/-- The minutes of the timestamp since the beginning of the calendar, when it is ahead by some. -/
def minutes (t : Timestamp) (ahead : Int) : Int :=
  ((24 * t.date.ordinal + t.hour) * 60 + t.minute : Nat) - ahead

/-- Two timestamps name the same time. -/
def same (t u : Timestamp) : Bool :=
  match t.ahead, u.ahead with
  | some m, some n =>
    t.minutes m == u.minutes n && t.second == u.second && t.microsecond == u.microsecond
  | _, _ => t == u

end Timestamp

end Timebox
