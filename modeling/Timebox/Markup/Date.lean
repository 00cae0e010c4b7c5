import Timebox.Markup.Cursor
import Timebox.Text.Cut
import Timebox.Text.Integer
import Timebox.Value.Basic

/-!
# Dates and timestamps in plain scalars

A date is written with four digits, two and two, with dashes between them. A timestamp goes on with
the letter `T` or blanks and a time of the day, perhaps with a fraction of the second, and may end
with its distance from universal time; the month, the day and the hour may be single digits there. A
text of such a form may name a date or a time that does not exist.
-/

namespace Timebox.Markup

/-- Western digits, as many as some bounds allow. -/
def isNumeral (least most : Nat) (cs : List Char) : Bool :=
  least ≤ cs.length && cs.length ≤ most && cs.all Char.isDigit

/-- The number that western digits write. -/
def numeral (cs : List Char) : Nat :=
  Text.ofDigits 10 (cs.filterMap Text.digitValue?)

/-- The time of the day, with hours of one digit or two. -/
def clock? (cs : List Char) : Option (Nat × Nat × Nat) :=
  match Text.pieces ':' cs with
  | [h, m, s] =>
    if isNumeral 1 2 h && isNumeral 2 2 m && isNumeral 2 2 s then
      some (numeral h, numeral m, numeral s)
    else none
  | _ => none

/-- The microseconds that a fraction of a second writes; further digits do not count. -/
def microseconds (fraction : List Char) : Nat :=
  numeral ((fraction ++ List.replicate 6 '0').take 6)

/-- The fraction of a second after a point, and what follows it. -/
def takeFraction : List Char → Nat × List Char
  | '.' :: cs => (microseconds (cs.takeWhile Char.isDigit), cs.dropWhile Char.isDigit)
  | cs => (0, cs)

/-- A number of hours and perhaps minutes, in minutes. -/
def distance? (cs : List Char) : Option Nat :=
  match Text.pieces ':' cs with
  | [h] => if isNumeral 1 2 h then some (60 * numeral h) else none
  | [h, m] =>
    if isNumeral 1 2 h && isNumeral 2 2 m then some (60 * numeral h + numeral m) else none
  | _ => none

/-- How far a timestamp is ahead of universal time, from the text that ends it. -/
def zone? (cs : List Char) : Option (Option Int) :=
  if cs.isEmpty then some none
  else match cs.dropWhile isSpaceOrTab with
    | ['Z'] => some (some 0)
    | '+' :: rest => (distance? rest).map fun n => some (n : Int)
    | '-' :: rest => (distance? rest).map fun n => some (-(n : Int))
    | _ => none

/-- What follows the date of a timestamp, from the time on. -/
def afterDate? : List Char → Option (List Char)
  | [] => none
  | c :: cs =>
    if c = 'T' ∨ c = 't' then some cs
    else if isSpaceOrTab c then some (cs.dropWhile isSpaceOrTab)
    else none

/-- The timestamp of a date, from the text after the date. -/
def timestamp? (date : Date) (rest : List Char) : Option Timestamp := do
  let tail ← afterDate? rest
  let isClock (c : Char) : Bool := c.isDigit || c = ':'
  let (hour, minute, second) ← clock? (tail.takeWhile isClock)
  let (microsecond, ending) := takeFraction (tail.dropWhile isClock)
  let ahead ← zone? ending
  return { date, hour, minute, second, microsecond, ahead }

/-- A date or a timestamp, if the text has the form of one. -/
def date? (cs : List Char) : Option (Except Defect Value) :=
  let isDate (c : Char) : Bool := c.isDigit || c = '-'
  let rest := cs.dropWhile isDate
  match Text.pieces '-' (cs.takeWhile isDate) with
  | [y, m, d] =>
    let date : Date := ⟨numeral y, numeral m, numeral d⟩
    if !(isNumeral 4 4 y && isNumeral 1 2 m && isNumeral 1 2 d) then none
    else if !rest.isEmpty then
      (timestamp? date rest).map fun t => if t.isReal then .ok (.timestamp t) else .error .noValue
    else if m.length = 2 ∧ d.length = 2 then
      some (if date.isReal then .ok (.date date) else .error .noValue)
    else none
  | _ => none

end Timebox.Markup
