import Timebox.Number.Shortest
import Timebox.Text.Integer
import Timebox.Text.Quoted
import Timebox.Value.Basic

/-!
# Values as text

Two texts of a value. Its *display* is what a reader wants to see: a text is shown as it is. Its
*listing* is what stands inside another value: a text is quoted, a date or a timestamp names its
parts. Lists and mappings list their members in both.
-/

namespace Timebox

/-- The digits of a number, padded with zeros to a width. -/
def padded (width n : Nat) : String :=
  String.ofList (Binary64.padLeft width (Nat.toDigits 10 n))

/-! ### Dates and timestamps -/

/-- A call that makes a value from its arguments. -/
def callText (maker : String) (arguments : List String) : String :=
  maker ++ "(" ++ ", ".intercalate arguments ++ ")"

namespace Date

/-- The date as a reader wants to see it. -/
def text (d : Date) : String :=
  padded 4 d.year ++ "-" ++ padded 2 d.month ++ "-" ++ padded 2 d.day

/-- The year, the month and the day. -/
def parts (d : Date) : List String := [d.year, d.month, d.day].map toString

/-- The date by its parts. -/
def listing (d : Date) : String := callText "datetime.date" d.parts

end Date

namespace Timestamp

/-- Minutes ahead of universal time, as hours and minutes with a sign. -/
def zoneText (ahead : Int) : String :=
  (if ahead < 0 then "-" else "+") ++ padded 2 (ahead.natAbs / 60) ++ ":" ++
    padded 2 (ahead.natAbs % 60)

/-- The timestamp as a reader wants to see it; a fraction of zero is left out. -/
def text (t : Timestamp) : String :=
  t.date.text ++ " " ++ padded 2 t.hour ++ ":" ++ padded 2 t.minute ++ ":" ++ padded 2 t.second ++
    (if t.microsecond = 0 then "" else "." ++ padded 6 t.microsecond) ++
    t.ahead.elim "" zoneText

/-- A distance from universal time by its parts: whole days, and the seconds of a day. -/
def zoneListing (ahead : Int) : String :=
  if ahead = 0 then "datetime.timezone.utc"
  else
    let days := if ahead < 0 then ["days=-1"] else []
    let seconds := ["seconds=" ++ toString (60 * (ahead % (24 * 60)))]
    callText "datetime.timezone" [callText "datetime.timedelta" (days ++ seconds)]

/-- The seconds and microseconds, as far as they are not zero at the end. -/
def finest (t : Timestamp) : List Nat :=
  if t.microsecond ≠ 0 then [t.second, t.microsecond]
  else if t.second ≠ 0 then [t.second] else []

/-- The timestamp by its parts. -/
def listing (t : Timestamp) : String :=
  let time := (t.hour :: t.minute :: t.finest).map toString
  let zone := t.ahead.elim [] fun ahead => ["tzinfo=" ++ zoneListing ahead]
  callText "datetime.datetime" (t.date.parts ++ time ++ zone)

end Timestamp

namespace Value

/-! ### Values -/

mutual

/-- The text of a value inside another. -/
def listing : Value → String
  | null => "None"
  | bool b => if b then "True" else "False"
  | int n => toString n
  | real x => x.text
  | text s => Text.quoted s
  | date d => d.listing
  | timestamp t => t.listing
  | list items => "[" ++ ", ".intercalate (listings items) ++ "]"
  | map entries => "\x7b" ++ ", ".intercalate (entryListings entries) ++ "\x7d"

/-- The texts of a list's members. -/
def listings : List Value → List String
  | [] => []
  | v :: vs => listing v :: listings vs

/-- The texts of a mapping's entries. -/
def entryListings : List (Value × Value) → List String
  | [] => []
  | (k, v) :: rest => (listing k ++ ": " ++ listing v) :: entryListings rest

end

/-- An integer has a text if it has no more digits than a text may have. -/
def isWritableInteger (n : Int) : Bool :=
  n.natAbs < Nat.pow 10 Text.maxDigits

/-- The least integer without a text. -/
theorem isWritableInteger_limit : isWritableInteger (Nat.pow 10 Text.maxDigits) = false := by
  simp only [isWritableInteger, Int.natAbs_natCast, Nat.lt_irrefl, decide_false]

mutual

/-- A value has a text if all integers in it have one. -/
def isWritable : Value → Bool
  | int n => isWritableInteger n
  | list items => areWritable items
  | map entries => areEntriesWritable entries
  | _ => true

/-- All members of a list have a text. -/
def areWritable : List Value → Bool
  | [] => true
  | v :: vs => isWritable v && areWritable vs

/-- All keys and values of a mapping have a text. -/
def areEntriesWritable : List (Value × Value) → Bool
  | [] => true
  | (k, v) :: rest => isWritable k && isWritable v && areEntriesWritable rest

end

/-- The text of a value on its own. -/
def display : Value → String
  | text s => s
  | date d => d.text
  | timestamp t => t.text
  | v => v.listing

end Value

end Timebox
