import Timebox.Number.Binary64

/-!
# JSON values

The data that is written as one line of text: event lines, the run summary, and answers to
requests. Integers have any size, and fractional numbers are binary floating-point numbers.
-/

namespace Timebox

/-- A JSON value; the fields of an object are kept in order. -/
inductive Json where
  | null
  | bool (b : Bool)
  | int (n : Int)
  | real (x : Binary64)
  | text (s : String)
  | list (items : List Json)
  | object (fields : List (String × Json))
  deriving Repr, Inhabited

namespace Json

/-- The value of a field, if the object has it. -/
def field? (key : String) : Json → Option Json
  | object fields => fields.lookup key
  | _ => none

/-- The text, if the value is one. -/
def text? : Json → Option String
  | text s => some s
  | _ => none

/-- The integer, if the value is one. -/
def int? : Json → Option Int
  | int n => some n
  | _ => none

/-- The members, if the value is a list. -/
def list? : Json → Option (List Json)
  | list items => some items
  | _ => none

end Json

end Timebox
