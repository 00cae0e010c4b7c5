import Timebox.Calendar
import Timebox.Number.Binary64

/-!
# Dynamic values

The data of descriptors, profiles, options and event details before it is given a type: what a
structured text file or a caller can hand over. Mappings keep the order of their entries; how keys
are compared is in `Timebox.Value.Key`.
-/

namespace Timebox

/-- A value whose kind is known only when it is looked at. -/
inductive Value where
  /-- The absent value. -/
  | null
  | bool (b : Bool)
  | int (n : Int)
  | real (x : Binary64)
  | text (s : String)
  | date (d : Date)
  | timestamp (t : Timestamp)
  | list (items : List Value)
  | map (entries : List (Value × Value))
  deriving Repr, Inhabited

namespace Value

/-- The value does not count as true: absent, false, zero or empty. -/
def isEmptyish : Value → Bool
  | null => true
  | bool b => !b
  | int n => n == 0
  | real x => x.isZero
  | text s => s.isEmpty
  | date _ => false
  | timestamp _ => false
  | list items => items.isEmpty
  | map entries => entries.isEmpty

/-- The text, if the value is one. -/
def text? : Value → Option String
  | text s => some s
  | _ => none

/-- The entry of a text key, if the mapping has it. -/
def lookup (key : String) : List (Value × Value) → Option Value
  | [] => none
  | (text k, v) :: rest => if k = key then some v else lookup key rest
  | _ :: rest => lookup key rest

/-- A mapping with text keys. -/
def ofFields (fields : List (String × Value)) : Value :=
  map (fields.map fun (k, v) => (text k, v))

end Value

end Timebox
