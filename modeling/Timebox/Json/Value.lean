import Timebox.Json.Basic
import Timebox.Value.Text

/-!
# JSON values as dynamic values

A JSON value is a dynamic value whose mapping keys are texts. The other way round a key becomes its
display, and a date its display as a text.
-/

namespace Timebox.Json

mutual

/-- The dynamic value of a JSON value. -/
def toValue : Json → Value
  | null => .null
  | bool b => .bool b
  | int n => .int n
  | real x => .real x
  | text s => .text s
  | list items => .list (toValues items)
  | object fields => .map (toEntries fields)

/-- The dynamic values of list members. -/
def toValues : List Json → List Value
  | [] => []
  | j :: js => toValue j :: toValues js

/-- The dynamic values of object fields. -/
def toEntries : List (String × Json) → List (Value × Value)
  | [] => []
  | (k, j) :: rest => (.text k, toValue j) :: toEntries rest

end

mutual

/-- The JSON value that shows a dynamic value. -/
def ofValue : Value → Json
  | .null => null
  | .bool b => bool b
  | .int n => int n
  | .real x => real x
  | .text s => text s
  | .date d => text d.text
  | .timestamp t => text t.text
  | .list items => list (ofValues items)
  | .map entries => object (ofEntries entries)

/-- The JSON values of list members. -/
def ofValues : List Value → List Json
  | [] => []
  | v :: vs => ofValue v :: ofValues vs

/-- The JSON fields of mapping entries. -/
def ofEntries : List (Value × Value) → List (String × Json)
  | [] => []
  | (k, v) :: rest => (k.display, ofValue v) :: ofEntries rest

end

/-- A value can be written if all integers in it have a text. -/
def isWritable (j : Json) : Bool :=
  j.toValue.isWritable

end Timebox.Json
