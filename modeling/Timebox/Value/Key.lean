import Timebox.Value.Basic

/-!
# Keys of mappings

Keys are compared by what they stand for: truth values count as zero and one, and a floating-point
number is the same key as the integer it equals. Lists and mappings cannot be keys. Setting a key
that is there keeps its place and takes the new value.
-/

namespace Timebox.Value

/-- The integer that a key equals as a number, if it does. -/
def keyNumber? : Value → Option Int
  | bool b => some (if b then 1 else 0)
  | int n => some n
  | real x => x.toInteger?
  | _ => none

/-- The two values are the same key. -/
def sameKey (a b : Value) : Bool :=
  match a, b with
  | null, null => true
  | text s, text t => s == t
  | date d, date e => d == e
  | timestamp t, timestamp u => t.same u
  | real x, real y => x.sameReal y
  | _, _ =>
    match a.keyNumber?, b.keyNumber? with
    | some m, some n => m == n
    | _, _ => false

/-- Set a key's value: in its place if the key is there, at the end otherwise. -/
def setEntry (key value : Value) : List (Value × Value) → List (Value × Value)
  | [] => [(key, value)]
  | (k, v) :: rest =>
    if sameKey k key then (k, value) :: rest else (k, v) :: setEntry key value rest

end Timebox.Value
