import Timebox.Validation.Integer
import Timebox.Validation.Issue
import Timebox.Value.Text

/-!
# Checking records

A record of named fields is checked field by field, and every issue is collected: first those of the
fields that the description knows, in its order, then the unknown fields in the order of the data.
-/

namespace Timebox.Validation

/-- A checked result, or every issue that was found. -/
abbrev Checked (α : Type) := Except (List Issue) α

/-- Collect the issues of two checks. -/
def Checked.both {α β : Type} (a : Checked α) (b : Checked β) : Checked (α × β) :=
  match a, b with
  | .ok x, .ok y => .ok (x, y)
  | .error e, .ok _ => .error e
  | .ok _, .error e => .error e
  | .error e, .error e' => .error (e ++ e')

/-- The issues of a check, one level further in. -/
def Checked.at {α : Type} (place : Place) (c : Checked α) : Checked α :=
  match c with
  | .ok x => .ok x
  | .error issues => .error (issues.map (Issue.under place))

/-- A single issue at the place itself. -/
def fail {α : Type} (problem : Problem) : Checked α :=
  .error [⟨[], problem⟩]

/-- Named fields in the order of the data. -/
abbrev Fields := List (String × Value)

/-- The entries of a mapping as named fields. -/
def fieldsOf (entries : List (Value × Value)) : Fields :=
  entries.map fun (k, v) => (k.display, v)

/-- Check a field that may be left out. -/
def optionalField {α : Type} (fields : Fields) (name : String) (default : α)
    (check : Value → Checked α) : Checked α :=
  match fields.lookup name with
  | none => .ok default
  | some v => (check v).at (.field name)

/-- Check a field that must be there. -/
def requiredField {α : Type} (fields : Fields) (name : String)
    (check : Value → Checked α) : Checked α :=
  match fields.lookup name with
  | none => .error [⟨[.field name], .missing⟩]
  | some v => (check v).at (.field name)

/-- The fields that the description does not know. -/
def unknownFields (known : List String) (fields : Fields) : Checked Unit :=
  match fields.filter fun f => !known.contains f.1 with
  | [] => .ok ()
  | extra => .error (extra.map fun f => ⟨[.field f.1], .unknownField⟩)

/-- A text. -/
def checkText : Value → Checked String
  | .text s => .ok s
  | _ => fail .notText

/-- Check the members of a list from a position on. -/
def checkItems {α : Type} (check : Value → Checked α) (position : Nat) :
    List Value → Checked (List α)
  | [] => .ok []
  | v :: vs =>
    match Checked.both ((check v).at (.item position)) (checkItems check (position + 1) vs) with
    | .ok (x, xs) => .ok (x :: xs)
    | .error e => .error e

/-- An integer written as a text. -/
def checkIntegerText (s : String) : Checked Int :=
  match readCheckedInteger s with
  | .ok n => .ok n
  | .error .unreadable => fail .unreadableInteger
  | .error .oversized => fail .oversizedInteger

/-- A floating-point number without a fraction; its magnitude has to be below the bound. -/
def checkWholeReal (x : Binary64) : Checked Int :=
  match x.meaning with
  | .finite .. =>
    match x.toInteger? with
    | some n => if n.natAbs < Nat.pow 2 63 then .ok n else fail .oversizedInteger
    | none => fail .fractionalNumber
  | _ => fail .infiniteNumber

/-- An integer: as such, as a truth value, as a floating-point number without a fraction, or as a
text. -/
def checkInteger : Value → Checked Int
  | .int n => .ok n
  | .bool b => .ok (if b then 1 else 0)
  | .real x => checkWholeReal x
  | .text s => checkIntegerText s
  | _ => fail .notAnInteger

/-- An integer that is at least `least`. -/
def checkAtLeast (least : Int) (v : Value) : Checked Int :=
  match checkInteger v with
  | .ok n => if least ≤ n then .ok n else fail .belowMinimum
  | .error e => .error e

end Timebox.Validation
