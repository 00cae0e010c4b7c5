import Timebox.Validation.Record

/-!
# Scenarios

A scenario schedules one execution of a journey: which journey, when (for display only), what
happens to the host afterwards, and the extra arguments that hold while it runs. Extra arguments are
written either as a list of key and value records or as a mapping from keys to values.
-/

namespace Timebox

open Validation

/-- What happens after the journey has passed. -/
inductive AfterTest where
  | stayInApp
  | exit
  deriving DecidableEq, Repr

/-- The word of a policy. -/
def AfterTest.word : AfterTest → String
  | stayInApp => "STAY_IN_APP"
  | exit => "EXIT"

/-- An argument of a scenario. -/
structure ExtraArgument where
  key : String
  value : String
  deriving DecidableEq, Repr

/-- A scheduled execution of a journey. -/
structure Scenario where
  /-- When it is scheduled; shown and never computed with. -/
  moment : String := ""
  journey : String := ""
  afterTest : AfterTest := .stayInApp
  extras : List ExtraArgument := []
  deriving DecidableEq, Repr

namespace ExtraArgument

/-- A text that is not empty. -/
def checkKey (v : Value) : Checked String :=
  match checkText v with
  | .ok s => if s.isEmpty then fail .emptyText else .ok s
  | .error e => .error e

/-- The text of a scalar; truth values are in small letters. -/
def scalarText? : Value → Option String
  | .bool b => some (if b then "true" else "false")
  | .int n => some (toString n)
  | .real x => some x.text
  | .text s => some s
  | _ => none

/-- A scalar as a text. -/
def checkScalar (v : Value) : Checked String :=
  match scalarText? v with
  | some s => if v.isWritable then .ok s else fail .noText
  | none => fail .notText

/-- Check the fields of a key and value record. -/
def ofFields (fields : Fields) : Checked ExtraArgument :=
  let known := Checked.both (requiredField fields "key" checkKey)
    (requiredField fields "value" checkScalar)
  match Checked.both known (unknownFields ["key", "value"] fields) with
  | .ok ((key, value), ()) => .ok ⟨key, value⟩
  | .error e => .error e

/-- Check a key and value record. -/
def ofValue : Value → Checked ExtraArgument
  | .map entries => ofFields (fieldsOf entries)
  | _ => fail .notARecord

/-- An entry of a mapping as a key and value record, both parts by their display. -/
def recordOfEntry (entry : Value × Value) : Value :=
  .map [(.text "key", .text entry.1.display), (.text "value", .text entry.2.display)]

/-- Check extra arguments in either spelling. -/
def checkAll : Value → Checked (List ExtraArgument)
  | .list items => checkItems ofValue 0 items
  | .map entries =>
    if Value.areEntriesWritable entries then checkItems ofValue 0 (entries.map recordOfEntry)
    else fail .noText
  | _ => fail .notASequence

/-- The key and value as a pair. -/
def pair (x : ExtraArgument) : String × String := (x.key, x.value)

end ExtraArgument

namespace Scenario

/-- One of the two policies. -/
def checkAfterTest : Value → Checked AfterTest
  | .text "STAY_IN_APP" => .ok .stayInApp
  | .text "EXIT" => .ok .exit
  | _ => fail .notAChoice

/-- Check the fields of a scenario. -/
def ofFields (fields : Fields) : Checked Scenario :=
  let texts := Checked.both (optionalField fields "at" "" checkText)
    (optionalField fields "journey" "" checkText)
  let rest := Checked.both (optionalField fields "after_test" .stayInApp checkAfterTest)
    (optionalField fields "extras" [] ExtraArgument.checkAll)
  let unknown := unknownFields ["at", "journey", "after_test", "extras"] fields
  match Checked.both (Checked.both texts rest) unknown with
  | .ok (((moment, journey), (afterTest, extras)), ()) => .ok { moment, journey, afterTest, extras }
  | .error e => .error e

/-- The extra arguments as pairs, in order. -/
def pairs (s : Scenario) : List (String × String) :=
  s.extras.map ExtraArgument.pair

end Scenario

end Timebox
