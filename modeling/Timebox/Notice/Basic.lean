import Timebox.Fault.Basic
import Timebox.Json.Value

/-!
# Notices

What listeners are told about a run: a journey started, failed, was ignored, or finished. Every
notice carries the description of the scenario, a failure also its fault. This file also fixes how
notices look in answers and in the run summary.
-/

namespace Timebox

/-- Which journey runs, and when it is scheduled. -/
structure Description where
  journey : String
  moment : String := ""
  deriving DecidableEq, Repr

/-- A description with the fault that it failed with. -/
structure Failure where
  description : Description
  fault : Fault
  deriving Repr

/-- The four kinds of notice. -/
inductive NoticeKind where
  | started
  | failure
  | ignored
  | finished
  deriving DecidableEq, Repr

/-- A notice to listeners. -/
inductive Notice where
  | started (d : Description)
  | failure (f : Failure)
  | ignored (d : Description)
  | finished (d : Description)
  deriving Repr

namespace Description

/-- The journey's name, with the moment if there is one. -/
def display (d : Description) : String :=
  if d.moment.isEmpty then d.journey else d.journey ++ "@" ++ d.moment

/-- The fields of a description. -/
def fields (d : Description) : List (String × Json) :=
  [("journey", .text d.journey), ("at", .text d.moment)]

end Description

namespace Failure

/-- The text of the fault. -/
def message (f : Failure) : String := f.fault.message

/-- The fields of a failure; a fault that names a time limit adds it with its unit. -/
def fields (f : Failure) : List (String × Json) :=
  f.description.fields ++ [("error_type", .text f.fault.className), ("message", .text f.message)] ++
    match f.fault.limit? with
    | some (timeout, unit) => [("timeout", .ofValue timeout), ("unit", .ofValue unit)]
    | none => []

end Failure

/-- The word of a kind. -/
def NoticeKind.word : NoticeKind → String
  | started => "started"
  | failure => "failure"
  | ignored => "ignored"
  | finished => "finished"

namespace Notice

/-- The kind of a notice. -/
def kind : Notice → NoticeKind
  | started _ => .started
  | failure _ => .failure
  | ignored _ => .ignored
  | finished _ => .finished

/-- The description that a notice carries. -/
def description : Notice → Description
  | started d => d
  | failure f => f.description
  | ignored d => d
  | finished d => d

/-- The failure that a notice carries. -/
def failure? : Notice → Option Failure
  | failure f => some f
  | _ => none

/-- A notice as an object. -/
def toJson (n : Notice) : Json :=
  .object ([("kind", .text n.kind.word)] ++ n.description.fields ++
    match n.failure? with
    | some f => [("failure", .object f.fields)]
    | none => [])

end Notice

end Timebox
