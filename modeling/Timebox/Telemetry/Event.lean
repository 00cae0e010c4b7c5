import Timebox.Json.Encode
import Timebox.Json.Value

/-!
# Events

What a run reports for observation: which part of it an event is about, how that part went, how
severe it is, and details. An event is written as an object; details that are empty are left out.
-/

namespace Timebox.Telemetry

/-- The part of a run that an event is about. -/
inductive Phase where
  | arguments
  | gate
  | execute
  | idleBeforeTeardown
  | teardown
  | idleBeforeNext
  deriving DecidableEq, Repr

/-- How a part of a run went. -/
inductive Outcome where
  | ok
  | fail
  | timeout
  | skip
  deriving DecidableEq, Repr

/-- How severe an event is. -/
inductive Severity where
  | info
  | error
  deriving DecidableEq, Repr

/-- An event. -/
structure Event where
  kind : String
  phase : Phase
  outcome : Outcome
  severity : Severity := .info
  /-- What the event is pinned to. -/
  pins : List (String × Json) := []
  /-- When it happened, as text. -/
  stamp : String := ""
  details : List (String × Json) := []
  deriving Repr

namespace Phase

/-- The word of a part. -/
def word : Phase → String
  | arguments => "ARGS"
  | gate => "GATE"
  | execute => "EXECUTE"
  | idleBeforeTeardown => "IDLE_BEFORE_TEARDOWN"
  | teardown => "TEARDOWN"
  | idleBeforeNext => "IDLE_BEFORE_NEXT"

/-- All parts, in the order of a run. -/
def all : List Phase :=
  [arguments, gate, execute, idleBeforeTeardown, teardown, idleBeforeNext]

/-- The part of a word. -/
def ofWord? (w : String) : Option Phase :=
  all.find? fun p => p.word == w

/-- The part is idling. -/
def isIdle : Phase → Bool
  | idleBeforeTeardown => true
  | idleBeforeNext => true
  | _ => false

end Phase

namespace Outcome

/-- The word of an outcome. -/
def word : Outcome → String
  | ok => "OK"
  | fail => "FAIL"
  | timeout => "TIMEOUT"
  | skip => "SKIP"

/-- All outcomes. -/
def all : List Outcome := [ok, fail, timeout, skip]

/-- The outcome of a word. -/
def ofWord? (w : String) : Option Outcome :=
  all.find? fun o => o.word == w

end Outcome

namespace Severity

/-- The word of a severity. -/
def word : Severity → String
  | info => "INFO"
  | error => "ERROR"

/-- The severity of a word. -/
def ofWord? (w : String) : Option Severity :=
  [info, error].find? fun s => s.word == w

end Severity

namespace Event

/-- An event as an object. -/
def toJson (e : Event) : Json :=
  .object ([("event_kind", .text e.kind), ("phase", .text e.phase.word),
    ("outcome", .text e.outcome.word), ("severity", .text e.severity.word),
    ("pins", .object e.pins), ("ts_utc", .text e.stamp)] ++
    if e.details.isEmpty then [] else [("details", .object e.details)])

/-- The event has a line: all integers in it can be written. -/
def isWritable (e : Event) : Bool := e.toJson.isWritable

/-- The line of an event. -/
def line (e : Event) : String := e.toJson.line

end Event

end Timebox.Telemetry
