import Timebox.Telemetry.Event

/-!
# Tallies

A tally sums up the events of a run: how many there were of each kind and of each outcome, and the
time that the parts of the run took, as far as the events tell their durations. It is a function of
the events alone.
-/

namespace Timebox.Telemetry

/-- A duration as an event tells it. -/
inductive Duration where
  | milliseconds (n : Int)
  /-- A truth value, which counts as zero or one. -/
  | flag (b : Bool)
  deriving DecidableEq, Repr

namespace Duration

/-- The milliseconds of a duration. -/
def value : Duration → Int
  | milliseconds n => n
  | flag b => if b then 1 else 0

/-- A duration as it was told. -/
def toJson : Duration → Json
  | milliseconds n => .int n
  | flag b => .bool b

/-- The duration that a value tells, if it tells one. -/
def ofJson? : Json → Option Duration
  | .int n => some (milliseconds n)
  | .bool b => some (flag b)
  | _ => none

/-- The longer of two durations; the first if they are as long. -/
def longer (a b : Duration) : Duration :=
  if a.value < b.value then b else a

end Duration

/-- The field of the details that tells a duration. -/
def durationField : String := "duration_ms"

/-- The duration that an event tells. -/
def Event.duration? (e : Event) : Option Duration :=
  (e.details.lookup durationField).bind Duration.ofJson?

/-- The time that one part of the run took. -/
structure PhaseTally where
  count : Nat
  total : Int
  longest : Duration
  deriving DecidableEq, Repr

/-- What a sequence of events sums up to. -/
structure Tally where
  counters : List (String × Nat)
  outcomes : List (Outcome × Nat)
  phases : List (Phase × PhaseTally)
  idle : Int
  deriving DecidableEq, Repr

namespace PhaseTally

/-- The tally of some durations, if there are any. -/
def ofDurations? : List Duration → Option PhaseTally
  | [] => none
  | d :: ds =>
    some { count := (d :: ds).length
           total := ((d :: ds).map Duration.value).foldr (· + ·) 0
           longest := ds.foldl Duration.longer d }

end PhaseTally

namespace Tally

/-- How often each value occurs, in the order of first occurrence. -/
def countEach {α : Type} [BEq α] (xs : List α) : List (α × Nat) :=
  xs.eraseDups.map fun x => (x, xs.count x)

/-- The durations that events tell about one part. -/
def durationsOf (phase : Phase) (es : List Event) : List Duration :=
  (es.filter fun e => e.phase = phase).filterMap Event.duration?

/-- The tally of some events. -/
def ofEvents (es : List Event) : Tally :=
  { counters := countEach (es.map Event.kind)
    outcomes := countEach (es.map Event.outcome)
    phases := Phase.all.filterMap fun p =>
      (PhaseTally.ofDurations? (durationsOf p es)).map fun t => (p, t)
    idle := (((es.filter fun e => e.phase.isIdle).filterMap Event.duration?).map
      Duration.value).foldr (· + ·) 0 }

/-- The tally of one part as an object. -/
def phaseJson (t : PhaseTally) : Json :=
  .object [("count", .int t.count), ("total_ms", .int t.total), ("max_ms", t.longest.toJson)]

/-- A tally as an object. -/
def toJson (t : Tally) : Json :=
  .object [
    ("counters", .object (t.counters.map fun (k, n) => (k, .int n))),
    ("outcomes", .object (t.outcomes.map fun (o, n) => (o.word, .int n))),
    ("phase_ms", .object (t.phases.map fun (p, t) => (p.word, phaseJson t))),
    ("idle_ms", .int t.idle)]

end Tally

end Timebox.Telemetry
