import Timebox.Journey.Body

/-!
# Deadlines

A body runs beside a watchdog. When the body is still running at its deadline the watchdog raises
the cancellation signal and lets it run on for a grace period; a body that is still running then is
abandoned and takes no further step. A body that ends just at its deadline has finished in time, and
one that ends just at the end of the grace period has stopped by itself.

A deadline that is too far away to be waited for is not enforced: the body does not begin. A grace
period of that kind shows only when it is needed: then the watchdog leaves the body at its deadline.
-/

namespace Timebox

/-- The verdict on a run. -/
inductive Status where
  | passed
  | failed
  | timedOut
  | ignored
  deriving DecidableEq, Repr

/-- The word of a verdict. -/
def Status.word : Status → String
  | passed => "PASSED"
  | failed => "FAILED"
  | timedOut => "TIMED_OUT"
  | ignored => "IGNORED"

/-- A verdict, the time it took on the clock, and the fault that goes with it. -/
structure Verdict where
  status : Status
  elapsed : Int
  fault : Option Fault := none
  deriving Repr

/-- What is left when a deadline has been enforced. -/
structure Enforced where
  verdict : Verdict
  /-- The instant at which the watchdog returned. -/
  now : Nat
  /-- The arguments as the body left them. -/
  arguments : Arguments
  log : List LogEntry

/-- What is left when a deadline could not be enforced. -/
structure Unenforced where
  /-- The body had begun. -/
  begun : Bool
  /-- The instant at which the watchdog gave up. -/
  now : Nat
  /-- The arguments as the body left them. -/
  arguments : Arguments
  log : List LogEntry

namespace Deadline

/-- What surrounds a body that starts at an instant. -/
def surroundings (tl : Timeline) (start budget grace : Nat) : Surroundings :=
  { timeline := tl
    signal := some { instant := start + budget, leads := false }
    limit := some (start + budget + grace) }

/-- The course of a body under its deadline. -/
def course (tl : Timeline) (start budget grace : Nat) (arguments : Arguments)
    (body : List Command) : Course :=
  runCommands (surroundings tl start budget grace) body { now := start, arguments := arguments }

/-- The body was not done at its deadline. -/
def isLate (c : Course) : Bool :=
  match c.ending with
  | .abandoned => true
  | .endless => true
  | _ => c.last.signalled

/-- A body that starts at an instant gets to its end: it raises no fault and is not abandoned. -/
def completes (tl : Timeline) (start budget grace : Nat) (arguments : Arguments)
    (body : List Command) : Bool :=
  match (course tl start budget grace arguments body).ending with
  | .returned => true
  | _ => false

/-- The instant at which the watchdog returns. -/
def returnInstant (start budget grace : Nat) (c : Course) : Nat :=
  match c.ending with
  | .abandoned => start + budget + grace
  | .endless => start + budget + grace
  | _ => c.last.now

/-- The status and the fault of a course. A body that set the signal itself and then reports its
cancellation counts as timed out. -/
def classify (budget : Nat) (c : Course) : Status × Option Fault :=
  if isLate c then (.timedOut, some (.timedOut budget))
  else match c.ending with
    | .raised f =>
      if f.isCancellation && c.last.cancelled then (.timedOut, some (.timedOut budget))
      else (.failed, some f)
    | _ => (.passed, none)

/-- Run a body under a deadline. -/
def enforce (tl : Timeline) (start budget grace : Nat) (arguments : Arguments)
    (body : List Command) : Enforced :=
  let c := course tl start budget grace arguments body
  let stop := returnInstant start budget grace c
  let (status, fault) := classify budget c
  { verdict := { status := status, elapsed := tl.clock stop - tl.clock start, fault := fault }
    now := stop
    arguments := c.last.arguments
    log := c.log }

/-- The course of a body up to its deadline. -/
def courseBefore (tl : Timeline) (start budget : Nat) (arguments : Arguments)
    (body : List Command) : Course :=
  runCommands { timeline := tl, signal := none, limit := some (start + budget) } body
    { now := start, arguments := arguments }

/-- Run a body under a deadline if the waits that this takes are not too long. -/
def attempt (tl : Timeline) (start budget grace : Nat) (arguments : Arguments)
    (body : List Command) : Except Unenforced Enforced :=
  if !isMeasurable budget then .error { begun := false, now := start, arguments, log := [] }
  else if isLate (course tl start budget grace arguments body) && !isMeasurable grace then
    let c := courseBefore tl start budget arguments body
    .error { begun := true, now := start + budget, arguments := c.last.arguments, log := c.log }
  else .ok (enforce tl start budget grace arguments body)

end Deadline

end Timebox
