import Timebox.Fault.Reason
import Timebox.Run.Plan
import Timebox.Run.Session

/-!
# Running a scenario

A run overrides the arguments with those of the scenario, runs the journey within its budget unless
it is excluded, idles until its teardown is due, cleans up within the leeway, idles until the next
scenario is due, and restores the arguments. It idles before teardown only after a journey that
passed and whose scenario stays in the application, and on either occasion only as long as something
is left of the window.
-/

namespace Timebox

namespace Plan

/-- What the listeners are told about. -/
def description (p : Plan) : Description :=
  { journey := p.journey.name, moment := p.scenario.moment }

/-- An event of a run. -/
def event (p : Plan) (c : Conditions) (kind : String) (phase : Telemetry.Phase)
    (outcome : Telemetry.Outcome) (details : List (String × Json)) : Telemetry.Event :=
  { kind := kind, phase := phase, outcome := outcome, stamp := c.stamp, details := details
    pins := [("journey", .text p.journey.name), ("at", .text p.scenario.moment)] }

/-! ### Events -/

/-- The arguments have been overridden. -/
def overriddenEvent (p : Plan) (c : Conditions) : Telemetry.Event :=
  p.event c "ARGS_OVERRIDDEN" .arguments .ok [("extras", .int p.scenario.extras.length)]

/-- The journey is ignored. -/
def ignoredEvent (p : Plan) (c : Conditions) : Telemetry.Event :=
  p.event c "JOURNEY_IGNORED" .gate .skip []

/-- The details of a fault. -/
def faultDetails : Option Fault → List (String × Json)
  | none => []
  | some f => [("error_type", .text f.className), ("reason_code", .text f.reason)]

/-- The journey has got its verdict. -/
def finishedEvent (p : Plan) (c : Conditions) (v : Verdict) : Telemetry.Event :=
  { p.event c "JOURNEY_FINISHED" .execute v.status.outcome
      ([(Telemetry.durationField, .int v.elapsed), ("deadline_ms", .int p.budget)] ++
        faultDetails v.fault) with
    severity := if v.status = .passed then .info else .error }

/-- The teardown has got its verdict. -/
def teardownEvent (p : Plan) (c : Conditions) (v : Verdict) : Telemetry.Event :=
  p.event c "TEARDOWN_FINISHED" .teardown v.status.outcome
    [(Telemetry.durationField, .int v.elapsed)]

/-- Idling is over. -/
def idleEvent (p : Plan) (c : Conditions) (i : Interlude) (duration : Int) : Telemetry.Event :=
  p.event c "IDLE_FINISHED" i.phase .ok [(Telemetry.durationField, .int duration)]

/-! ### Idling -/

/-- How much time is left of the window on the clock. -/
def remaining (p : Plan) (c : Conditions) (origin : Int) (s : Session) : Int :=
  p.window - (c.timeline.clock s.now - origin)

/-- Idle for a positive duration; otherwise go on at once. -/
def idle (p : Plan) (c : Conditions) (i : Interlude) (duration : Int) (s : Session) : Progress :=
  if duration ≤ 0 then { session := s }
  else
    let s := s.enter i.stage
    let s := { s with trace := s.trace ++ [TraceEntry.idling i duration] }
    (s.await c.timeline duration).andThen fun s => s.emit (p.idleEvent c i duration)

/-- The run idles before teardown if the verdict is this one. -/
def idlesBeforeTeardown (p : Plan) (status : Status) : Bool :=
  p.idles && p.scenario.afterTest = .stayInApp && status = .passed

/-- Idle until the teardown is due. -/
def idleBeforeTeardown (p : Plan) (c : Conditions) (origin : Int) (status : Status) (s : Session) :
    Progress :=
  if p.idlesBeforeTeardown status then
    p.idle c .beforeTeardown (p.remaining c origin s - 2 * p.leeway) s
  else { session := s }

/-- Idle until the next scenario is due. -/
def idleBeforeNext (p : Plan) (c : Conditions) (origin : Int) (s : Session) : Progress :=
  if p.idles then p.idle c .beforeNext (p.remaining c origin s) s else { session := s }

/-! ### The journey -/

/-- Note that the construction of the journey began, if it came to that. -/
def construct (p : Plan) (begun : Bool) (s : Session) : Session :=
  if begun then { s with log := s.log ++ p.journey.constructionLog s.now } else s

/-- The journey's body under its deadline. -/
def attemptBody (p : Plan) (c : Conditions) (s : Session) : Except Unenforced Enforced :=
  Deadline.attempt c.timeline s.now p.budget c.grace s.arguments p.journey.opening

/-- Record a verdict on the body. -/
def record (p : Plan) (c : Conditions) (v : Verdict) (s : Session) : Progress :=
  ((s.enter (.ofStatus v.status)).emit (p.finishedEvent c v)).andThen fun s =>
    s.announceFault p.description v.fault

/-- The journey gets constructed: its construction, which runs first under the deadline, gets to its
end. -/
def constructs (p : Plan) (c : Conditions) (s : Session) : Bool :=
  Deadline.completes c.timeline s.now p.budget c.grace s.arguments p.journey.construction

/-- Clean up within the leeway, if the journey knows how to. -/
def cleanUp (p : Plan) (c : Conditions) (s : Session) : Progress :=
  match p.journey.tearDown with
  | none => { session := s }
  | some commands =>
    match Deadline.attempt c.timeline s.now p.leeway c.grace s.arguments commands with
    | .error u => s.giveUp u
    | .ok e =>
      ((s.absorb e).emit (p.teardownEvent c e.verdict)).andThen fun s =>
        s.announceFault p.description e.verdict.fault

/-- Tear the journey down if it was constructed. -/
def tearDown (p : Plan) (c : Conditions) (constructed : Bool) (s : Session) : Progress :=
  if constructed then p.cleanUp c (s.enter .teardown) else { session := s }

/-- Everything that follows the verdict on the body. -/
def conclude (p : Plan) (c : Conditions) (origin : Int) (constructed : Bool) (v : Verdict)
    (s : Session) : Progress :=
  (((p.record c v s).andThen (p.idleBeforeTeardown c origin v.status)).andThen
    (p.tearDown c constructed)).andThen
    fun s => s.announce (.finished p.description)

/-- Run the journey from its start to the end of its teardown. -/
def execute (p : Plan) (c : Conditions) (origin : Int) (s : Session) : Progress :=
  (s.announce (.started p.description)).andThen fun s =>
    let s := s.enter .running
    match p.attemptBody c s with
    | .error u => (p.construct u.begun s).giveUp u
    | .ok e => p.conclude c origin (p.constructs c s) e.verdict ((p.construct true s).absorb e)

/-- Pass over an excluded journey. -/
def skip (p : Plan) (c : Conditions) (s : Session) : Progress :=
  ((s.enter .skipped).emit (p.ignoredEvent c)).andThen fun s => s.announce (.ignored p.description)

/-- What happens while the arguments are overridden. -/
def body (p : Plan) (c : Conditions) (origin : Int) (s : Session) : Progress :=
  (if p.isIgnored then p.skip c s else p.execute c origin s).andThen (p.idleBeforeNext c origin)

/-- Put the arguments back. -/
def restore (token : Token) (s : Session) : Session :=
  { s with arguments := (s.arguments.restore token).1 }.enter .argumentsRestored

/-- Run a scenario. -/
def run (p : Plan) (c : Conditions) (s : Session) : Progress :=
  let origin := c.timeline.clock s.now
  let token := s.arguments.save
  let s := { s with arguments := s.arguments.overlay p.scenario.pairs }.enter .argumentsOverridden
  (s.emit (p.overriddenEvent c)).andThen fun s =>
    ((p.body c origin s).always (restore token)).andThen fun s => { session := s.enter .done }

/-- Run a scenario again and again: how each run ended, and the session after the last. -/
def runTimes (p : Plan) (c : Conditions) : Nat → Session → List (Option Fault) × Session
  | 0, s => ([], s)
  | n + 1, s =>
    let progress := p.run c s
    let (faults, s) := runTimes p c n progress.session
    (progress.fault :: faults, s)

end Plan

end Timebox
