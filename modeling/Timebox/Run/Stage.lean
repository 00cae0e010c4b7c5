import Timebox.Deadline
import Timebox.Telemetry.Event

/-!
# Stages of a run

A run passes through stages: its arguments are overridden, its journey is skipped or runs and gets
its verdict, it may idle before teardown, it cleans up, it may idle before the next scenario, and
its arguments are restored. The trace of a run lists the stages as they are entered, and the idling
that was asked for.
-/

namespace Timebox

/-- A stage of a run. -/
inductive Stage where
  | initial
  | argumentsOverridden
  | skipped
  | running
  | passed
  | failed
  | timedOut
  | idleBeforeTeardown
  | teardown
  | idleBeforeNext
  | argumentsRestored
  | done
  deriving DecidableEq, Repr

namespace Stage

/-- The word of a stage. -/
def word : Stage → String
  | initial => "INIT"
  | argumentsOverridden => "ARGS_OVERRIDDEN"
  | skipped => "SKIPPED"
  | running => "RUNNING"
  | passed => "PASSED"
  | failed => "FAILED"
  | timedOut => "TIMED_OUT"
  | idleBeforeTeardown => "IDLE_BEFORE_TEARDOWN"
  | teardown => "TEARDOWN"
  | idleBeforeNext => "IDLE_BEFORE_NEXT"
  | argumentsRestored => "ARGS_RESTORED"
  | done => "DONE"

/-- The stage of a verdict. -/
def ofStatus : Status → Stage
  | .passed => passed
  | .failed => failed
  | .timedOut => timedOut
  | .ignored => skipped

end Stage

/-- How a verdict is reported. -/
def Status.outcome : Status → Telemetry.Outcome
  | passed => .ok
  | failed => .fail
  | timedOut => .timeout
  | ignored => .skip

/-- The two occasions on which a run idles. -/
inductive Interlude where
  | beforeTeardown
  | beforeNext
  deriving DecidableEq, Repr

namespace Interlude

/-- The word of an interlude. -/
def word : Interlude → String
  | beforeTeardown => "idle_before_teardown"
  | beforeNext => "idle_before_next"

/-- The stage in which an interlude happens. -/
def stage : Interlude → Stage
  | beforeTeardown => .idleBeforeTeardown
  | beforeNext => .idleBeforeNext

/-- How an interlude is reported. -/
def phase : Interlude → Telemetry.Phase
  | beforeTeardown => .idleBeforeTeardown
  | beforeNext => .idleBeforeNext

end Interlude

/-- An entry of a trace. -/
inductive TraceEntry where
  /-- A stage was entered. -/
  | entered (stage : Stage) (instant : Nat)
  /-- Idling of some length was asked for. -/
  | idling (interlude : Interlude) (duration : Int)
  deriving DecidableEq, Repr

end Timebox
