import Timebox.Arguments.Program
import Timebox.Duration
import Timebox.Timeline

/-!
# Steps of journeys

A journey is a sequence of steps. A step idles, works without listening, looks at the cancellation
signal or the clock, reads or overrides arguments, or raises a fault. This file says what a single
step does: what it answers, how long it lasts, and how the signal cuts it short.

Idling listens to the signal and ends when it is raised; working does not. The signal may be raised
by the journey itself or from outside, at a set instant. Who acts first at that instant is part of
the signal: a watchdog raises it after everything else that happens at the instant, so a step that
ends just then has not seen it.
-/

namespace Timebox

/-- A positive number of milliseconds. -/
structure Span where
  ms : Nat
  positive : 0 < ms

instance : DecidableEq Span
  | ⟨m, hm⟩, ⟨n, hn⟩ =>
    if h : m = n then isTrue (by subst h; rfl) else isFalse fun e => h (congrArg Span.ms e)

instance : Repr Span := ⟨fun s n => reprPrec s.ms n⟩

/-- One step of a journey. -/
inductive Step where
  /-- Idle for some milliseconds, or until the signal. -/
  | idle (ms : Int)
  /-- Idle for as many milliseconds as an argument says. -/
  | idleArgument (key : String) (default : Int)
  /-- Work for some milliseconds without listening to the signal. -/
  | busy (ms : Int)
  /-- Idle again and again until the signal. -/
  | idleLoop (span : Span)
  /-- Raise a fault if the signal is set. -/
  | check
  | isCancelled
  /-- Set the signal. -/
  | cancel
  | clock
  | arguments
  | raise (fault : Fault)
  | operate (op : ArgumentOp)
  deriving Repr

/-- The word of an operation on arguments. -/
def ArgumentOp.word : ArgumentOp → String
  | get .. => "get"
  | integer .. => "get_int"
  | contains _ => "contains"
  | size => "len"
  | save _ => "snapshot"
  | override .. => "override"
  | restore _ => "restore"
  | sameTexts _ => "same"
  | sameArguments _ => "same_store"
  | block .. => "scoped"

/-- The word of a step. -/
def Step.word : Step → String
  | idle _ => "idle"
  | idleArgument .. => "idle_arg"
  | busy _ => "busy"
  | idleLoop _ => "loop_idle"
  | check => "check"
  | isCancelled => "is_cancelled"
  | cancel => "cancel"
  | clock => "clock"
  | arguments => "args"
  | raise _ => "raise"
  | operate op => op.word

/-- What a step answers. -/
inductive StepValue where
  | nothing
  | flag (b : Bool)
  | calls (n : Nat)
  | reading (n : Int)
  | arguments (a : Arguments)
  | reply (r : Reply)
  deriving Repr

/-- A signal that is raised from outside. -/
structure Signal where
  /-- When it is raised. -/
  instant : Nat
  /-- It is raised before the other things that happen at its instant. -/
  leads : Bool
  deriving DecidableEq, Repr

/-- The signal has been raised when a step ends at an instant. -/
def Signal.precedes (s : Signal) (t : Nat) : Bool :=
  if s.leads then s.instant ≤ t else s.instant < t

/-- The signal, if there is one, has been raised when a step ends at an instant. -/
def raisedBy (signal : Option Signal) (t : Nat) : Bool :=
  match signal with
  | some s => s.precedes t
  | none => false

/-- How often a loop of idles is called when it starts at `t` and the signal ends it. -/
def Signal.loopCalls (s : Signal) (t : Nat) (span : Span) : Nat :=
  (if s.leads then s.instant - t - 1 else s.instant - t) / span.ms + 1

/-- The surroundings in which steps are taken. -/
structure Surroundings where
  timeline : Timeline
  /-- The signal from outside, if it is ever raised. -/
  signal : Option Signal
  /-- The last instant at which a step may end; one that lasts longer is abandoned. -/
  limit : Option Nat

/-- Where a journey stands between two steps. -/
structure Moment where
  now : Nat
  /-- The cancellation signal is set. -/
  cancelled : Bool := false
  /-- It was raised from outside. -/
  signalled : Bool := false
  arguments : Arguments
  deriving DecidableEq

/-- How a step ends. -/
inductive StepEnd where
  | done (value : StepValue) (m : Moment)
  | raised (fault : Fault) (m : Moment)
  /-- It would have ended too late. -/
  | abandoned
  /-- It never ends. -/
  | endless

namespace Moment

/-- Time passes until an instant. -/
def pass (m : Moment) (signal : Option Signal) (t : Nat) : Moment :=
  if raisedBy signal t then { m with now := t, cancelled := true, signalled := true }
  else { m with now := t }

/-- The signal cuts an idle short. -/
def cutAt (m : Moment) (s : Signal) : Moment :=
  { m with now := max m.now s.instant, cancelled := true, signalled := true }

/-- Idle, and say whether the signal is set at the end. -/
def idle (m : Moment) (signal : Option Signal) (ms : Int) : Bool × Moment :=
  if ms ≤ 0 then (m.cancelled, m)
  else if m.cancelled then (true, m)
  else
    let stop := m.now + ms.toNat
    match signal with
    | some s => if s.precedes stop then (true, m.cutAt s) else (false, { m with now := stop })
    | none => (false, { m with now := stop })

end Moment

/-- The reply of an operation as the end of a step. -/
def Reply.stepEnd (r : Reply) (m : Moment) : StepEnd :=
  match r with
  | .fault f after => .raised f { m with arguments := after }
  | .value v after => .done (.reply (.value v after)) { m with arguments := after }
  | .block inner outcome after =>
    .done (.reply (.block inner outcome after)) { m with arguments := after }

/-- Idle as a step: it is abandoned when it lasts beyond the limit, and too many milliseconds are a
fault. -/
def Moment.idleStep (around : Surroundings) (m : Moment) (ms : Int) : StepEnd :=
  if isMeasurable ms.toNat then
    let (cut, m) := m.idle around.signal ms
    if around.limit.any (· < m.now) then .abandoned else .done (.flag cut) m
  else .raised .immeasurable m

/-- Idle again and again as a step. -/
def Moment.loopStep (around : Surroundings) (m : Moment) (span : Span) : StepEnd :=
  if isMeasurable span.ms then
    if m.cancelled then .done (.calls 1) m
    else match around.signal with
      | some s => .done (.calls (s.loopCalls m.now span)) (m.cutAt s)
      | none => .endless
  else .raised .immeasurable m

/-- Take one step. -/
def Step.take (around : Surroundings) (m : Moment) : Step → StepEnd
  | idle ms => m.idleStep around ms
  | idleArgument key default =>
    match Arguments.integer m.arguments key default with
    | .error f => .raised f m
    | .ok ms => m.idleStep around ms
  | busy ms =>
    let stop := m.now + ms.toNat
    match around.limit with
    | some limit => if limit < stop then .abandoned else .done .nothing (m.pass around.signal stop)
    | none => .done .nothing (m.pass around.signal stop)
  | idleLoop span => m.loopStep around span
  | check => if m.cancelled then .raised .cancelledAtDeadline m else .done .nothing m
  | isCancelled => .done (.flag m.cancelled) m
  | cancel => .done .nothing { m with cancelled := true }
  | clock => .done (.reading (around.timeline.clock m.now)) m
  | arguments => .done (.arguments m.arguments) m
  | raise fault => .raised fault m
  | operate op => (op.run { arguments := m.arguments }).1.stepEnd m

end Timebox
