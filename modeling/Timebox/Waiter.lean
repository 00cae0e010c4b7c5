import Timebox.Alarm.Bank
import Timebox.Duration

/-!
# Waiters

A waiter blocks for a duration with an alarm armed for that duration: the block ends when the alarm
fires, at the latest after the duration, or after a shorter or longer limit if one is given. Each
wait arms one alarm and cancels it at its end, so no wait is woken by the alarm of another. A block
that is too long to be waited for is a fault; it shows once the alarm is armed.
-/

namespace Timebox

/-- An alarm as a waiter uses it. -/
inductive AlarmClock where
  /-- It watches the clock. -/
  | polling (bank : Alarm.Bank)
  /-- It never fires. -/
  | silent
  /-- It fires while it is being armed. -/
  | immediate

/-- What a waiter asks of its alarm. -/
inductive AlarmCall where
  | set (delay : Int)
  | cancel
  deriving DecidableEq, Repr

/-- How a wait went. -/
structure Waited where
  /-- The alarm ended it. -/
  woken : Bool
  /-- The instant at which it ended. -/
  now : Nat
  /-- What was asked of the alarm. -/
  calls : List AlarmCall
  /-- The alarm afterwards. -/
  alarm : AlarmClock
  /-- The fault with which it ended. -/
  fault : Option Fault := none

namespace Waiter

/-- A wait that a waiter is asked for, some time after the one before it is over. -/
structure Call where
  gap : Nat := 0
  duration : Int
  limit : Option Int := none
  deriving DecidableEq, Repr

/-- A waiter's own alarm when none is given: it polls every fifty milliseconds. -/
def defaultAlarm : AlarmClock :=
  .polling (.ofPoll 50)

/-- The length of the block: the limit if one is given, else the duration, and never negative. -/
def blockLength (duration : Int) (limit : Option Int) : Nat :=
  (limit.getD duration).toNat

/-- Block with an armed alarm up to and including a last instant: whether and when it fired. -/
def blockUntil (tl : Timeline) (bank : Alarm.Bank) (token last : Nat) : Bool × Nat :=
  match bank.firesBy? tl token last with
  | some t => (true, t)
  | none => (false, last)

/-- Arm the alarm and disarm it again at once. -/
def failedWait (tl : Timeline) (alarm : AlarmClock) (now : Nat) (duration : Int) : Waited :=
  let alarm := match alarm with
    | .polling bank =>
      let (armed, token) := bank.arm tl now duration
      .polling (armed.cancel token)
    | other => other
  { woken := false, now, calls := [.set duration, .cancel], alarm, fault := some .immeasurable }

/-- Wait for a duration. A duration that is not positive ends at once and leaves the alarm alone. -/
def wait (tl : Timeline) (alarm : AlarmClock) (now : Nat) (duration : Int) (limit : Option Int) :
    Waited :=
  if duration ≤ 0 then { woken := false, now := now, calls := [], alarm := alarm }
  else if !isMeasurable (blockLength duration limit) then failedWait tl alarm now duration
  else
    let last := now + blockLength duration limit
    let calls := [AlarmCall.set duration, .cancel]
    match alarm with
    | .silent => { woken := false, now := last, calls := calls, alarm := .silent }
    | .immediate => { woken := true, now := now, calls := calls, alarm := .immediate }
    | .polling bank =>
      let (armed, token) := bank.arm tl now duration
      let (woken, stop) := blockUntil tl armed token last
      { woken := woken, now := stop, calls := calls,
        alarm := .polling (armed.cancel token) }

/-- Wait again and again with one alarm. -/
def waits (tl : Timeline) : AlarmClock → Nat → List Call → List Waited
  | _, _, [] => []
  | alarm, now, c :: cs =>
    let waited := wait tl alarm (now + c.gap) c.duration c.limit
    waited :: waits tl waited.alarm waited.now cs

end Waiter

end Timebox
