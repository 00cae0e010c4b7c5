import Timebox.Alarm.Bank

/-!
# Vigils

A caller arms alarms, cancels them by their tokens and sleeps. Time passes only while the caller
sleeps, so alarms fire only then; one that is due at the end of a sleep fires before the caller goes
on. Cancelling an alarm that has fired, or that was never armed, changes nothing.
-/

namespace Timebox.Alarm

/-- What a caller does with alarms. -/
inductive Act where
  | arm (delay : Int)
  | cancel (token : Nat)
  | sleep (ms : Nat)
  deriving DecidableEq, Repr

/-- A bank of alarms at an instant, with what has fired up to then, first to last. -/
structure Vigil where
  now : Nat
  bank : Bank
  fired : List Firing := []

namespace Vigil

/-- The caller does something. -/
def act (tl : Timeline) (v : Vigil) : Act → Vigil
  | .arm delay => { v with bank := (v.bank.arm tl v.now delay).1 }
  | .cancel token => { v with bank := v.bank.cancel token }
  | .sleep ms =>
    let (firings, bank) := v.bank.advance tl (v.now + ms)
    { now := v.now + ms, bank, fired := v.fired ++ firings }

/-- The caller does several things, one after the other. -/
def run (tl : Timeline) (v : Vigil) (acts : List Act) : Vigil :=
  acts.foldl (act tl) v

/-- A vigil that begins at an instant, with a poll interval. -/
def start (now : Nat) (poll : Int) : Vigil :=
  { now, bank := .ofPoll poll }

end Vigil

end Timebox.Alarm
