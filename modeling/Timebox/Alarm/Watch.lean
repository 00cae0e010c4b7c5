import Timebox.Duration
import Timebox.Timeline

/-!
# Watching the clock

An armed alarm looks at the clock at once and then again and again: after the time that is left, but
never later than one poll interval. It fires at its first look at which the clock has reached the
time it is due. If it would have to pause for longer than can be waited for, its watch ends there,
and it never fires.
-/

namespace Timebox.Alarm

/-- The instants until the next look, when some time is left. -/
def pause (remaining : Int) (poll : Nat) : Nat :=
  (min remaining poll).toNat

/-- A pause is not empty. -/
theorem pause_pos {remaining : Int} {poll : Nat} (h : 0 < remaining) (hp : 0 < poll) :
    0 < pause remaining poll := by
  simp only [pause]
  omega

/-- A pause is no longer than the poll interval. -/
theorem pause_le (remaining : Int) (poll : Nat) : pause remaining poll ≤ poll := by
  simp only [pause]
  omega

/-- How a watch stands at the end of a stretch of time. -/
inductive Watch where
  /-- The alarm fired. -/
  | fired (instant : Nat)
  /-- The next look comes after the stretch. -/
  | pending (look : Nat)
  /-- There was a pause that is too long to be waited for. -/
  | lost
  deriving DecidableEq, Repr

/-- Watch the clock from a look on, up to and including a last instant. -/
def watch (tl : Timeline) (poll : Nat) (hp : 0 < poll) (due : Int) (last look : Nat) : Watch :=
  if last < look then .pending look
  else if _h : due - tl.clock look ≤ 0 then .fired look
  else if !isMeasurable (pause (due - tl.clock look) poll) then .lost
  else watch tl poll hp due last (look + pause (due - tl.clock look) poll)
termination_by last + 1 - look
decreasing_by
  have h : 0 < due - tl.clock look := by omega
  have := pause_pos h hp
  omega

end Timebox.Alarm
