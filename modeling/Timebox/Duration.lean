import Timebox.Fault.Basic
import Timebox.Number.Binary64

/-!
# Durations that can be waited for

A wait takes its length as a floating-point number of seconds. Milliseconds that are too many for
the format have no such length, so whoever asks for them gets a fault and no time passes.
-/

namespace Timebox

/-- Some milliseconds can be waited for. -/
def isMeasurable (ms : Nat) : Bool := ms < Binary64.overflowBound

/-- A wait was too long for the format. -/
def Fault.immeasurable : Fault :=
  general .tooLarge (some "int too large to convert to float")

/-- What is shorter than a measurable wait is measurable. -/
theorem isMeasurable_of_le {m n : Nat} (h : m ≤ n) (hn : isMeasurable n = true) :
    isMeasurable m = true := by
  simp only [isMeasurable, decide_eq_true_eq] at *
  omega

end Timebox
