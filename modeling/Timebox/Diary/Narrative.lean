import Timebox.Value.Basic

/-!
# The narrative

The narrative file keeps what a reader of a run wants to know: everything from warnings up, records
marked as narrative, and whatever the runner itself reports.
-/

namespace Timebox.Diary

/-- The level of warnings. -/
def warningLevel : Int := 30

/-- The name under which the runner reports. -/
def runnerName : String := "longevity.scheduled_runner.runner"

/-- The record belongs to the narrative. -/
def isNarrative (name : String) (level : Int) (mark : Option Value) : Bool :=
  level ≥ warningLevel ||
    (match mark with
      | some v => !v.isEmptyish
      | none => false) ||
    runnerName.isPrefixOf name

end Timebox.Diary
