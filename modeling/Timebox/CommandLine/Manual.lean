import Timebox.CommandLine.Flag

/-!
# The manual of the command line

What is printed when help is asked for, and the line of usage that stands before a complaint.
-/

namespace Timebox.CommandLine

namespace Flag

/-- The name of a flag's value in the manual. -/
def valueName : Flag → String
  | scenario => "SCENARIO"
  | window => "WINDOW_MS"
  | profile => "PROFILE"
  | journey => "JOURNEY"
  | argument => "ARG"
  | exclude => "EXCLUDE"
  | teardownWindow => "TEARDOWN_WINDOW_MS"
  | logPath => "LOG_PATH"
  | _ => ""

/-- What a flag is for. -/
def purpose : Flag → String
  | help => "show this help message and exit"
  | scenario => "Path to scenario descriptor YAML"
  | window => "Allotted window for the scenario"
  | hasNext => "Idle until the window closes"
  | profile => "Path to runner profile YAML"
  | journey => "Override the descriptor's journey identifier"
  | argument => "KEY=VALUE argument"
  | exclude => "Canonical journey name to skip"
  | console => "Print observability events as JSON"
  | _ => ""

/-- A spelling of a flag with the name of its value. -/
def pattern (f : Flag) (spelling : String) : String :=
  if f.takesValue then spelling ++ " " ++ f.valueName else spelling

/-- The lines of a flag in the manual. -/
def manual (f : Flag) : List String :=
  ["  " ++ ", ".intercalate (f.spellings.map f.pattern)] ++
    if f.purpose.isEmpty then [] else ["      " ++ f.purpose]

end Flag

/-- The line of usage. -/
def usage : String := "usage: run --scenario SCENARIO --window-ms WINDOW_MS [options]"

/-- The manual. -/
def manual : List String :=
  [usage, "", "Scheduled scenario runner CLI", "", "options:"] ++ Flag.ofRun.flatMap Flag.manual

end Timebox.CommandLine
