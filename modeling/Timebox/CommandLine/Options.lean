import Timebox.Profile
import Timebox.Arguments.Basic
import Timebox.Text.Blank
import Timebox.Text.Cut

/-!
# Options of a run from the command line

The options are those of the profile, overridden by the arguments, overridden by the flags. A flag
that excludes journeys adds to what is excluded already.
-/

namespace Timebox.CommandLine

/-- The options with the leeway of a flag, if it was given. -/
def withTeardownWindow (options : Bindings) : Option Int → Bindings
  | some n => options.set leewayOption (toString n)
  | none => options

/-- The entries that options exclude; blank entries do not count. -/
def excludedBy (options : Bindings) : List String :=
  (Text.splitAt ',' ((options.get? excludeOption).getD "")).filter fun e => !Text.isAllBlank e

/-- The options with further exclusions. -/
def withExclusions (options : Bindings) (more : List String) : Bindings :=
  let entries := excludedBy options ++ more
  if entries.isEmpty then options else options.set excludeOption (",".intercalate entries)

/-- The options of a run, if the profile has options. -/
def optionsOf (p : Profile) (arguments : Arguments) (teardownWindow : Option Int)
    (exclude : List String) : Option Bindings :=
  p.options?.map fun options =>
    withExclusions (withTeardownWindow (options.overlay arguments.entries) teardownWindow) exclude

end Timebox.CommandLine
