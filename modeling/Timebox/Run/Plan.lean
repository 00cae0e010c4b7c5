import Timebox.Catalogue.Basic
import Timebox.Exclusion
import Timebox.Profile
import Timebox.Scenario
import Timebox.Value.Number

/-!
# Plans of runs

A plan is all that is settled before a run starts: the journey, the scenario, the window, whether to
idle, and the options. The leeway is read from the options once; the journey gets the window without
the leeway as its budget. What happens to arguments afterwards does not change a plan.
-/

namespace Timebox

/-- Why the options give no leeway. -/
inductive LeewayError where
  | notAnInteger (text : String)
  | negative (n : Int)
  deriving DecidableEq, Repr

/-- The fault that reports the error. -/
def LeewayError.fault : LeewayError → Fault
  | notAnInteger text =>
    .badArgument (leewayOption ++ "=" ++ Text.quoted text ++ " is not an integer")
  | negative n => .badArgument (leewayOption ++ " must be >= 0, got " ++ toString n)

/-- The leeway that a text states; a blank text states nothing. -/
def leewayOfText (raw : String) : Except LeewayError Nat :=
  if Text.isAllBlank raw then .ok defaultLeeway
  else match Text.readBlankedInteger raw with
    | none => .error (.notAnInteger (Text.strip raw))
    | some n => if n < 0 then .error (.negative n) else .ok n.toNat

/-- The leeway that options state. -/
def leewayOf (options : Bindings) : Except LeewayError Nat :=
  match options.get? leewayOption with
  | none => .ok defaultLeeway
  | some raw => leewayOfText raw

/-- Why a run cannot be planned. -/
inductive PlanError where
  | unresolved (e : ResolveError)
  | window (e : Value.NumberError)
  | leeway (e : LeewayError)
  deriving DecidableEq, Repr

/-- The text of the error. -/
def PlanError.message : PlanError → String
  | unresolved e => e.fault.message
  | window e => "window: " ++ e.message
  | leeway e => e.fault.message

/-- What is settled before a run starts. -/
structure Plan where
  journey : Journey
  scenario : Scenario
  window : Int
  /-- The rest of the window is spent idling. -/
  idles : Bool
  options : Bindings
  leeway : Nat
  deriving Repr

namespace Plan

/-- Settle a run. Options that are not given are the arguments as they are now. -/
def prepare (cat : Catalogue) (target : Target) (scenario : Scenario) (window idles : Value)
    (options : Option Bindings) (arguments : Arguments) : Except PlanError Plan :=
  match target.resolve cat with
  | .error e => .error (.unresolved e)
  | .ok journey =>
    match window.wholeNumber with
    | .error e => .error (.window e)
    | .ok window =>
      let options := options.getD arguments
      match leewayOf options with
      | .error e => .error (.leeway e)
      | .ok leeway => .ok { journey, scenario, window, idles := !idles.isEmptyish, options, leeway }

/-- The milliseconds that the journey may take. -/
def budget (p : Plan) : Nat :=
  (p.window - p.leeway).toNat

/-- The options exclude the journey. -/
def isIgnored (p : Plan) : Bool :=
  Exclusion.excludes (p.options.get? excludeOption) p.journey.name

end Plan

end Timebox
