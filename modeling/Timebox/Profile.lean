import Timebox.Bindings
import Timebox.Validation.Record

/-!
# Profiles

A profile holds the settings that runs share: the leeway reserved for teardown, how often alarms
look at the clock, how long a cancelled journey may linger, which journeys are excluded, and default
arguments. Seen as options, a profile gives its arguments, its leeway if that was stated, and its
exclusions if there are any.
-/

namespace Timebox

open Validation

/-- The option that excludes journeys. -/
def excludeOption : String := "exclude-class"

/-- The option that reserves time for teardown. -/
def leewayOption : String := "teardown-window-ms"

/-- The milliseconds reserved for teardown when nothing is said. -/
def defaultLeeway : Nat := 3000

/-- The milliseconds between two looks at the clock when nothing is said. -/
def defaultPoll : Nat := 50

/-- The milliseconds that a cancelled journey may linger when nothing is said. -/
def defaultGrace : Nat := 100

/-- Settings that runs share. -/
structure Profile where
  name : String := "local"
  /-- The leeway, if it was stated. -/
  statedLeeway : Option Int := none
  poll : Int := defaultPoll
  grace : Int := defaultGrace
  exclude : List String := []
  arguments : Bindings := .empty
  deriving DecidableEq, Repr

namespace Profile

/-- The leeway, stated or not. -/
def leeway (p : Profile) : Int :=
  p.statedLeeway.getD defaultLeeway

/-- A list of texts. -/
def checkTexts : Value → Checked (List String)
  | .list items => checkItems checkText 0 items
  | _ => fail .notAList

/-- Check the values of a mapping, each at its key. -/
def checkEntries : Fields → Checked (List (String × String))
  | [] => .ok []
  | (k, v) :: rest =>
    match Checked.both ((checkText v).at (.field k)) (checkEntries rest) with
    | .ok (s, rest) => .ok ((k, s) :: rest)
    | .error e => .error e

/-- A mapping to texts. -/
def checkArguments : Value → Checked (List (String × String))
  | .map entries => checkEntries (fieldsOf entries)
  | _ => fail .notAMapping

/-- An integer that is at least `least`, as stated. -/
def checkStated (least : Int) (v : Value) : Checked (Option Int) :=
  match checkAtLeast least v with
  | .ok n => .ok (some n)
  | .error e => .error e

/-- Check the fields of a profile. -/
def ofFields (fields : Fields) : Checked Profile :=
  let first := Checked.both (optionalField fields "profile_id" "local" checkText)
    (optionalField fields "teardown_leeway_ms" none (checkStated 0))
  let times := Checked.both
    (optionalField fields "alarm_poll_ms" (defaultPoll : Int) (checkAtLeast 1))
    (optionalField fields "cancel_grace_ms" (defaultGrace : Int) (checkAtLeast 0))
  let last := Checked.both (optionalField fields "exclude" [] checkTexts)
    (optionalField fields "arguments" [] checkArguments)
  let unknown := unknownFields
    ["profile_id", "teardown_leeway_ms", "alarm_poll_ms", "cancel_grace_ms", "exclude", "arguments"]
    fields
  match Checked.both (Checked.both first (Checked.both times last)) unknown with
  | .ok (((name, statedLeeway), ((poll, grace), (exclude, arguments))), ()) =>
    .ok { name, statedLeeway, poll, grace, exclude, arguments := .ofPairs arguments }
  | .error e => .error e

/-- The profile's arguments with its leeway, if that was stated. -/
def optionsWithLeeway (p : Profile) : Bindings :=
  match p.statedLeeway with
  | some n => p.arguments.set leewayOption (toString n)
  | none => p.arguments

/-- A stated leeway has a text. -/
def isLeewayWritable (p : Profile) : Bool :=
  p.statedLeeway.all Value.isWritableInteger

/-- The profile as options of a run: its arguments, its leeway if that was stated, and its
exclusions, separated by commas, if there are any. There are no options if the leeway has no
text. -/
def options? (p : Profile) : Option Bindings :=
  if p.isLeewayWritable then
    some <|
      if p.exclude.isEmpty then p.optionsWithLeeway
      else p.optionsWithLeeway.set excludeOption (",".intercalate p.exclude)
  else none

end Profile

end Timebox
