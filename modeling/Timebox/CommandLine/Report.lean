import Timebox.Catalogue.BuiltIn
import Timebox.CommandLine.Options
import Timebox.CommandLine.Request
import Timebox.Loading
import Timebox.Run.Execute

/-!
# Running from the command line

An invocation loads its profile and its scenario, settles the options, and runs the scenario once
with a real waiter. It prints a line for every event if the console was asked for, and then one line
that sums up the run; without that line it comes to nothing. The exit code tells whether any failure
was noticed.
-/

namespace Timebox.CommandLine

/-- Why a file has no text. -/
inductive FileFault where
  | missing
  | directory
  /-- Its bytes are no text. -/
  | undecodable
  deriving DecidableEq, Repr

/-- The texts of files by their paths. -/
abbrev Files := String → Except FileFault String

/-- Why an invocation comes to nothing. -/
inductive InvocationError where
  | file (path : String) (f : FileFault)
  | load (path : String) (e : LoadError)
  /-- The profile has no options, because its leeway has no text. -/
  | noOptions
  | plan (e : PlanError)
  /-- A fault left the run. -/
  | fault (f : Fault)
  /-- The summary has no line, because a number in it has no text. -/
  | noSummary

/-- The text of a fault of a file. -/
def FileFault.message : FileFault → String
  | missing => "no such file"
  | directory => "is a directory"
  | undecodable => "holds no text"

/-- The text of the error. -/
def InvocationError.message : InvocationError → String
  | file path f => path ++ ": " ++ f.message
  | load path e => e.message path
  | noOptions => "the leeway of the profile is too long to be written"
  | plan e => e.message
  | fault f => f.className ++ ": " ++ f.message
  | noSummary => "a number in the summary is too long to be written"

/-- A finished run. -/
structure Report where
  plan : Plan
  session : Session

/-- The number of the listener that records the run. -/
def recorder : Nat := 0

namespace Report

/-- The notices of the run. -/
def notices (r : Report) : List Notice :=
  r.session.panel.kept recorder

/-- The summary of the run. -/
def summary (r : Report) : Json :=
  .object [
    ("journey", .text r.plan.journey.name),
    ("at", .text r.plan.scenario.moment),
    ("teardown_leeway_ms", .int r.plan.leeway),
    ("effective_deadline_ms", .int r.plan.budget),
    ("events", .list (r.notices.map Notice.toJson)),
    ("metrics", r.session.outlet.tally.toJson)]

/-- What the run prints. -/
def lines (r : Report) : List String :=
  r.session.outlet.lines ++ [r.summary.line]

/-- The exit code: one if there was a failure. -/
def exitCode (r : Report) : Nat :=
  if (Notice.failures r.notices).isEmpty then 0 else 1

end Report

namespace Invocation

/-- The text of a file. -/
def readFile (files : Files) (path : String) : Except InvocationError String :=
  match files path with
  | .ok text => .ok text
  | .error f => .error (.file path f)

/-- Load the profile; without a path it is the default one. -/
def loadProfile (i : Invocation) (files : Files) (env : Bindings) :
    Except InvocationError Profile :=
  let path := i.profile.getD ""
  if path.isEmpty then .ok {}
  else match readFile files path with
    | .error e => .error e
    | .ok text =>
      match Profile.load Markup.reader env text with
      | .ok p => .ok p
      | .error e => .error (.load path e)

/-- Load the scenario. -/
def loadScenario (i : Invocation) (files : Files) (env : Bindings) :
    Except InvocationError Scenario :=
  match readFile files i.scenario with
  | .error e => .error e
  | .ok text =>
    match Scenario.load Markup.reader env text with
    | .ok s => .ok s
    | .error e => .error (.load i.scenario e)

/-- The arguments of the run: those of the profile, overridden by those of the command line. -/
def argumentsWith (i : Invocation) (p : Profile) : Arguments :=
  p.arguments.overlay i.arguments

/-- The journey to run: the one of the command line, unless it is empty, or the scenario's. -/
def journeyFor (i : Invocation) (s : Scenario) : String :=
  let own := i.journey.getD ""
  if own.isEmpty then s.journey else own

/-- Settle the run. -/
def planWith (i : Invocation) (cat : Catalogue) (p : Profile) (s : Scenario) :
    Except InvocationError Plan :=
  let arguments := i.argumentsWith p
  match optionsOf p arguments i.teardownWindow i.exclude with
  | none => .error .noOptions
  | some options =>
    match Plan.prepare cat (.identifier (.text (i.journeyFor s))) s (.int i.window)
        (.bool i.hasNext) (some options) arguments with
    | .error e => .error (.plan e)
    | .ok plan => .ok plan

/-- The sinks: the tally, and the console if it was asked for. The console takes every event here: a
number that its line cannot hold stands in the summary as well, and then there is no report. -/
def outlet (i : Invocation) : Telemetry.Outlet :=
  .composite ([{ channel := .tally }] ++ if i.console then [{ channel := .console }] else [])

/-- The session in which the run starts. -/
def session (i : Invocation) (p : Profile) : Session :=
  { now := 0
    arguments := i.argumentsWith p
    panel := .ofListeners [{ id := recorder }]
    outlet := i.outlet
    idler := .waiter (.polling (.ofPoll p.poll)) }

/-- Run a scenario with a profile. -/
def runWith (i : Invocation) (cat : Catalogue) (tl : Timeline) (stamp : String) (p : Profile)
    (s : Scenario) : Except InvocationError Report :=
  match i.planWith cat p s with
  | .error e => .error e
  | .ok plan =>
    let progress := plan.run { timeline := tl, grace := p.grace.toNat, stamp } (i.session p)
    match progress.fault with
    | some f => .error (.fault f)
    | none =>
      let report : Report := { plan, session := progress.session }
      if report.summary.isWritable then .ok report else .error .noSummary

/-- Load what an invocation names and run it. -/
def run (i : Invocation) (cat : Catalogue) (tl : Timeline) (stamp : String) (files : Files)
    (env : Bindings) : Except InvocationError Report :=
  match i.loadProfile files env with
  | .error e => .error e
  | .ok p =>
    match i.loadScenario files env with
    | .error e => .error e
    | .ok s => i.runWith cat tl stamp p s

end Invocation

end Timebox.CommandLine
