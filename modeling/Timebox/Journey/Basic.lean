import Timebox.Journey.Body

/-!
# Journeys

A journey is what a scenario runs: it is constructed, it may prepare itself, it runs, and it may
clean up afterwards. Construction, preparation and run are one body under one deadline; cleaning up
is a body of its own. A blueprint describes a journey by its parts, some of which may be missing or
may not be callable at all.
-/

namespace Timebox

/-- Something that can be run. -/
structure Journey where
  /-- The canonical name: the module and the name in it. -/
  name : String
  /-- Its construction is noted in the log. -/
  announced : Bool := false
  /-- What its construction does; a construction that raises a fault makes no journey. -/
  construction : List Command := []
  /-- The preparation, if it can be called. -/
  setUp : Option (List Command) := some []
  run : List Command := []
  /-- The cleaning up, if it can be called. -/
  tearDown : Option (List Command) := some []
  deriving Repr

namespace Journey

/-- Preparation and run, which share a deadline. -/
def body (j : Journey) : List Command :=
  j.setUp.getD [] ++ j.run

/-- A command that raises a fault and leaves no note in the log. -/
def raising (fault : Fault) : Command :=
  { phase := .run, step := .raise fault, recorded := false }

/-- What happens under the deadline: the construction, and then the body. -/
def opening (j : Journey) : List Command :=
  j.construction ++ j.body

/-- The note that the construction leaves in the log when it begins. -/
def constructionLog (j : Journey) (now : Nat) : List LogEntry :=
  if j.announced then [.constructed now] else []

end Journey

/-- A part of a blueprint. -/
inductive Part where
  /-- The part is inherited, or missing if there is nothing to inherit from. -/
  | absent
  /-- The part is there and cannot be called. -/
  | inert
  | steps (xs : List Step)
  deriving Repr

/-- A description of a journey by its parts. -/
structure Blueprint where
  name : String
  module : String
  /-- It inherits nothing. -/
  bare : Bool := false
  setUp : Part := .absent
  run : Part := .absent
  tearDown : Part := .absent
  constructionFault : Option Fault := none
  deriving Repr

namespace Blueprint

/-- A hook: missing parts are inherited as empty, inert parts are not called. -/
def hook (b : Blueprint) (phase : Phase) : Part → Option (List Command)
  | .absent => if b.bare then none else some []
  | .inert => none
  | .steps xs => some (commandsOf phase xs)

/-- The fault of a journey that does not say how it runs. -/
def notImplemented : Fault :=
  .general .notImplemented none

/-- The run: what is inherited raises a fault without a note in the log. -/
def runCommands? (b : Blueprint) : Option (List Command) :=
  match b.run with
  | .absent =>
    if b.bare then none
    else some [Journey.raising notImplemented]
  | .inert => none
  | .steps xs => some (commandsOf .run xs)

/-- The canonical name. -/
def canonicalName (b : Blueprint) : String :=
  b.module ++ "." ++ b.name

/-- The journey of a blueprint, if it has a run that can be called. -/
def toJourney? (b : Blueprint) : Option Journey :=
  b.runCommands?.map fun run =>
    { name := b.canonicalName
      announced := true
      construction := (b.constructionFault.map Journey.raising).toList
      setUp := b.hook .setUp b.setUp
      run := run
      tearDown := b.hook .tearDown b.tearDown }

end Blueprint

end Timebox
