import Timebox.Journey.Step

/-!
# Bodies

A body is the sequence of steps that runs under one deadline: the steps of several phases one after
the other. Running it gives the log of its steps and says how it ended; after a fault, or once it is
abandoned, its later steps do not happen.
-/

namespace Timebox

/-- The part of a journey that a step belongs to. -/
inductive Phase where
  | setUp
  | run
  | tearDown
  | body
  | main
  deriving DecidableEq, Repr

/-- The word of a phase. -/
def Phase.word : Phase → String
  | setUp => "set_up"
  | run => "run"
  | tearDown => "tear_down"
  | body => "body"
  | main => "main"

/-- A step with its phase; a step that is not recorded leaves no trace in the log. -/
structure Command where
  phase : Phase
  step : Step
  recorded : Bool := true
  deriving Repr

/-- How a logged step went. -/
inductive Outcome where
  | value (v : StepValue)
  | raised (className : String)
  deriving Repr

/-- An entry of the log. -/
inductive LogEntry where
  /-- A journey was constructed. -/
  | constructed (instant : Nat)
  /-- A step was taken. -/
  | step (phase : Phase) (word : String) (outcome : Outcome) (instant : Nat)
  deriving Repr

/-- How a body ended. -/
inductive Ending where
  | returned
  | raised (fault : Fault)
  /-- It was still running at its limit. -/
  | abandoned
  /-- It never ends. -/
  | endless
  deriving Repr

/-- The course of a body. -/
structure Course where
  ending : Ending
  /-- Where it stood after its last finished step. -/
  last : Moment
  log : List LogEntry

/-- Put an entry in front of the log. -/
def Course.noting (c : Course) (command : Command) (outcome : Outcome) (instant : Nat) : Course :=
  if command.recorded then
    { c with log := .step command.phase command.step.word outcome instant :: c.log }
  else c

/-- Run commands from a moment on. -/
def runCommands (around : Surroundings) : List Command → Moment → Course
  | [], m => { ending := .returned, last := m, log := [] }
  | c :: cs, m =>
    match c.step.take around m with
    | .done v m' => (runCommands around cs m').noting c (.value v) m'.now
    | .raised f m' =>
      Course.noting { ending := .raised f, last := m', log := [] } c (.raised f.className) m'.now
    | .abandoned => { ending := .abandoned, last := m, log := [] }
    | .endless => { ending := .endless, last := m, log := [] }

/-- The commands of a phase. -/
def commandsOf (phase : Phase) (steps : List Step) : List Command :=
  steps.map fun s => { phase := phase, step := s }

end Timebox
