import Timebox.Notice.Panel
import Timebox.Run.Stage
import Timebox.Telemetry.Outlet
import Timebox.Waiter

/-!
# Sessions

A session is what changes while runs go on: the time, the arguments, the listeners and sinks with
what they were told, the idler, and the records that are kept. Each thing that a run does to a
session makes progress, and progress may end with a fault. After a fault nothing more happens, save
for what is done always.
-/

namespace Timebox

/-- How an idler answers one request. -/
inductive Pause where
  /-- It idles as long as requested. -/
  | requested
  /-- It idles for some milliseconds, whatever was requested. -/
  | exactly (ms : Int)
  /-- It raises a fault. -/
  | failing (fault : Fault)
  deriving Repr

/-- Who idles for a run. -/
inductive Idler where
  /-- A waiter with an alarm. -/
  | waiter (alarm : AlarmClock)
  /-- Someone who answers requests in some other way, given how many there were before and the
  duration that is asked for. -/
  | other (answer : Nat → Int → Pause) (asked : Nat)

/-- An idler that follows a script of pauses; when it is used up, requests are met. -/
def Idler.script (pauses : List Pause) : Idler :=
  .other (fun asked _ => pauses.getD asked .requested) 0

/-- What runs share and do not change: how time goes, how long a cancelled journey may linger, and
the time stamp of events. -/
structure Conditions where
  timeline : Timeline
  grace : Nat
  stamp : String

/-- What changes while runs go on. -/
structure Session where
  now : Nat
  arguments : Arguments
  stage : Stage := .initial
  panel : Panel
  outlet : Telemetry.Outlet
  idler : Idler
  log : List LogEntry := []
  trace : List TraceEntry := []
  /-- The durations for which the idler was asked to idle. -/
  requests : List Int := []

/-- A session, and the fault with which the last thing done to it ended. -/
structure Progress where
  session : Session
  fault : Option Fault := none

namespace Progress

/-- Go on if there was no fault. -/
def andThen (p : Progress) (next : Session → Progress) : Progress :=
  match p.fault with
  | none => next p.session
  | some _ => p

/-- Do something, fault or no fault. -/
def always (p : Progress) (last : Session → Session) : Progress :=
  { p with session := last p.session }

end Progress

namespace Session

/-- Enter a stage. -/
def enter (s : Session) (stage : Stage) : Session :=
  { s with stage := stage, trace := s.trace ++ [.entered stage s.now] }

/-- Tell the listeners. -/
def announce (s : Session) (n : Notice) : Progress :=
  let (panel, fault) := s.panel.announce n
  { session := { s with panel := panel }, fault := fault }

/-- Tell the listeners about a fault, if there is one. -/
def announceFault (s : Session) (d : Description) : Option Fault → Progress
  | none => { session := s }
  | some f => s.announce (.failure ⟨d, f⟩)

/-- Emit an event; ordinary faults of the outlet are contained. -/
def emit (s : Session) (e : Telemetry.Event) : Progress :=
  let (outlet, fault) := s.outlet.emit e
  { session := { s with outlet := outlet }, fault := Fault.escaping fault }

/-- Answer a request to idle. -/
def pause (s : Session) (duration : Int) : Pause → Progress
  | .requested => { session := { s with now := s.now + duration.toNat } }
  | .exactly ms => { session := { s with now := s.now + ms.toNat } }
  | .failing f => { session := s, fault := some f }

/-- Ask the idler to idle. -/
def await (s : Session) (tl : Timeline) (duration : Int) : Progress :=
  let s := { s with requests := s.requests ++ [duration] }
  match s.idler with
  | .waiter alarm =>
    let waited := Waiter.wait tl alarm s.now duration none
    { session := { s with now := waited.now, idler := .waiter waited.alarm }
      fault := waited.fault }
  | .other answer asked =>
    { s with idler := .other answer (asked + 1) }.pause duration (answer asked duration)

/-- Take over what a body left when its deadline has been enforced. -/
def absorb (s : Session) (e : Enforced) : Session :=
  { s with now := e.now, arguments := e.arguments, log := s.log ++ e.log }

/-- Take over what a body left when its deadline could not be enforced; that is a fault. -/
def giveUp (s : Session) (u : Unenforced) : Progress :=
  { session := { s with now := u.now, arguments := u.arguments, log := s.log ++ u.log }
    fault := some .immeasurable }

end Session

end Timebox
