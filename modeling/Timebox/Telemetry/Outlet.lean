import Timebox.Fault.Basic
import Timebox.Telemetry.Tally

/-!
# Outlets for events

A run emits its events to an outlet, which delivers them to sinks. A single sink is used as it is,
and its faults come back to the run. Several sinks stand behind a guard, which contains ordinary
faults, so every sink gets every event; any other fault ends the delivery. An outlet keeps what was
delivered and over which channel, first to last.
-/

namespace Timebox.Telemetry

/-- Where a sink takes its events. -/
inductive Channel where
  /-- To the tally of the run. -/
  | tally
  /-- To the console, as lines. -/
  | console
  /-- Nowhere. -/
  | discard
  /-- To an observer of a number. -/
  | observer (id : Nat)
  deriving DecidableEq, Repr

/-- A sink for events. -/
structure Sink where
  channel : Channel
  /-- The fault that it raises instead of taking an event, given how many events were emitted
  before. -/
  fault : Nat → Event → Option Fault := fun _ _ => none

/-- The console. It raises a fault instead of taking an event that has no line. -/
def Sink.console : Sink :=
  { channel := .console, fault := fun _ e => if e.isWritable then none else some .tooManyDigits }

/-- A sink that takes no event. -/
def Sink.broken : Sink :=
  { channel := .discard, fault := fun _ _ => some (.general .notImplemented none) }

/-- An event that was delivered over a channel. -/
structure Delivery where
  channel : Channel
  event : Event
  deriving Repr

/-- Sinks, and what they have been delivered. -/
structure Outlet where
  /-- Ordinary faults of sinks are contained. -/
  guarded : Bool := true
  sinks : List Sink := []
  emitted : Nat := 0
  delivered : List Delivery := []

namespace Outlet

/-- A sink used as it is. -/
def single (s : Sink) : Outlet := { guarded := false, sinks := [s] }

/-- Several sinks behind a guard. -/
def composite (sinks : List Sink) : Outlet := { sinks := sinks }

/-- The fault comes back to the run. -/
def lets (guarded : Bool) (f : Fault) : Bool :=
  !(guarded && f.isOrdinary)

/-- Deliver an event to sinks: what was delivered, and the fault that ended the delivery. -/
def deliver (guarded : Bool) (emitted : Nat) (e : Event) : List Sink → List Delivery × Option Fault
  | [] => ([], none)
  | s :: ss =>
    match s.fault emitted e with
    | none =>
      let (rest, fault) := deliver guarded emitted e ss
      ({ channel := s.channel, event := e } :: rest, fault)
    | some f => if lets guarded f then ([], some f) else deliver guarded emitted e ss

/-- Emit an event: the outlet afterwards, and the fault that comes back. -/
def emit (o : Outlet) (e : Event) : Outlet × Option Fault :=
  let (delivered, fault) := deliver o.guarded o.emitted e o.sinks
  ({ o with emitted := o.emitted + 1, delivered := o.delivered ++ delivered }, fault)

/-- The events delivered over a channel. -/
def events (o : Outlet) (c : Channel) : List Event :=
  (o.delivered.filter fun d => d.channel = c).map Delivery.event

/-- The tally of the run. -/
def tally (o : Outlet) : Tally :=
  .ofEvents (o.events .tally)

/-- The lines on the console. -/
def lines (o : Outlet) : List String :=
  (o.events .console).map Event.line

end Outlet

end Timebox.Telemetry
