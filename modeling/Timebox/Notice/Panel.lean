import Timebox.Notice.Basic

/-!
# Panels of listeners

A panel tells its listeners about a run. Listeners are told in the order in which they joined. An
ordinary fault of a listener is contained: the others are told all the same. Any other fault ends
the round, and the listeners after it are not told. A listener may bring in another one while it is
told; the newcomer is told from the next notice on.
-/

namespace Timebox

/-- A listener. -/
structure Listener where
  /-- The number by which its notices can be found. -/
  id : Nat
  /-- It keeps what it is told. -/
  records : Bool := true
  /-- The fault that it raises instead when it is told something, given how often it has been told
  something before. -/
  fault : Nat → Notice → Option Fault := fun _ _ => none
  /-- The number of a recording listener that it brings in when it first hears of a start. -/
  recruit : Option Nat := none

/-- A listener on a panel, with what it has been told. -/
structure Seat where
  listener : Listener
  /-- How often it was told something. -/
  calls : Nat := 0
  /-- What it kept. -/
  kept : List Notice := []
  /-- It has brought in its recruit. -/
  recruited : Bool := false

/-- The listeners of a run. -/
structure Panel where
  seats : List Seat := []

namespace Seat

/-- Keep a notice if the listener records. -/
def keep (s : Seat) (n : Notice) : Seat :=
  if s.listener.records then { s with kept := s.kept ++ [n] } else s

/-- The listener that a notice makes a seat bring in. -/
def recruitOn (s : Seat) (n : Notice) : Option Nat :=
  if n.kind = .started && !s.recruited then s.listener.recruit else none

/-- Tell one listener: its seat afterwards, the listener that it brings in, and its fault. -/
def hear (s : Seat) (n : Notice) : Seat × Option Nat × Option Fault :=
  let told := { s with calls := s.calls + 1 }
  match s.listener.fault s.calls n with
  | some f => (told, none, some f)
  | none =>
    let recruit := s.recruitOn n
    ({ told.keep n with recruited := s.recruited || recruit.isSome }, recruit, none)

end Seat

/-- How a round of telling went. -/
structure Round where
  seats : List Seat
  recruits : List Nat
  escaped : Option Fault

/-- Tell a notice from seat to seat. -/
def Round.tell (n : Notice) : List Seat → Round
  | [] => { seats := [], recruits := [], escaped := none }
  | s :: ss =>
    let (s, recruit, fault) := s.hear n
    match Fault.escaping fault with
    | some f => { seats := s :: ss, recruits := recruit.toList, escaped := some f }
    | none =>
      let rest := Round.tell n ss
      { rest with seats := s :: rest.seats, recruits := recruit.toList ++ rest.recruits }

namespace Panel

/-- A panel of some listeners. -/
def ofListeners (listeners : List Listener) : Panel :=
  { seats := listeners.map fun l => { listener := l } }

/-- One more listener joins. -/
def join (p : Panel) (l : Listener) : Panel :=
  { seats := p.seats ++ [{ listener := l }] }

/-- Tell all listeners: the panel afterwards, and the fault that ended the round early. -/
def announce (p : Panel) (n : Notice) : Panel × Option Fault :=
  let round := Round.tell n p.seats
  ({ seats := round.seats ++ round.recruits.map fun id => { listener := { id := id } } },
    round.escaped)

/-- What the listener of a number kept; nothing if it has not joined. -/
def kept (p : Panel) (id : Nat) : List Notice :=
  ((p.seats.find? fun s => s.listener.id == id).map Seat.kept).getD []

/-- How many listeners there are. -/
def size (p : Panel) : Nat :=
  p.seats.length

end Panel

namespace Notice

/-- The words of notices. -/
def words (ns : List Notice) : List String :=
  ns.map fun n => n.kind.word

/-- The displays of the notices of a kind. -/
def displays (kind : NoticeKind) (ns : List Notice) : List String :=
  (ns.filter fun n => n.kind = kind).map fun n => n.description.display

/-- The failures among notices. -/
def failures (ns : List Notice) : List Failure :=
  ns.filterMap failure?

end Notice

end Timebox
