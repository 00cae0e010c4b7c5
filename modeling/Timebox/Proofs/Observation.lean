import Timebox.Proofs.Progress

/-!
# Observers do not interfere

Listeners and sinks are told about a run and touch nothing but themselves: the `core` of a session,
which is everything else that changes, stays as it is when a stage is entered, an event emitted or a
notice announced.  The one thing observers can do is to end the run with a fault, and tame ones,
which raise ordinary faults at most, cannot do that either.

`Observed P E` packs up what proofs about runs need from this: `P` survives everything that is told
to observers, unless a fault comes back, in which case `E` holds.  There are two ways to get it: `P`
is about the core and includes `E` (`Observed.of_core`), or the observers are tame
(`Observed.of_tame`).
-/

namespace Timebox

/-! ### Tame observers -/

/-- The listener raises ordinary faults at most. -/
def Listener.Tame (l : Listener) : Prop :=
  ∀ calls n f, l.fault calls n = some f → f.isOrdinary = true

/-- All listeners of the panel are tame. -/
def Panel.Tame (p : Panel) : Prop :=
  ∀ s ∈ p.seats, s.listener.Tame

/-- The sink raises ordinary faults at most. -/
def Telemetry.Sink.Tame (s : Sink) : Prop :=
  ∀ emitted e f, s.fault emitted e = some f → f.isOrdinary = true

/-- All sinks of the outlet are tame. -/
def Telemetry.Outlet.Tame (o : Outlet) : Prop :=
  ∀ s ∈ o.sinks, s.Tame

/-- The listeners and the sinks of the session are tame. -/
structure Session.Tame (s : Session) : Prop where
  panel : s.panel.Tame
  outlet : s.outlet.Tame

/-- A session that nobody observes. -/
def Session.unobserved (a : Arguments) (idler : Idler) : Session :=
  { now := 0, arguments := a, panel := .ofListeners [], outlet := .composite [], idler := idler }

theorem Session.unobserved_tame (a : Arguments) (idler : Idler) : (unobserved a idler).Tame where
  panel := nofun
  outlet := nofun

theorem Fault.escaping_eq_none {f : Option Fault} (h : ∀ g, f = some g → g.isOrdinary = true) :
    Fault.escaping f = none := by
  cases f with
  | none => rfl
  | some g => simp [Fault.escaping, h g rfl]

theorem Seat.hear_listener (s : Seat) (n : Notice) : (s.hear n).1.listener = s.listener := by
  unfold Seat.hear Seat.keep
  split
  · rfl
  · dsimp only
    split <;> rfl

theorem Seat.hear_fault (s : Seat) (n : Notice) :
    (s.hear n).2.2 = s.listener.fault s.calls n := by
  unfold Seat.hear
  split
  · next f hf => exact hf.symm
  · next hf => exact hf.symm

/-- A round of tame listeners reaches all of them. -/
theorem Round.tell_tame (n : Notice) (seats : List Seat) (h : ∀ s ∈ seats, s.listener.Tame) :
    (Round.tell n seats).escaped = none ∧ ∀ s ∈ (Round.tell n seats).seats, s.listener.Tame := by
  induction seats with
  | nil => exact ⟨rfl, h⟩
  | cons s ss ih =>
    obtain ⟨hn, hs⟩ := ih fun x hx => h x (List.mem_cons_of_mem _ hx)
    have ht : s.listener.Tame := h s List.mem_cons_self
    have hf : Fault.escaping (s.hear n).2.2 = none :=
      Fault.escaping_eq_none fun g hg => ht s.calls n g (by rw [← s.hear_fault n, hg])
    -- no fault escapes from the first seat, so the round goes on to the others
    unfold Round.tell
    simp only [hf]
    refine ⟨hn, fun x hx => ?_⟩
    rcases List.mem_cons.mp hx with rfl | hx
    · rw [s.hear_listener n]
      exact ht
    · exact hs x hx

/-- A tame panel stays tame, and no fault comes back from it. -/
theorem Panel.announce_tame {p : Panel} (h : p.Tame) (n : Notice) :
    (p.announce n).1.Tame ∧ (p.announce n).2 = none := by
  obtain ⟨hn, hs⟩ := Round.tell_tame n p.seats h
  refine ⟨fun s hmem => ?_, hn⟩
  rcases List.mem_append.mp hmem with hmem | hmem
  · exact hs s hmem
  · -- listeners that have just been recruited raise nothing
    obtain ⟨id, -, rfl⟩ := List.mem_map.mp hmem
    intro _ _ _ hf
    cases hf

/-- The fault that a delivery ends with is one of its sinks'. -/
theorem Telemetry.Outlet.deliver_fault {guarded : Bool} {emitted : Nat} {e : Event}
    {sinks : List Sink} {f : Fault} (h : (deliver guarded emitted e sinks).2 = some f) :
    ∃ s ∈ sinks, s.fault emitted e = some f := by
  induction sinks with
  | nil => cases h
  | cons s ss ih =>
    unfold deliver at h
    split at h
    · obtain ⟨t, ht, hf⟩ := ih h
      exact ⟨t, List.mem_cons_of_mem _ ht, hf⟩
    · next g hg =>
      split at h
      -- the guard has let this fault through, or else the next sinks are tried
      · exact ⟨s, List.mem_cons_self, by rw [hg]; exact h⟩
      · obtain ⟨t, ht, hf⟩ := ih h
        exact ⟨t, List.mem_cons_of_mem _ ht, hf⟩

/-- No fault comes back from tame sinks. -/
theorem Telemetry.Outlet.Tame.emit {o : Outlet} (h : o.Tame) (e : Event) :
    Fault.escaping (o.emit e).2 = none :=
  Fault.escaping_eq_none fun f hf => by
    obtain ⟨sink, hmem, hsink⟩ := deliver_fault hf
    exact h sink hmem _ _ _ hsink

/-! ### The core of a session -/

/-- What changes in a session apart from its observers and its own records of stages. -/
structure Core where
  now : Nat
  arguments : Arguments
  idler : Idler
  log : List LogEntry
  requests : List Int

namespace Session

/-- The core of a session. -/
def core (s : Session) : Core :=
  { now := s.now, arguments := s.arguments, idler := s.idler, log := s.log, requests := s.requests }

theorem core_emit (s : Session) (e : Telemetry.Event) : (s.emit e).session.core = s.core := rfl

theorem core_announce (s : Session) (n : Notice) : (s.announce n).session.core = s.core := rfl

/-- No fault comes back from tame sinks. -/
theorem Tame.emit {s : Session} (h : s.Tame) (e : Telemetry.Event) :
    (s.emit e).session.Tame ∧ (s.emit e).fault = none :=
  ⟨⟨h.panel, h.outlet⟩, h.outlet.emit e⟩

/-- No fault comes back from tame listeners. -/
theorem Tame.announce {s : Session} (h : s.Tame) (n : Notice) :
    (s.announce n).session.Tame ∧ (s.announce n).fault = none :=
  ⟨⟨(Panel.announce_tame h.panel n).1, h.outlet⟩, (Panel.announce_tame h.panel n).2⟩

end Session

/-! ### Conditions that survive observation -/

/-- `P` survives what observers are told, and `E` holds if a fault comes back from them. -/
structure Observed (P : Session → Prop) (E : Fault → Session → Prop) : Prop where
  /-- A stage is entered, and the trace grows. -/
  mark : ∀ {s : Session} (stage : Stage) (trace : List TraceEntry), P s →
    P { s with stage := stage, trace := trace }
  emit : ∀ {s : Session} (e : Telemetry.Event), P s → (s.emit e).Ends P E
  announce : ∀ {s : Session} (n : Notice), P s → (s.announce n).Ends P E

namespace Observed

variable {P : Session → Prop} {K : Core → Prop} {E : Fault → Session → Prop}

/-- A condition on the core survives whatever the observers do. -/
theorem of_core (h : ∀ f s, K s.core → E f s) : Observed (fun s => K s.core) E where
  mark _ _ hs := hs
  emit {s} e hs := Progress.Ends.mono (Progress.ends_iff_session.mpr (s.core_emit e ▸ hs))
    (fun _ hs => hs) h
  announce {s} n hs := Progress.Ends.mono (Progress.ends_iff_session.mpr (s.core_announce n ▸ hs))
    (fun _ hs => hs) h

/-- Tame observers end no run, and stay tame. -/
theorem of_tame : Observed (fun s => s.Tame ∧ K s.core) E where
  mark _ _ hs := ⟨⟨hs.1.panel, hs.1.outlet⟩, hs.2⟩
  emit e hs := by
    obtain ⟨ht, hf⟩ := hs.1.emit e
    unfold Progress.Ends
    rw [hf]
    exact ⟨ht, hs.2⟩
  announce n hs := by
    obtain ⟨ht, hf⟩ := hs.1.announce n
    unfold Progress.Ends
    rw [hf]
    exact ⟨ht, hs.2⟩

theorem enter (h : Observed P E) {s : Session} (stage : Stage) (hs : P s) : P (s.enter stage) :=
  h.mark stage _ hs

theorem announceFault (h : Observed P E) {s : Session} (d : Description) (f : Option Fault)
    (hs : P s) : (s.announceFault d f).Ends P E := by
  cases f with
  | none => exact hs
  | some f => exact h.announce _ hs

end Observed

end Timebox
