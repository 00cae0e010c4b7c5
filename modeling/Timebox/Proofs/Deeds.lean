import Timebox.Proofs.Observation

/-!
# What runs do

A deed is something that can be seen of a run: a stage is entered, the idler is asked to idle, the
journey leaves entries in the log, an event is emitted, a notice is announced.  The deeds of a run,
first to last, determine all records that a session keeps (`Session.Follows`).

`s.Did ds t` says that from `s` on the deeds `ds` led to `t` and that no fault came back from an
observer meanwhile.  Then a listener that keeps what it is told has kept the notices among the deeds
(`Did.kept`), and a healthy sink has been delivered the events (`Did.events`).

Deeds that are planned are played before the observers (`Records.play`): they are done one after the
other, up to the first one from whose observers a fault comes back (`Records.play_eq_some`).  Those
are the deeds that are done (`Records.done`).
-/

namespace Timebox

/-- Something that can be seen of a run. -/
inductive Deed where
  /-- A stage is entered. -/
  | entered (stage : Stage) (instant : Nat)
  /-- The idler is asked to idle. -/
  | asked (interlude : Interlude) (duration : Int)
  /-- The journey leaves entries in the log. -/
  | logged (entries : List LogEntry)
  /-- An event is emitted. -/
  | emitted (e : Telemetry.Event)
  /-- A notice is announced to the listeners. -/
  | announced (n : Notice)

namespace Deed

/-- The notices that are announced. -/
def notices : Deed → List Notice
  | announced n => [n]
  | _ => []

/-- The events that are emitted. -/
def events : Deed → List Telemetry.Event
  | emitted e => [e]
  | _ => []

/-- The durations for which the idler is asked to idle. -/
def requests : Deed → List Int
  | asked _ d => [d]
  | _ => []

/-- The entries that are left in the log. -/
def entries : Deed → List LogEntry
  | logged es => es
  | _ => []

/-- The stages that are entered. -/
def stages : Deed → List Stage
  | entered stage _ => [stage]
  | _ => []

/-- The marks that are left in the trace. -/
def marks : Deed → List TraceEntry
  | entered stage t => [.entered stage t]
  | asked i d => [.idling i d]
  | _ => []

/-- The deed is that this stage is entered. -/
def Enters (stage : Stage) : Deed → Prop
  | entered st _ => st = stage
  | _ => False

/-- What is seen of the first few deeds is the beginning of what is seen of all of them. -/
theorem prefix_flatMap {α : Type} {xs ds : List Deed} (h : xs <+: ds) (part : Deed → List α) :
    xs.flatMap part <+: ds.flatMap part := by
  obtain ⟨ys, rfl⟩ := h
  rw [List.flatMap_append]
  exact List.prefix_append _ _

end Deed

/-! ### Records -/

/-- The records that a session keeps of what is done. -/
structure Records where
  panel : Panel
  outlet : Telemetry.Outlet
  log : List LogEntry
  trace : List TraceEntry
  requests : List Int

namespace Records

/-- The records after one more deed. -/
def add (r : Records) : Deed → Records
  | .entered stage t => { r with trace := r.trace ++ [.entered stage t] }
  | .asked i d => { r with trace := r.trace ++ [.idling i d], requests := r.requests ++ [d] }
  | .logged es => { r with log := r.log ++ es }
  | .emitted e => { r with outlet := (r.outlet.emit e).1 }
  | .announced n => { r with panel := (r.panel.announce n).1 }

/-- The fault that comes back from the observers of a deed. -/
def fault (r : Records) : Deed → Option Fault
  | .emitted e => Fault.escaping (r.outlet.emit e).2
  | .announced n => (r.panel.announce n).2
  | _ => none

/-- The records after some more deeds. -/
def addAll (r : Records) (ds : List Deed) : Records :=
  ds.foldl add r

/-- No fault comes back from the observers of the deeds. -/
def Unbroken : Records → List Deed → Prop
  | _, [] => True
  | r, d :: ds => r.fault d = none ∧ Unbroken (r.add d) ds

variable {r : Records}

theorem addAll_append (xs ys : List Deed) : r.addAll (xs ++ ys) = (r.addAll xs).addAll ys :=
  List.foldl_append

theorem unbroken_append (xs ys : List Deed) :
    r.Unbroken (xs ++ ys) ↔ r.Unbroken xs ∧ (r.addAll xs).Unbroken ys := by
  induction xs generalizing r with
  | nil => exact (and_iff_right trivial).symm
  | cons d ds ih =>
    show r.fault d = none ∧ (r.add d).Unbroken (ds ++ ys) ↔ _
    rw [ih, ← and_assoc]
    rfl

/-- Play deeds before the observers until a fault comes back: the records that are left, and the
fault. -/
def play (r : Records) : List Deed → Records × Option Fault
  | [] => (r, none)
  | d :: ds =>
    match r.fault d with
    | none => (r.add d).play ds
    | some f => (r.add d, some f)

theorem play_singleton (d : Deed) : r.play [d] = (r.add d, r.fault d) := by
  unfold play
  cases r.fault d <;> rfl

/-- What comes after a fault is not played. -/
theorem play_append (xs ys : List Deed) : r.play (xs ++ ys) =
    match (r.play xs).2 with
    | none => (r.play xs).1.play ys
    | some _ => r.play xs := by
  induction xs generalizing r with
  | nil => rfl
  | cons d ds ih =>
    simp only [List.cons_append, play]
    cases r.fault d with
    | none => exact ih
    | some f => rfl

/-- Deeds that are not broken are all played. -/
theorem play_of_unbroken {ds : List Deed} (h : r.Unbroken ds) :
    r.play ds = (r.addAll ds, none) := by
  induction ds generalizing r with
  | nil => rfl
  | cons d ds ih =>
    obtain ⟨hfault, hrest⟩ := h
    simp only [play, hfault]
    exact ih hrest

/-- If no fault has come back, no deed was broken. -/
theorem unbroken_of_play {ds : List Deed} (h : (r.play ds).2 = none) : r.Unbroken ds := by
  induction ds generalizing r with
  | nil => trivial
  | cons d ds ih =>
    cases hfault : r.fault d with
    | none =>
      simp only [play, hfault] at h
      exact ⟨hfault, ih h⟩
    | some f =>
      simp only [play, hfault] at h
      cases h

/-- If a fault has come back, it is that of the observers of one deed, which was the last one to be
played. -/
theorem play_eq_some {ds : List Deed} {f : Fault} (h : (r.play ds).2 = some f) :
    ∃ xs d ys, ds = xs ++ d :: ys ∧ (r.addAll xs).fault d = some f ∧
      (r.play ds).1 = r.addAll (xs ++ [d]) := by
  induction ds generalizing r with
  | nil => cases h
  | cons d ds ih =>
    cases hfault : r.fault d with
    | none =>
      simp only [play, hfault] at h ⊢
      obtain ⟨xs, e, ys, hds, he, hplayed⟩ := ih h
      refine ⟨d :: xs, e, ys, ?_, he, hplayed⟩
      rw [hds, List.cons_append]
    | some g =>
      simp only [play, hfault] at h ⊢
      -- the first deed whose observer fails is the last one done
      exact ⟨[], d, ds, rfl, hfault.trans h, rfl⟩

/-- The deeds that are done when they are played: all of them up to the first one from whose
observers a fault comes back. -/
def done (r : Records) : List Deed → List Deed
  | [] => []
  | d :: ds =>
    d :: match r.fault d with
      | none => (r.add d).done ds
      | some _ => []

theorem play_fst (r : Records) (ds : List Deed) : (r.play ds).1 = r.addAll (r.done ds) := by
  induction ds generalizing r with
  | nil => rfl
  | cons d ds ih =>
    unfold play done
    cases r.fault d with
    | none => exact ih (r.add d)
    | some f => rfl

theorem done_prefix (r : Records) (ds : List Deed) : r.done ds <+: ds := by
  induction ds generalizing r with
  | nil => exact List.prefix_refl []
  | cons d ds ih =>
    unfold done
    cases r.fault d with
    | none => exact List.cons_prefix_cons.mpr ⟨rfl, ih (r.add d)⟩
    | some f => exact ⟨ds, rfl⟩

theorem done_append_of_unbroken {xs : List Deed} (h : r.Unbroken xs) (ys : List Deed) :
    r.done (xs ++ ys) = xs ++ (r.addAll xs).done ys := by
  induction xs generalizing r with
  | nil => rfl
  | cons d ds ih =>
    obtain ⟨hfault, hrest⟩ := h
    rw [List.cons_append, done, hfault]
    exact congrArg (d :: ·) (ih hrest)

/-- What comes after a fault is not done. -/
theorem done_append_of_broken {xs : List Deed} (h : ¬ r.Unbroken xs) (ys : List Deed) :
    r.done (xs ++ ys) = r.done xs := by
  induction xs generalizing r with
  | nil => exact absurd trivial h
  | cons d ds ih =>
    rw [List.cons_append, done, done]
    cases hfault : r.fault d with
    | none => exact congrArg (d :: ·) (ih fun hrest => h ⟨hfault, hrest⟩)
    | some f => rfl

/-- A record to which every deed adds a part goes on with the parts of the deeds. -/
theorem addAll_flatMap {α : Type} {record : Records → List α} {part : Deed → List α}
    (h : ∀ r d, record (r.add d) = record r ++ part d) (ds : List Deed) :
    record (r.addAll ds) = record r ++ ds.flatMap part := by
  induction ds generalizing r with
  | nil => exact (List.append_nil _).symm
  | cons d ds ih =>
    show record ((r.add d).addAll ds) = _
    rw [ih, h, List.append_assoc, List.flatMap_cons]

/-- The same for a record of an observer, which a fault may cut short: it goes on with the parts of
the deeds as long as none comes back. -/
theorem addAll_flatMap_of_unbroken {α : Type} (record : Records → List α) {part : Deed → List α}
    {P : Records → Prop}
    (h : ∀ r d, P r → r.fault d = none → record (r.add d) = record r ++ part d ∧ P (r.add d))
    {ds : List Deed} (hr : P r) (hds : r.Unbroken ds) :
    record (r.addAll ds) = record r ++ ds.flatMap part := by
  induction ds generalizing r with
  | nil => exact (List.append_nil _).symm
  | cons d ds ih =>
    obtain ⟨hfault, hrest⟩ := hds
    obtain ⟨hadd, hnext⟩ := h r d hr hfault
    show record ((r.add d).addAll ds) = _
    rw [ih hnext hrest, hadd, List.append_assoc, List.flatMap_cons]

theorem log_add (r : Records) (d : Deed) : (r.add d).log = r.log ++ d.entries := by
  cases d with
  | logged es => rfl
  | _ => exact (List.append_nil _).symm

theorem trace_add (r : Records) (d : Deed) : (r.add d).trace = r.trace ++ d.marks := by
  cases d with
  | entered stage t => rfl
  | asked i n => rfl
  | _ => exact (List.append_nil _).symm

theorem requests_add (r : Records) (d : Deed) : (r.add d).requests = r.requests ++ d.requests := by
  cases d with
  | asked i n => rfl
  | _ => exact (List.append_nil _).symm

end Records

/-! ### Listeners that keep what they are told -/

/-- The listener of this number keeps whatever it is told, and raises no fault. -/
def Panel.Keeps (p : Panel) (id : Nat) : Prop :=
  ∃ seat, p.seats.find? (fun s => s.listener.id == id) = some seat ∧
    seat.listener.records = true ∧ ∀ calls n, seat.listener.fault calls n = none

/-- A round from which no fault escapes reaches all seats. -/
theorem Round.tell_seats (n : Notice) (seats : List Seat)
    (h : (Round.tell n seats).escaped = none) :
    (Round.tell n seats).seats = seats.map fun s => (s.hear n).1 := by
  induction seats with
  | nil => rfl
  | cons s ss ih =>
    unfold Round.tell at h ⊢
    dsimp only at h ⊢
    split at h
    · cases h
    · dsimp only at h ⊢
      rw [ih h]
      rfl

/-- A listener that keeps what it is told has kept a notice unless a fault escapes. -/
theorem Panel.kept_announce {p : Panel} {id : Nat} (h : p.Keeps id) {n : Notice}
    (hn : (p.announce n).2 = none) :
    (p.announce n).1.kept id = p.kept id ++ [n] ∧ (p.announce n).1.Keeps id := by
  obtain ⟨seat, hfind, hrecords, hfault⟩ := h
  have hhear : (seat.hear n).1.kept = seat.kept ++ [n] := by
    unfold Seat.hear
    rw [hfault]
    show (Seat.keep _ n).kept = _
    unfold Seat.keep
    rw [if_pos hrecords]
  -- telling does not move seats or change their listeners, so the seat is found where it was
  have hfound : (p.announce n).1.seats.find? (fun s => s.listener.id == id) =
      some (seat.hear n).1 := by
    show List.find? _ ((Round.tell n p.seats).seats ++ _) = _
    rw [List.find?_append, Round.tell_seats n p.seats hn, List.find?_map]
    have hsame : ((fun s : Seat => s.listener.id == id) ∘ fun s : Seat => (s.hear n).1) =
        fun s : Seat => s.listener.id == id := by
      funext s
      show ((s.hear n).1.listener.id == id) = _
      rw [s.hear_listener n]
    rw [hsame, hfind]
    rfl
  refine ⟨?_, (seat.hear n).1, hfound, ?_⟩
  · unfold Panel.kept
    rw [hfound, hfind]
    exact hhear
  · rw [seat.hear_listener n]
    exact ⟨hrecords, hfault⟩

theorem Records.kept_add {id : Nat} (r : Records) (d : Deed) (h : r.panel.Keeps id)
    (hfault : r.fault d = none) :
    (r.add d).panel.kept id = r.panel.kept id ++ d.notices ∧ (r.add d).panel.Keeps id := by
  cases d with
  | announced n => exact Panel.kept_announce h hfault
  | _ => exact ⟨(List.append_nil _).symm, h⟩

/-! ### Sinks that take every event -/

namespace Telemetry

/-- The sink raises no fault. -/
def Sink.Healthy (s : Sink) : Prop :=
  ∀ emitted e, s.fault emitted e = none

/-- There is one sink on the channel, which is healthy, and nothing but a fault that is not ordinary
keeps an event from it: the outlet is guarded, or no sink comes before this one. -/
def Outlet.Serves (o : Outlet) (ch : Channel) : Prop :=
  ∃ before sink after, o.sinks = before ++ sink :: after ∧ sink.channel = ch ∧ sink.Healthy ∧
    (∀ s ∈ before ++ after, s.channel ≠ ch) ∧ (o.guarded = true ∨ before = [])

variable {guarded : Bool} {emitted : Nat} {e : Event} {ch : Channel}

/-- Sinks on other channels deliver nothing over this one. -/
theorem Outlet.deliver_of_ne {sinks : List Sink} (h : ∀ s ∈ sinks, s.channel ≠ ch) :
    (deliver guarded emitted e sinks).1.filter (fun d => d.channel = ch) = [] := by
  induction sinks with
  | nil => rfl
  | cons s ss ih =>
    have ihs := ih fun x hx => h x (List.mem_cons_of_mem _ hx)
    unfold deliver
    split
    · have hs : ¬ s.channel = ch := h s List.mem_cons_self
      simp only [List.filter_cons, decide_eq_true_eq, if_neg hs]
      exact ihs
    · split
      · rfl
      · exact ihs

/-- A healthy sink is delivered the event unless a fault escapes. -/
theorem Outlet.deliver_healthy {before after : List Sink} {sink : Sink} (hch : sink.channel = ch)
    (hhealthy : sink.Healthy) (hother : ∀ s ∈ before ++ after, s.channel ≠ ch)
    (hguard : guarded = true ∨ before = [])
    (hfault : Fault.escaping (deliver guarded emitted e (before ++ sink :: after)).2 = none) :
    (deliver guarded emitted e (before ++ sink :: after)).1.filter (fun d => d.channel = ch) =
      [⟨ch, e⟩] := by
  induction before with
  | nil =>
    rw [List.nil_append]
    unfold deliver
    rw [hhealthy]
    simp only [List.filter_cons, hch, decide_true, if_true]
    have hrest : (deliver guarded emitted e after).1.filter (fun d => d.channel = ch) = [] :=
      deliver_of_ne hother
    rw [hrest]
  | cons s ss ih =>
    have hg : guarded = true := by simpa using hguard
    have hrest := ih (fun x hx => hother x (List.mem_cons_of_mem _ hx)) (Or.inl hg)
    have hs : ¬ s.channel = ch := hother s List.mem_cons_self
    rw [List.cons_append] at hfault ⊢
    unfold deliver at hfault ⊢
    split at hfault
    · simp only [List.filter_cons, decide_eq_true_eq, if_neg hs]
      exact hrest hfault
    · next f hf =>
      split at hfault
      · -- a guard lets no fault come back but one that would escape
        next hlets =>
        simp only [lets, hg, Bool.true_and, Bool.not_eq_true'] at hlets
        simp [Fault.escaping, hlets] at hfault
      · next hlets =>
        rw [if_neg hlets]
        exact hrest hfault

/-- An outlet that serves a channel delivers an event over it unless a fault escapes. -/
theorem Outlet.events_emit {o : Outlet} (h : o.Serves ch)
    (hfault : Fault.escaping (o.emit e).2 = none) :
    (o.emit e).1.events ch = o.events ch ++ [e] ∧ (o.emit e).1.Serves ch := by
  have hserves := h
  obtain ⟨before, sink, after, hsinks, hch, hhealthy, hother, hguard⟩ := h
  refine ⟨?_, hserves⟩
  have hdelivered :
      (deliver o.guarded o.emitted e o.sinks).1.filter (fun d => d.channel = ch) = [⟨ch, e⟩] := by
    rw [hsinks]
    refine deliver_healthy hch hhealthy hother hguard ?_
    rw [← hsinks]
    exact hfault
  show ((o.delivered ++ (deliver o.guarded o.emitted e o.sinks).1).filter _).map Delivery.event = _
  rw [List.filter_append, hdelivered, List.map_append]
  rfl

end Telemetry

theorem Records.events_add {ch : Telemetry.Channel} (r : Records) (d : Deed)
    (h : r.outlet.Serves ch) (hfault : r.fault d = none) :
    (r.add d).outlet.events ch = r.outlet.events ch ++ d.events ∧ (r.add d).outlet.Serves ch := by
  cases d with
  | emitted e => exact Telemetry.Outlet.events_emit h hfault
  | _ => exact ⟨(List.append_nil _).symm, h⟩

/-! ### Sessions -/

namespace Session

/-- The records of a session. -/
def records (s : Session) : Records :=
  { panel := s.panel, outlet := s.outlet, log := s.log, trace := s.trace, requests := s.requests }

/-- The records of a session are those of an earlier one with some deeds added. -/
def Follows (t s : Session) (ds : List Deed) : Prop :=
  t.records = s.records.addAll ds

/-- From one session on, some deeds led to another, and no fault came back from an observer. -/
structure Did (s : Session) (ds : List Deed) (t : Session) : Prop where
  follows : t.Follows s ds
  unbroken : s.records.Unbroken ds

variable {s t u : Session} {ds ds' : List Deed}

theorem Follows.trans (h : t.Follows s ds) (h' : u.Follows t ds') : u.Follows s (ds ++ ds') := by
  unfold Follows at *
  rw [Records.addAll_append, ← h]
  exact h'

theorem Did.trans (h : s.Did ds t) (h' : t.Did ds' u) : s.Did (ds ++ ds') u where
  follows := h.follows.trans h'.follows
  unbroken := by
    refine (Records.unbroken_append ds ds').mpr ⟨h.unbroken, ?_⟩
    rw [← h.follows]
    exact h'.unbroken

/-- The log has gone on with the entries of the deeds. -/
theorem Follows.log (h : t.Follows s ds) : t.log = s.log ++ ds.flatMap Deed.entries := by
  have hlog := congrArg Records.log h
  rwa [Records.addAll_flatMap Records.log_add] at hlog

/-- The trace has gone on with the marks of the deeds. -/
theorem Follows.trace (h : t.Follows s ds) : t.trace = s.trace ++ ds.flatMap Deed.marks := by
  have htrace := congrArg Records.trace h
  rwa [Records.addAll_flatMap Records.trace_add] at htrace

/-- The record of requests has gone on with those of the deeds. -/
theorem Follows.requests (h : t.Follows s ds) :
    t.requests = s.requests ++ ds.flatMap Deed.requests := by
  have hrequests := congrArg Records.requests h
  rwa [Records.addAll_flatMap Records.requests_add] at hrequests

/-- A listener that keeps what it is told has kept the notices among the deeds. -/
theorem Did.kept {id : Nat} (h : s.Did ds t) (hk : s.panel.Keeps id) :
    t.panel.kept id = s.panel.kept id ++ ds.flatMap Deed.notices := by
  have hpanel := congrArg Records.panel h.follows
  show t.records.panel.kept id = _
  rw [hpanel]
  exact Records.addAll_flatMap_of_unbroken (fun r => r.panel.kept id)
    Records.kept_add hk h.unbroken

/-- A healthy sink has been delivered the events among the deeds. -/
theorem Did.events {ch : Telemetry.Channel} (h : s.Did ds t) (hs : s.outlet.Serves ch) :
    t.outlet.events ch = s.outlet.events ch ++ ds.flatMap Deed.events := by
  have houtlet := congrArg Records.outlet h.follows
  show t.records.outlet.events ch = _
  rw [houtlet]
  exact Records.addAll_flatMap_of_unbroken (fun r => r.outlet.events ch)
    Records.events_add hs h.unbroken

theorem did_enter (s : Session) (stage : Stage) :
    s.Did [.entered stage s.now] (s.enter stage) :=
  ⟨rfl, rfl, trivial⟩

theorem did_absorb (s : Session) (e : Enforced) : s.Did [.logged e.log] (s.absorb e) :=
  ⟨rfl, rfl, trivial⟩

end Session

end Timebox
