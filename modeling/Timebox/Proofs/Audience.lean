import Timebox.Proofs.Reports

/-!
# Runs do not depend on their audience

Two sessions may differ in that more listeners and more sinks observe one of them
(`Session.Extends`).  As long as the additional ones raise ordinary faults at most, this makes no
difference to a run (`Plan.run_extends`): it ends in the same way and at the same instant, with the
same arguments, log, requests and trace, and the sessions afterwards differ in no more than that
again.  So the observers which both have are told the same, whatever they do themselves.

The two runs go on side by side: parts of runs lead from sessions of this kind to sessions of this
kind and end with the same fault (`Progress.Alike`), and so does one part after another
(`Alike.andThen`).  What observers are told is a matter of lists with some more elements in between
(`Enlarges`): a round of notices (`Round.tell_enlarges`) and a delivery to sinks
(`Outlet.deliver_enlarges`) go through both lists at once.
-/

namespace Timebox

/-! ### Lists with some more elements -/

/-- The second list is the first one with some more elements in between, all of which satisfy
`P`. -/
inductive Enlarges {α : Type} (P : α → Prop) : List α → List α → Prop
  | nil : Enlarges P [] []
  | keep {xs ys : List α} (a : α) (h : Enlarges P xs ys) : Enlarges P (a :: xs) (a :: ys)
  | add {xs ys : List α} {a : α} (ha : P a) (h : Enlarges P xs ys) : Enlarges P xs (a :: ys)

namespace Enlarges

variable {α : Type} {P : α → Prop} {xs ys xs' ys' : List α}

theorem refl (xs : List α) : Enlarges P xs xs := by
  induction xs with
  | nil => exact .nil
  | cons a _ ih => exact .keep a ih

theorem append (h : Enlarges P xs ys) (h' : Enlarges P xs' ys') :
    Enlarges P (xs ++ xs') (ys ++ ys') := by
  induction h with
  | nil => exact h'
  | keep a _ ih => exact .keep a ih
  | add ha _ ih => exact .add ha ih

/-- Some more elements come first. -/
theorem add_all {zs : List α} (hzs : ∀ a ∈ zs, P a) (h : Enlarges P xs ys) :
    Enlarges P xs (zs ++ ys) := by
  induction zs with
  | nil => exact h
  | cons a zs ih =>
    obtain ⟨ha, hrest⟩ := List.forall_mem_cons.mp hzs
    exact .add ha (ih hrest)

theorem map {β : Type} {Q : β → Prop} (h : Enlarges P xs ys) (f : α → β)
    (hf : ∀ a, P a → Q (f a)) : Enlarges Q (xs.map f) (ys.map f) := by
  induction h with
  | nil => exact .nil
  | keep a _ ih => exact .keep (f a) ih
  | @add _ _ a ha _ ih => exact .add (hf a ha) ih

/-- Where none of the additional elements is let through, it is as if there were none. -/
theorem filter (h : Enlarges P xs ys) {f : α → Bool} (hf : ∀ a, P a → f a = false) :
    ys.filter f = xs.filter f := by
  induction h with
  | nil => rfl
  | keep a _ ih =>
    rw [List.filter_cons, List.filter_cons, ih]
  | @add _ _ a ha _ ih =>
    rw [List.filter_cons, hf a ha]
    exact ih

theorem find? (h : Enlarges P xs ys) {f : α → Bool} (hf : ∀ a, P a → f a = false) :
    ys.find? f = xs.find? f := by
  rw [← List.head?_filter, ← List.head?_filter, h.filter hf]

end Enlarges

/-! ### Listeners -/

/-- A listener that has been added: it raises ordinary faults at most, and its number is one of
those for additional listeners, as is the one that it may bring in. -/
structure Listener.Guest (numbers : Nat → Prop) (l : Listener) : Prop where
  tame : l.Tame
  number : numbers l.id
  recruit : ∀ id, l.recruit = some id → numbers id

/-- Whoever is brought in raises nothing, and brings in nobody. -/
theorem Listener.guest_of_number {numbers : Nat → Prop} {id : Nat} (h : numbers id) :
    ({ id := id } : Listener).Guest numbers where
  tame _ _ _ hf := nomatch hf
  number := h
  recruit _ hr := nomatch hr

theorem Seat.hear_recruit {s : Seat} {n : Notice} {id : Nat} (h : id ∈ (s.hear n).2.1.toList) :
    s.listener.recruit = some id := by
  unfold Seat.hear at h
  split at h
  · cases h
  · have hrecruit : s.recruitOn n = some id := Option.mem_toList.mp h
    unfold Seat.recruitOn at hrecruit
    split at hrecruit
    · exact hrecruit
    · cases hrecruit

section

variable {numbers : Nat → Prop} (n : Notice)

/-- Additional listeners make no difference to the others when a notice is told, and neither do
those whom they bring in. -/
theorem Round.tell_enlarges {seats seats' : List Seat}
    (h : Enlarges (fun s => s.listener.Guest numbers) seats seats') :
    (Round.tell n seats').escaped = (Round.tell n seats).escaped ∧
      Enlarges (fun s => s.listener.Guest numbers) (Round.tell n seats).seats
        (Round.tell n seats').seats ∧
      Enlarges numbers (Round.tell n seats).recruits (Round.tell n seats').recruits := by
  induction h with
  | nil => exact ⟨rfl, .nil, .nil⟩
  | keep s h ih =>
    -- a fault of a common listener ends both rounds before the seat after it
    obtain ⟨hescaped, hseats, hrecruits⟩ := ih
    unfold Round.tell
    dsimp only
    cases Fault.escaping (s.hear n).2.2 with
    | some f => exact ⟨rfl, .keep _ h, .refl _⟩
    | none => exact ⟨hescaped, .keep _ hseats, (Enlarges.refl _).append hrecruits⟩
  | @add ss ss' s hs h ih =>
    -- an additional listener is told only in the second round, which goes on after it
    obtain ⟨hescaped, hseats, hrecruits⟩ := ih
    have hnone : Fault.escaping (s.hear n).2.2 = none :=
      Fault.escaping_eq_none fun f hf => hs.tame s.calls n f (s.hear_fault n ▸ hf)
    have hguest : (s.hear n).1.listener.Guest numbers := (s.hear_listener n).symm ▸ hs
    have htell : Round.tell n (s :: ss') =
        { seats := (s.hear n).1 :: (Round.tell n ss').seats
          recruits := (s.hear n).2.1.toList ++ (Round.tell n ss').recruits
          escaped := (Round.tell n ss').escaped } := by
      simp only [Round.tell, hnone]
    rw [htell]
    exact ⟨hescaped, .add hguest hseats,
      hrecruits.add_all fun id hid => hs.recruit id (Seat.hear_recruit hid)⟩

/-- The panel has some more listeners. -/
def Panel.Extends (numbers : Nat → Prop) (p' p : Panel) : Prop :=
  Enlarges (fun s => s.listener.Guest numbers) p.seats p'.seats

theorem Panel.Extends.announce {p p' : Panel} (h : p'.Extends numbers p) :
    (p'.announce n).2 = (p.announce n).2 ∧
      (p'.announce n).1.Extends numbers (p.announce n).1 := by
  obtain ⟨hescaped, hseats, hrecruits⟩ := Round.tell_enlarges n h
  exact ⟨hescaped, hseats.append (hrecruits.map _ fun id hid => Listener.guest_of_number hid)⟩

/-- A listener that both panels have has kept the same. -/
theorem Panel.Extends.kept {p p' : Panel} (h : p'.Extends numbers p) {id : Nat}
    (hid : ¬ numbers id) : p'.kept id = p.kept id := by
  have hfind := h.find? (f := fun s => s.listener.id == id) fun s hs => by
    refine beq_false_of_ne fun heq => hid ?_
    rw [← heq]
    exact hs.number
  unfold Panel.kept
  rw [hfind]

end

/-! ### Sinks -/

namespace Telemetry

/-- A sink that has been added: it raises ordinary faults at most, and its channel is one of those
for additional sinks. -/
structure Sink.Guest (channels : Channel → Prop) (s : Sink) : Prop where
  tame : s.Tame
  channel : channels s.channel

/-- The outlet has some more sinks.  Behind a guard there may be any number of them, and otherwise
just one. -/
structure Outlet.Extends (channels : Channel → Prop) (o' o : Outlet) : Prop where
  guarded : o.guarded = true ∨ o.sinks.length ≤ 1
  guarded' : o'.guarded = true ∨ o'.sinks.length ≤ 1
  emitted : o'.emitted = o.emitted
  sinks : Enlarges (fun s => s.Guest channels) o.sinks o'.sinks
  delivered : Enlarges (fun d => channels d.channel) o.delivered o'.delivered

namespace Outlet

variable {channels : Channel → Prop} (emitted : Nat) (e : Event)

/-- A single sink is delivered to as if it stood behind a guard; the ordinary fault that comes back
from it does not escape. -/
theorem deliver_of_guarded {guarded : Bool} {sinks : List Sink}
    (h : guarded = true ∨ sinks.length ≤ 1) :
    (deliver guarded emitted e sinks).1 = (deliver true emitted e sinks).1 ∧
      Fault.escaping (deliver guarded emitted e sinks).2 =
        Fault.escaping (deliver true emitted e sinks).2 := by
  rcases h with rfl | h
  · exact ⟨rfl, rfl⟩
  · cases sinks with
    | nil => exact ⟨rfl, rfl⟩
    | cons s ss =>
      -- after a single sink there is nothing from which its fault could keep the event
      obtain rfl : ss = [] := List.eq_nil_of_length_eq_zero (by simpa using h)
      unfold deliver
      cases s.fault emitted e with
      | none => exact ⟨rfl, rfl⟩
      | some f =>
        cases guarded with
        | true => exact ⟨rfl, rfl⟩
        | false => cases hf : f.isOrdinary <;> simp [deliver, lets, Fault.escaping, hf]

/-- Additional sinks make no difference to the others when an event is delivered. -/
theorem deliver_enlarges {sinks sinks' : List Sink}
    (h : Enlarges (fun s => s.Guest channels) sinks sinks') :
    Fault.escaping (deliver true emitted e sinks').2 =
        Fault.escaping (deliver true emitted e sinks).2 ∧
      Enlarges (fun d => channels d.channel) (deliver true emitted e sinks).1
        (deliver true emitted e sinks').1 := by
  induction h with
  | nil => exact ⟨rfl, .nil⟩
  | keep s h ih =>
    obtain ⟨hfault, hdelivered⟩ := ih
    unfold deliver
    cases s.fault emitted e with
    | none => exact ⟨hfault, .keep _ hdelivered⟩
    | some f =>
      dsimp only
      split
      · exact ⟨rfl, .nil⟩
      · exact ⟨hfault, hdelivered⟩
  | @add ss ss' s hs h ih =>
    obtain ⟨hfault, hdelivered⟩ := ih
    cases hf : s.fault emitted e with
    | none =>
      have hdeliver : deliver true emitted e (s :: ss') =
          (⟨s.channel, e⟩ :: (deliver true emitted e ss').1, (deliver true emitted e ss').2) := by
        simp only [deliver, hf]
      rw [hdeliver]
      exact ⟨hfault, .add hs.channel hdelivered⟩
    | some f =>
      -- the guard contains the fault, since it is ordinary
      have hdeliver : deliver true emitted e (s :: ss') = deliver true emitted e ss' := by
        simp [deliver, hf, lets, hs.tame emitted e f hf]
      rw [hdeliver]
      exact ⟨hfault, hdelivered⟩

theorem Extends.emit {o o' : Outlet} (h : o'.Extends channels o) :
    Fault.escaping (o'.emit e).2 = Fault.escaping (o.emit e).2 ∧
      (o'.emit e).1.Extends channels (o.emit e).1 := by
  obtain ⟨hdelivered, hfault⟩ := deliver_of_guarded o.emitted e h.guarded
  obtain ⟨hdelivered', hfault'⟩ := deliver_of_guarded o'.emitted e h.guarded'
  obtain ⟨hsame, hmore⟩ := deliver_enlarges o.emitted e h.sinks
  rw [h.emitted] at hdelivered' hfault'
  refine ⟨?_, h.guarded, h.guarded', congrArg (· + 1) h.emitted, h.sinks, h.delivered.append ?_⟩
  · show Fault.escaping (deliver o'.guarded o'.emitted e o'.sinks).2 = _
    rw [h.emitted, hfault', hsame]
    exact hfault.symm
  · rw [h.emitted, hdelivered, hdelivered']
    exact hmore

/-- Over a channel of which no additional sink makes use, the same events have been delivered. -/
theorem Extends.events {o o' : Outlet} (h : o'.Extends channels o) {ch : Channel}
    (hch : ¬ channels ch) : o'.events ch = o.events ch := by
  have hfilter := h.delivered.filter (f := fun d => d.channel = ch) fun d hd =>
    decide_eq_false fun heq => hch (heq ▸ hd)
  unfold Outlet.events
  rw [hfilter]

end Outlet

end Telemetry

/-! ### Sessions -/

/-- The session with another core. -/
def Session.withCore (s : Session) (k : Core) : Session :=
  { s with now := k.now, arguments := k.arguments, idler := k.idler, log := k.log
           requests := k.requests }

/-- The session has some more listeners and some more sinks, and differs in nothing else. -/
structure Session.Extends (numbers : Nat → Prop) (channels : Telemetry.Channel → Prop)
    (s' s : Session) : Prop where
  core : s'.core = s.core
  stage : s'.stage = s.stage
  trace : s'.trace = s.trace
  panel : s'.panel.Extends numbers s.panel
  outlet : s'.outlet.Extends channels s.outlet

/-- Two parts of runs end with the same fault, if any, in sessions one of which has some more
observers. -/
structure Progress.Alike (numbers : Nat → Prop) (channels : Telemetry.Channel → Prop)
    (q' q : Progress) : Prop where
  fault : q'.fault = q.fault
  session : q'.session.Extends numbers channels q.session

section

variable {numbers : Nat → Prop} {channels : Telemetry.Channel → Prop} {s s' : Session}

namespace Progress

variable {q q' : Progress}

theorem alike_of_session (h : s'.Extends numbers channels s) :
    ({ session := s' } : Progress).Alike numbers channels { session := s } :=
  ⟨rfl, h⟩

/-- The rule of sequence. -/
theorem Alike.andThen {next next' : Session → Progress} (h : q'.Alike numbers channels q)
    (hn : ∀ t t', t'.Extends numbers channels t → (next' t').Alike numbers channels (next t)) :
    (q'.andThen next').Alike numbers channels (q.andThen next) := by
  have hfault := h.fault
  cases hq : q.fault with
  | none =>
    rw [andThen_of_none hq, andThen_of_none (hfault.trans hq)]
    exact hn _ _ h.session
  | some f =>
    rw [andThen_of_fault hq, andThen_of_fault (hfault.trans hq)]
    exact h

theorem Alike.always {last : Session → Session} (h : q'.Alike numbers channels q)
    (hlast : ∀ t t', t'.Extends numbers channels t →
      (last t').Extends numbers channels (last t)) :
    (q'.always last).Alike numbers channels (q.always last) :=
  ⟨h.fault, hlast _ _ h.session⟩

end Progress

namespace Session.Extends

variable (h : s'.Extends numbers channels s)

include h

/-- The common observers are observers of that kind themselves. -/
theorem self : s.Extends numbers channels s where
  core := rfl
  stage := rfl
  trace := rfl
  panel := .refl _
  outlet :=
    { guarded := h.outlet.guarded, guarded' := h.outlet.guarded, emitted := rfl
      sinks := .refl _, delivered := .refl _ }

theorem now : s'.now = s.now := congrArg Core.now h.core

theorem arguments : s'.arguments = s.arguments := congrArg Core.arguments h.core

/-- What is done to the core alone is done to both. -/
theorem withCore (f : Core → Core) :
    (s'.withCore (f s'.core)).Extends numbers channels (s.withCore (f s.core)) where
  core := congrArg f h.core
  stage := h.stage
  trace := h.trace
  panel := h.panel
  outlet := h.outlet

theorem note (entry : TraceEntry) :
    ({ s' with trace := s'.trace ++ [entry] } : Session).Extends numbers channels
      { s with trace := s.trace ++ [entry] } where
  core := h.core
  stage := h.stage
  trace := congrArg (· ++ [entry]) h.trace
  panel := h.panel
  outlet := h.outlet

theorem enter (stage : Stage) : (s'.enter stage).Extends numbers channels (s.enter stage) where
  core := h.core
  stage := rfl
  trace := by
    show s'.trace ++ [.entered stage s'.now] = s.trace ++ [.entered stage s.now]
    rw [h.trace, h.now]
  panel := h.panel
  outlet := h.outlet

theorem announce (n : Notice) :
    (s'.announce n).Alike numbers channels (s.announce n) := by
  obtain ⟨hfault, hpanel⟩ := h.panel.announce n
  exact ⟨hfault, h.core, h.stage, h.trace, hpanel, h.outlet⟩

theorem announceFault (d : Description) (fault : Option Fault) :
    (s'.announceFault d fault).Alike numbers channels (s.announceFault d fault) := by
  cases fault with
  | none => exact Progress.alike_of_session h
  | some f => exact h.announce _

theorem emit (e : Telemetry.Event) :
    (s'.emit e).Alike numbers channels (s.emit e) := by
  obtain ⟨hfault, houtlet⟩ := h.outlet.emit e
  exact ⟨hfault, h.core, h.stage, h.trace, h.panel, houtlet⟩

theorem await (tl : Timeline) (duration : Int) :
    (s'.await tl duration).Alike numbers channels (s.await tl duration) := by
  obtain ⟨hcore, hfault⟩ := Session.await_congr h.core tl duration
  obtain ⟨hpanel, houtlet, -, -⟩ := s.await_frame tl duration
  obtain ⟨hpanel', houtlet', -, -⟩ := s'.await_frame tl duration
  have htrace := congrArg Records.trace (s.records_await tl duration)
  have htrace' := congrArg Records.trace (s'.records_await tl duration)
  refine ⟨hfault, hcore, ?_, ?_, ?_, ?_⟩
  · rw [s'.stage_await, s.stage_await]
    exact h.stage
  · exact htrace'.trans (h.trace.trans htrace.symm)
  · rw [hpanel, hpanel']
    exact h.panel
  · rw [houtlet, houtlet']
    exact h.outlet

theorem absorb (e : Enforced) : (s'.absorb e).Extends numbers channels (s.absorb e) :=
  h.withCore fun k => { k with now := e.now, arguments := e.arguments, log := k.log ++ e.log }

theorem giveUp (u : Unenforced) : (s'.giveUp u).Alike numbers channels (s.giveUp u) :=
  ⟨rfl, h.withCore fun k =>
    { k with now := u.now, arguments := u.arguments, log := k.log ++ u.log }⟩

end Session.Extends

/-! ### Runs -/

namespace Plan

variable (p : Plan) (c : Conditions) (origin : Int) (h : s'.Extends numbers channels s)

include h

theorem record_alike (v : Verdict) :
    (p.record c v s').Alike numbers channels (p.record c v s) := by
  have hemit := (h.enter (.ofStatus v.status)).emit (p.finishedEvent c v)
  exact hemit.andThen fun _ _ ht => ht.announceFault p.description v.fault

theorem idle_alike (i : Interlude) (duration : Int) :
    (p.idle c i duration s').Alike numbers channels (p.idle c i duration s) := by
  unfold idle
  split
  · exact Progress.alike_of_session h
  · have hasked := ((h.enter i.stage).note (.idling i duration)).await c.timeline duration
    exact hasked.andThen fun _ _ ht => ht.emit (p.idleEvent c i duration)

theorem remaining_eq : p.remaining c origin s' = p.remaining c origin s := by
  unfold remaining
  rw [h.now]

theorem idleBeforeTeardown_alike (status : Status) :
    (p.idleBeforeTeardown c origin status s').Alike numbers channels
      (p.idleBeforeTeardown c origin status s) := by
  unfold idleBeforeTeardown
  rw [p.remaining_eq c origin h]
  split
  · exact p.idle_alike c h _ _
  · exact Progress.alike_of_session h

theorem idleBeforeNext_alike :
    (p.idleBeforeNext c origin s').Alike numbers channels (p.idleBeforeNext c origin s) := by
  unfold idleBeforeNext
  rw [p.remaining_eq c origin h]
  split
  · exact p.idle_alike c h _ _
  · exact Progress.alike_of_session h

theorem construct_extends (begun : Bool) :
    (p.construct begun s').Extends numbers channels (p.construct begun s) := by
  unfold construct
  split
  · exact h.withCore fun k => { k with log := k.log ++ p.journey.constructionLog k.now }
  · exact h

theorem cleanUp_alike : (p.cleanUp c s').Alike numbers channels (p.cleanUp c s) := by
  unfold cleanUp
  rw [h.now, h.arguments]
  split
  · exact Progress.alike_of_session h
  · split
    · exact h.giveUp _
    · next e _ =>
      have hemit := (h.absorb e).emit (p.teardownEvent c e.verdict)
      exact hemit.andThen fun _ _ ht => ht.announceFault p.description e.verdict.fault

theorem tearDown_alike (constructed : Bool) :
    (p.tearDown c constructed s').Alike numbers channels (p.tearDown c constructed s) := by
  unfold tearDown
  split
  · exact p.cleanUp_alike c (h.enter .teardown)
  · exact Progress.alike_of_session h

theorem conclude_alike (constructed : Bool) (v : Verdict) :
    (p.conclude c origin constructed v s').Alike numbers channels
      (p.conclude c origin constructed v s) := by
  have hwait := (p.record_alike c h v).andThen fun _ _ ht =>
    p.idleBeforeTeardown_alike c origin ht v.status
  have htorn := hwait.andThen fun _ _ ht => p.tearDown_alike c ht constructed
  exact htorn.andThen fun _ _ ht => ht.announce (.finished p.description)

theorem execute_alike :
    (p.execute c origin s').Alike numbers channels (p.execute c origin s) := by
  refine (h.announce (.started p.description)).andThen fun t t' ht => ?_
  have hrunning := ht.enter .running
  dsimp only
  rw [attemptBody_congr hrunning.core, constructs_congr hrunning.core]
  split
  · next u _ => exact (p.construct_extends hrunning u.begun).giveUp u
  · next e _ => exact p.conclude_alike c origin ((p.construct_extends hrunning true).absorb e) _ _

theorem skip_alike : (p.skip c s').Alike numbers channels (p.skip c s) := by
  have hemit := (h.enter .skipped).emit (p.ignoredEvent c)
  exact hemit.andThen fun _ _ ht => ht.announce (.ignored p.description)

/-- What happens while the arguments are overridden. -/
theorem body_alike : (p.body c origin s').Alike numbers channels (p.body c origin s) := by
  have hpassage : (if p.isIgnored then p.skip c s' else p.execute c origin s').Alike numbers
      channels (if p.isIgnored then p.skip c s else p.execute c origin s) := by
    split
    · exact p.skip_alike c h
    · exact p.execute_alike c origin h
  exact hpassage.andThen fun _ _ ht => p.idleBeforeNext_alike c origin ht

theorem opened_extends : (p.opened s').Extends numbers channels (p.opened s) :=
  (h.withCore fun k =>
    { k with arguments := k.arguments.overlay p.scenario.pairs }).enter .argumentsOverridden

omit h in
theorem restore_extends (token : Token) {t t' : Session} (ht : t'.Extends numbers channels t) :
    (restore token t').Extends numbers channels (restore token t) :=
  (ht.withCore fun k =>
    { k with arguments := (k.arguments.restore token).1 }).enter .argumentsRestored

theorem run_alike : (p.run c s').Alike numbers channels (p.run c s) := by
  have hrun (t : Session) : p.run c t = ((p.opened t).emit (p.overriddenEvent c)).andThen fun u =>
      ((p.body c (c.timeline.clock t.now) u).always (restore t.arguments.save)).andThen fun v =>
        { session := v.enter .done } := rfl
  rw [hrun s, hrun s', h.now, h.arguments]
  refine ((p.opened_extends h).emit _).andThen fun t t' ht => ?_
  have hbody := (p.body_alike c (c.timeline.clock s.now) ht).always fun _ _ hu =>
    restore_extends s.arguments.save hu
  exact hbody.andThen fun _ _ hu => Progress.alike_of_session (hu.enter .done)

omit h in
/-- Two sessions that have the same observers, but for some more, are no different to a run: it ends
with the same fault, if any, and at the same instant, with the same arguments, log, requests, and in
the same stage.  Whoever observes both runs is told the same: a listener keeps the same notices, and
a sink on a channel of its own is delivered the same events.  Behind this is the run that the common
observers see alone, which differs from both in no more than the additional ones. -/
theorem run_extends {s₁ s₂ : Session} (h₁ : s₁.Extends numbers channels s)
    (h₂ : s₂.Extends numbers channels s) :
    (p.run c s₁).fault = (p.run c s₂).fault ∧
      (p.run c s₁).session.log = (p.run c s₂).session.log ∧
      (p.run c s₁).session.requests = (p.run c s₂).session.requests ∧
      (p.run c s₁).session.now = (p.run c s₂).session.now ∧
      (p.run c s₁).session.arguments = (p.run c s₂).session.arguments ∧
      (p.run c s₁).session.stage = (p.run c s₂).session.stage ∧
      (∀ id, ¬ numbers id →
        (p.run c s₁).session.panel.kept id = (p.run c s₂).session.panel.kept id) ∧
      (∀ ch, ¬ channels ch →
        (p.run c s₁).session.outlet.events ch = (p.run c s₂).session.outlet.events ch) ∧
      (p.run c s₁).session.Extends numbers channels (p.run c s).session ∧
      (p.run c s₂).session.Extends numbers channels (p.run c s).session := by
  -- both runs are like the one without the additional observers, hence like each other
  obtain ⟨hfault₁, hsession₁⟩ := p.run_alike c h₁
  obtain ⟨hfault₂, hsession₂⟩ := p.run_alike c h₂
  have hcore : (p.run c s₁).session.core = (p.run c s₂).session.core :=
    hsession₁.core.trans hsession₂.core.symm
  refine ⟨hfault₁.trans hfault₂.symm, congrArg Core.log hcore, congrArg Core.requests hcore,
    congrArg Core.now hcore, congrArg Core.arguments hcore,
    hsession₁.stage.trans hsession₂.stage.symm, fun id hid => ?_, fun ch hch => ?_,
    hsession₁, hsession₂⟩
  · rw [hsession₁.panel.kept hid, hsession₂.panel.kept hid]
  · rw [hsession₁.outlet.events hch, hsession₂.outlet.events hch]

end Plan

end

/-! ### An audience that misbehaves -/

/-- The attended session with one more listener, and with one more sink, neither of which does
anything but raise faults. -/
def Session.disturbed : Session :=
  { attended with
    panel := .ofListeners
      [{ id := 1, fault := fun _ _ => some (.general .runtime none) }, { id := 0 }]
    outlet := .composite [.broken, { channel := .tally }] }

theorem Session.disturbed_extends :
    disturbed.Extends (fun id => id = 1) (fun ch => ch = .discard) attended where
  core := rfl
  stage := rfl
  trace := rfl
  panel := by
    refine .add ⟨fun _ _ f hf => ?_, rfl, fun _ hr => nomatch hr⟩ (.refl _)
    obtain rfl := Option.some.inj hf
    rfl
  outlet :=
    { guarded := Or.inr (Nat.le_refl 1)
      guarded' := Or.inl rfl
      emitted := rfl
      sinks := by
        refine .add ⟨fun _ _ f hf => ?_, rfl⟩ (.refl _)
        obtain rfl := Option.some.inj hf
        rfl
      delivered := .nil }

/-- The listener and the tally of the attended session do not notice it. -/
theorem Plan.run_extends_of_disturbed :
    let p := fiveSeconds [.idle 9000] [.raise (.general .assertion none)]
    let t := (p.run (.steady 500) .disturbed).session
    let u := (p.run (.steady 500) .attended).session
    t.panel.kept 0 = u.panel.kept 0 ∧ (u.panel.kept 0).length = 4 ∧
      t.outlet.events .tally = u.outlet.events .tally ∧ (u.outlet.events .tally).length = 4 := by
  intro p t u
  obtain ⟨-, -, -, -, -, -, hkept, hevents, -⟩ := p.run_extends (.steady 500)
    Session.disturbed_extends Session.disturbed_extends.self
  exact ⟨hkept 0 (by decide), by decide +kernel, hevents .tally (by decide), by decide +kernel⟩

end Timebox
