import Mathlib.Algebra.Ring.Int.Defs
import Mathlib.Data.List.Forall2
import Timebox.Proofs.Teardown

/-!
# What is reported about runs

Listeners and sinks are told about a run from different places, and yet what they are told agrees.
A listener that keeps what it is told has kept one start, the failure of the body and then that of
the teardown, as far as there are such, and one end (`Plan.run_kept`).  A failure carries the fault
that the body itself raised by its deadline, or says that the deadline is over (`Verdict.Judges`).

The events that a healthy sink has been delivered have a fixed order.  Those that tell of a failure
are, one by one, those of the failures that listeners are told of, and the idling that the events
tell adds up to what the idler was asked for (`Plan.run_reports`).
-/

namespace Timebox

open Telemetry

/-! ### What events say -/

namespace Telemetry.Event

/-- The kind of an event with the part of the run that it is about. -/
def label (e : Event) : String × Telemetry.Phase :=
  (e.kind, e.phase)

/-- The event says that something has failed or timed out. -/
def fails (e : Event) : Bool :=
  e.outcome = .fail || e.outcome = .timeout

/-- The event is an error just if there is a fault, and then carries its class and its reason. -/
structure Blames (e : Event) (fault : Option Fault) : Prop where
  severity : e.severity = .error ↔ fault ≠ none
  errorType : e.details.lookup "error_type" = fault.map fun f => .text f.className
  reason : e.details.lookup "reason_code" = fault.map fun f => .text f.reason

end Telemetry.Event

namespace Telemetry

theorem Tally.idle_append (es es' : List Event) :
    (ofEvents (es ++ es')).idle = (ofEvents es).idle + (ofEvents es').idle := by
  simp only [ofEvents, List.filter_append, List.filterMap_append, List.map_append]
  exact List.sum_append

end Telemetry

/-! ### A session that is attended -/

namespace Session

/-- A session with a listener that keeps what it is told, and with the tally as its only sink. -/
def attended : Session :=
  { polled with
    panel := .ofListeners [{ id := 0 }]
    outlet := .single { channel := .tally } }

theorem attended_tame : attended.Tame where
  panel := by
    intro seat hseat calls n f hf
    obtain rfl := List.mem_singleton.mp hseat
    cases hf
  outlet := by
    intro sink hsink emitted e f hf
    obtain rfl := List.mem_singleton.mp hsink
    cases hf

theorem attended_keeps : attended.panel.Keeps 0 :=
  ⟨_, rfl, rfl, fun _ _ => rfl⟩

theorem attended_serves : attended.outlet.Serves .tally :=
  ⟨[], _, [], rfl, rfl, fun _ _ => rfl, List.forall_mem_nil _, Or.inr rfl⟩

end Session

/-! ### Verdicts -/

/-- The verdict on a course with a deadline and a budget: there is a fault unless the course passed.
It is the course's own, raised by the deadline, or it says that the budget is used up. -/
structure Verdict.Judges (v : Verdict) (course : Course) (deadline : Nat) (budget : Int) :
    Prop where
  fault_eq_none_iff : v.fault = none ↔ v.status = .passed
  fault : ∀ f, v.fault = some f →
    (v.status = .failed ∧ course.ending = .raised f ∧ course.last.now ≤ deadline) ∨
      (v.status = .timedOut ∧ f = .overrun (.int budget) (.text "ms"))

theorem Deadline.enforce_judges (tl : Timeline) (start budget grace : Nat) (arguments : Arguments)
    (body : List Command) :
    (enforce tl start budget grace arguments body).verdict.Judges
      (course tl start budget grace arguments body) (start + budget) budget := by
  refine ⟨enforce_fault_eq_none_iff, fun f hf => ?_⟩
  rcases enforce_verdict tl start budget grace arguments body with
    ⟨-, -, -, hnone⟩ | ⟨g, hend, hlast, hstatus, hg⟩ | ⟨hstatus, hg⟩
  · cases hnone.symm.trans hf
  · obtain rfl := Option.some.inj (hg.symm.trans hf)
    exact Or.inl ⟨hstatus, hend, hlast⟩
  · exact Or.inr ⟨hstatus, Option.some.inj (hf.symm.trans hg)⟩

/-- A verdict is reported as failed or timed out just if there is a fault. -/
theorem Verdict.Judges.outcome {v : Verdict} {course : Course} {deadline : Nat} {budget : Int}
    (h : v.Judges course deadline budget) :
    (v.fault = none ∧ v.status.outcome = .ok) ∨
      ∃ f, v.fault = some f ∧ (v.status.outcome = .fail ∨ v.status.outcome = .timeout) := by
  cases hf : v.fault with
  | none =>
    refine Or.inl ⟨rfl, ?_⟩
    rw [h.fault_eq_none_iff.mp hf]
    rfl
  | some f =>
    refine Or.inr ⟨f, rfl, ?_⟩
    rcases h.fault f hf with ⟨hstatus, -⟩ | ⟨hstatus, -⟩
    · exact Or.inl (by rw [hstatus]; rfl)
    · exact Or.inr (by rw [hstatus]; rfl)

namespace Plan

variable {p : Plan} {c : Conditions} {s : Session}

/-- The course of the body of a run: its construction, its preparation and its run. -/
def bodyCourse (p : Plan) (c : Conditions) (s : Session) : Course :=
  runCommands (p.watched c s) p.journey.opening
    { now := s.now, arguments := s.arguments.overlay p.scenario.pairs }

namespace Execution

variable (x : p.Execution c s)

theorem body_judges : x.body.verdict.Judges (p.bodyCourse c s) (s.now + p.budget)
    (max (p.window - p.leeway) 0) := by
  have hbudget : max (p.window - p.leeway) 0 = (p.budget : Int) := by
    unfold budget
    omega
  rw [hbudget, Deadline.attempt_ok x.body_eq]
  exact Deadline.enforce_judges ..

theorem tearDown_judges {e : Enforced} (he : x.tearDown = some e) :
    ∃ commands, p.journey.tearDown = some commands ∧
      e.verdict.Judges (p.tearDownCourse c x.due x.body.arguments commands) (x.due + p.leeway)
        p.leeway := by
  obtain ⟨commands, hcommands, hattempt⟩ := x.tearDown_eq e he
  refine ⟨commands, hcommands, ?_⟩
  rw [Deadline.attempt_ok hattempt]
  exact Deadline.enforce_judges ..

/-! ### Notices and events -/

/-- The failure of the teardown, if there is one. -/
def tearDownFailures : List Notice :=
  match x.tearDown with
  | none => []
  | some e => p.failures e.verdict.fault

/-- What listeners are told about an execution. -/
def notices : List Notice :=
  .started p.description ::
    (p.failures x.body.verdict.fault ++ x.tearDownFailures ++ [.finished p.description])

/-- The event of the teardown, if there is one. -/
def tearDownEvents : List Event :=
  match x.tearDown with
  | none => []
  | some e => [p.teardownEvent c e.verdict]

end Execution

/-- The event of a pause, if there is one. -/
def pauseEvents (p : Plan) (c : Conditions) (i : Interlude) : Option Int → List Event
  | none => []
  | some d => [p.idleEvent c i d]

section

variable (i : Interlude) (now : Nat) (pause : Option Int) (fault : Option Fault)

theorem notices_failures :
    ((p.failures fault).map Deed.announced).flatMap Deed.notices = p.failures fault := by
  cases fault <;> rfl

theorem events_failures : ((p.failures fault).map Deed.announced).flatMap Deed.events = [] := by
  cases fault <;> rfl

theorem requests_failures : ((p.failures fault).map Deed.announced).flatMap Deed.requests = [] := by
  cases fault <;> rfl

theorem notices_pauseDeeds : (p.pauseDeeds c i now pause).flatMap Deed.notices = [] := by
  cases pause <;> rfl

theorem events_pauseDeeds :
    (p.pauseDeeds c i now pause).flatMap Deed.events = p.pauseEvents c i pause := by
  cases pause <;> rfl

theorem requests_pauseDeeds :
    (p.pauseDeeds c i now pause).flatMap Deed.requests = pause.toList := by
  cases pause <;> rfl

end

namespace Execution

variable (x : p.Execution c s)

/-- A record that takes nothing from stages and from entries in the log takes this from an
execution. -/
theorem flatMap_deeds {α : Type} (part : Deed → List α)
    (hentered : ∀ stage now, part (.entered stage now) = [])
    (hlogged : ∀ es, part (.logged es) = []) :
    x.deeds.flatMap part =
      part (.emitted (p.overriddenEvent c)) ++ part (.announced (.started p.description)) ++
        part (.emitted (p.finishedEvent c x.body.verdict)) ++
        ((p.failures x.body.verdict.fault).map Deed.announced).flatMap part ++
        (p.pauseDeeds c .beforeTeardown x.body.now
          (p.pauseBeforeTeardown c s x.body)).flatMap part ++
        x.reportDeeds.flatMap part ++ part (.announced (.finished p.description)) := by
  have htearDown : x.tearDownDeeds.flatMap part = [] := by
    unfold tearDownDeeds
    cases x.tearDown <;> cases p.constructs c (p.opened s) <;> simp [hentered, hlogged]
  simp only [deeds, deedsToTeardown, deedsToDue, waitingDeeds, verdictDeeds, openingDeeds,
    startDeeds, List.flatMap_append, List.flatMap_cons, List.flatMap_nil, htearDown, hentered,
    hlogged, List.append_nil, List.nil_append, List.append_assoc]

theorem notices_deeds : x.deeds.flatMap Deed.notices = x.notices := by
  have hreport : x.reportDeeds.flatMap Deed.notices = x.tearDownFailures := by
    unfold reportDeeds tearDownFailures
    cases x.tearDown with
    | none => rfl
    | some e => exact notices_failures e.verdict.fault
  rw [x.flatMap_deeds _ (fun _ _ => rfl) fun _ => rfl, notices_failures, notices_pauseDeeds,
    hreport, List.append_nil]
  rfl

theorem events_deeds : x.deeds.flatMap Deed.events =
    [p.overriddenEvent c, p.finishedEvent c x.body.verdict] ++
      p.pauseEvents c .beforeTeardown (p.pauseBeforeTeardown c s x.body) ++ x.tearDownEvents := by
  have hreport : x.reportDeeds.flatMap Deed.events = x.tearDownEvents := by
    unfold reportDeeds tearDownEvents
    cases x.tearDown with
    | none => rfl
    | some e =>
      dsimp only
      rw [List.flatMap_cons, events_failures]
      rfl
  rw [x.flatMap_deeds _ (fun _ _ => rfl) fun _ => rfl, events_failures, events_pauseDeeds,
    hreport, List.append_nil]
  exact List.append_nil _

theorem requests_deeds : x.deeds.flatMap Deed.requests =
    (p.pauseBeforeTeardown c s x.body).toList := by
  have hreport : x.reportDeeds.flatMap Deed.requests = [] := by
    unfold reportDeeds
    cases x.tearDown with
    | none => rfl
    | some e => exact requests_failures e.verdict.fault
  rw [x.flatMap_deeds _ (fun _ _ => rfl) fun _ => rfl, requests_failures, requests_pauseDeeds,
    hreport, List.append_nil]
  exact List.append_nil _

end Execution

theorem entries_pauseDeeds (i : Interlude) (now : Nat) (pause : Option Int) :
    (p.pauseDeeds c i now pause).flatMap Deed.entries = [] := by
  cases pause <;> rfl

/-- What is left of a run that has returned: the parts of its deeds. -/
theorem run_records (hfault : (p.run c s).fault = none) :
    ∃ ds spent, p.Passage c s ds spent ∧
      (∀ id, s.panel.Keeps id → (p.run c s).session.panel.kept id =
        s.panel.kept id ++ ds.flatMap Deed.notices) ∧
      (∀ ch, s.outlet.Serves ch → (p.run c s).session.outlet.events ch = s.outlet.events ch ++
        (ds.flatMap Deed.events ++ p.pauseEvents c .beforeNext (p.pauseBeforeNext c s spent))) ∧
      (p.run c s).session.requests = s.requests ++
        (ds.flatMap Deed.requests ++ (p.pauseBeforeNext c s spent).toList) ∧
      (p.run c s).session.log = s.log ++ ds.flatMap Deed.entries := by
  obtain ⟨ds, spent, stop, hds, -, hdid⟩ := (p.run_account c s).of_fault_eq_none hfault
  refine ⟨ds, spent, hds, fun id hk => ?_, fun ch hs => ?_, ?_, ?_⟩
  · rw [hdid.kept hk, List.flatMap_append, List.flatMap_append, notices_pauseDeeds]
    simp [closingDeeds, Deed.notices]
  · rw [hdid.events hs, List.flatMap_append, List.flatMap_append, events_pauseDeeds]
    simp [closingDeeds, Deed.events]
  · rw [hdid.follows.requests, List.flatMap_append, List.flatMap_append, requests_pauseDeeds]
    simp [closingDeeds, Deed.requests]
  · rw [hdid.follows.log, List.flatMap_append, List.flatMap_append, entries_pauseDeeds]
    simp [closingDeeds, Deed.entries]

/-! ### What listeners are told -/

/-- The plan with another journey. -/
def withJourney (p : Plan) (journey : Journey) : Plan :=
  { p with journey := journey }

/-- The run of an excluded journey does not depend on anything but its name: neither its
construction nor any of its hooks is ever called. -/
theorem run_withJourney (hi : p.isIgnored = true) {journey : Journey}
    (hname : journey.name = p.journey.name) : (p.withJourney journey).run c s = p.run c s := by
  have hi' : (p.withJourney journey).isIgnored = true := by
    unfold isIgnored withJourney at *
    rw [hname]
    exact hi
  unfold run body
  rw [hi, hi']
  -- what is left reads nothing of the journey but its name
  obtain ⟨⟨_⟩, _⟩ := p
  obtain ⟨_⟩ := journey
  cases hname
  rfl

/-- What a listener has kept of a run that has returned. -/
theorem run_kept {id : Nat} (hk : s.panel.Keeps id) (hfault : (p.run c s).fault = none) :
    (p.isIgnored = true →
      (p.run c s).session.panel.kept id = s.panel.kept id ++ [.ignored p.description] ∧
        (p.run c s).session.log = s.log ∧ ∀ journey, journey.name = p.journey.name →
          (p.withJourney journey).run c s = p.run c s) ∧
    (p.isIgnored = false → ∃ x : p.Execution c s,
      (p.run c s).session.panel.kept id = s.panel.kept id ++ x.notices ∧
        x.body.verdict.Judges (p.bodyCourse c s) (s.now + p.budget)
          (max (p.window - p.leeway) 0) ∧
        ∀ e, x.tearDown = some e → ∃ commands, p.journey.tearDown = some commands ∧
          e.verdict.Judges (p.tearDownCourse c x.due x.body.arguments commands) (x.due + p.leeway)
            p.leeway) := by
  obtain ⟨ds, spent, hds, hkept, -, -, hlog⟩ := run_records hfault
  have hkept := hkept id hk
  -- the journey has been passed over, or it has been executed
  cases hds with
  | skipped hi =>
    refine ⟨fun _ => ⟨hkept, ?_, fun journey => run_withJourney hi⟩, fun hexecuted => ?_⟩
    · rw [hlog]
      exact List.append_nil _
    · cases hi.symm.trans hexecuted
  | executed hi x =>
    refine ⟨fun hignored => ?_, fun _ => ⟨x, ?_, x.body_judges, fun e he => x.tearDown_judges he⟩⟩
    · cases hi.symm.trans hignored
    · rw [hkept, x.notices_deeds]

/-- A run of five seconds that is attended ends without a fault. -/
theorem fault_run_attended (run tearDown : List Step) :
    ((fiveSeconds run tearDown).run (.steady 500) .attended).fault = none :=
  fault_eq_none_of_measurable Session.attended_tame Session.polled_punctual.not_raises
    (fiveSeconds_measurable (Timeline.forward_of_eq_steady rfl) (by decide +kernel) _ _)

/-- The body runs into its deadline, and the teardown raises a fault. -/
theorem run_kept_of_failing :
    let p := fiveSeconds [.idle 9000] [.raise (.general .assertion none)]
    p.isIgnored = false ∧ ∃ x : p.Execution (.steady 500) .attended,
      (p.run (.steady 500) .attended).session.panel.kept 0 =
        Session.attended.panel.kept 0 ++ x.notices := by
  intro p
  have hi : p.isIgnored = false := by decide +kernel
  obtain ⟨x, hkept, -⟩ := (run_kept Session.attended_keeps (fault_run_attended _ _)).2 hi
  exact ⟨hi, x, hkept⟩

example : Notice.words ((fiveSeconds [.idle 9000] [.raise (.general .assertion none)]).run
    (.steady 500) .attended |>.session.panel.kept 0) =
      ["started", "failure", "failure", "finished"] := by
  decide +kernel

/-! ### What sinks are told -/

/-- The order of the events of a run that has returned, with and without a pause on either
occasion. -/
def labels (p : Plan) (c : Conditions) (s : Session) (before next : Bool) :
    List (String × Telemetry.Phase) :=
  [("ARGS_OVERRIDDEN", .arguments)] ++
    (if p.isIgnored then [("JOURNEY_IGNORED", .gate)]
      else [("JOURNEY_FINISHED", .execute)] ++
        (if before then [("IDLE_FINISHED", .idleBeforeTeardown)] else []) ++
        (if p.constructs c (p.opened s) && p.journey.tearDown.isSome then
          [("TEARDOWN_FINISHED", .teardown)] else [])) ++
    (if next then [("IDLE_FINISHED", .idleBeforeNext)] else [])

/-- The event and the failure tell of the same verdict, that on the body or that on the teardown. -/
def Execution.Reports (x : p.Execution c s) (e : Event) (f : Timebox.Failure) : Prop :=
  f.description = p.description ∧
    ((x.body.verdict.fault = some f.fault ∧ e = p.finishedEvent c x.body.verdict) ∨
      ∃ t, x.tearDown = some t ∧ t.verdict.fault = some f.fault ∧
        e = p.teardownEvent c t.verdict)

theorem label_pauseEvents (i : Interlude) (pause : Option Int) :
    (p.pauseEvents c i pause).map Event.label =
      if pause.isSome then [("IDLE_FINISHED", i.phase)] else [] := by
  cases pause <;> rfl

theorem fails_pauseEvents (i : Interlude) (pause : Option Int) :
    (p.pauseEvents c i pause).filter Event.fails = [] := by
  cases pause <;> rfl

theorem kind_pauseEvents (i : Interlude) (pause : Option Int) :
    ∀ e ∈ p.pauseEvents c i pause, e.kind ≠ "JOURNEY_FINISHED" := by
  cases pause with
  | none => exact List.forall_mem_nil _
  | some d =>
    intro e he
    obtain rfl := List.mem_singleton.mp he
    show "IDLE_FINISHED" ≠ "JOURNEY_FINISHED"
    decide

theorem Execution.kind_tearDownEvents (x : p.Execution c s) :
    ∀ e ∈ x.tearDownEvents, e.kind ≠ "JOURNEY_FINISHED" := by
  unfold tearDownEvents
  cases x.tearDown with
  | none => exact List.forall_mem_nil _
  | some v =>
    intro e he
    obtain rfl := List.mem_singleton.mp he
    show "TEARDOWN_FINISHED" ≠ "JOURNEY_FINISHED"
    decide

theorem Execution.label_tearDownEvents (x : p.Execution c s) :
    x.tearDownEvents.map Event.label =
      if p.constructs c (p.opened s) && p.journey.tearDown.isSome then
        [("TEARDOWN_FINISHED", .teardown)] else [] := by
  rw [← x.tearDown_isSome]
  unfold tearDownEvents
  cases x.tearDown <;> rfl

/-- The event of a verdict says that something failed just if listeners are told of its failure. -/
theorem forall₂_fails {R : Event → Timebox.Failure → Prop} {e : Event} {v : Verdict}
    {course : Course} {deadline : Nat} {budget : Int} (hv : v.Judges course deadline budget)
    (houtcome : e.outcome = v.status.outcome)
    (he : ∀ f, v.fault = some f → R e ⟨p.description, f⟩) :
    List.Forall₂ R ([e].filter Event.fails) (Notice.failures (p.failures v.fault)) := by
  -- there is neither a failing event nor a failure, or there is one of each
  rcases hv.outcome with ⟨hf, ho⟩ | ⟨f, hf, ho⟩
  · have hfails : e.fails = false := by
      unfold Event.fails
      rw [houtcome, ho]
      rfl
    rw [hf, List.filter_cons_of_neg (by rw [hfails]; exact Bool.false_ne_true)]
    exact .nil
  · have hfails : e.fails = true := by
      unfold Event.fails
      rw [houtcome]
      rcases ho with ho | ho
      · rw [ho]; rfl
      · rw [ho]; rfl
    rw [hf, List.filter_cons_of_pos hfails]
    exact .cons (he f hf) .nil

theorem finishedEvent_blames {v : Verdict} (hv : v.fault = none ↔ v.status = .passed) :
    (p.finishedEvent c v).Blames v.fault := by
  have hdetails : (p.finishedEvent c v).details =
      [(durationField, .int v.elapsed), ("deadline_ms", .int p.budget)] ++ faultDetails v.fault :=
    rfl
  refine ⟨?_, ?_, ?_⟩
  · rw [Ne, hv]
    show (if v.status = .passed then Severity.info else .error) = .error ↔ _
    split
    · simp [*]
    · simp [*]
  · rw [hdetails]
    cases v.fault <;> rfl
  · rw [hdetails]
    cases v.fault <;> rfl

theorem idle_pauseEvents (i : Interlude) (pause : Option Int) :
    (Tally.ofEvents (p.pauseEvents c i pause)).idle = pause.toList.sum := by
  cases pause with
  | none => rfl
  | some d => cases i <;> rfl

theorem Execution.idle_tearDownEvents (x : p.Execution c s) :
    (Tally.ofEvents x.tearDownEvents).idle = 0 := by
  unfold tearDownEvents
  cases x.tearDown <;> rfl

/-- The events that tell of failures are, one by one, those of the failures that listeners are told
of. -/
theorem Execution.forall₂_reports (x : p.Execution c s) :
    List.Forall₂ x.Reports ((x.deeds.flatMap Deed.events).filter Event.fails)
      (Notice.failures x.notices) := by
  have hbody : List.Forall₂ x.Reports ([p.finishedEvent c x.body.verdict].filter Event.fails)
      (Notice.failures (p.failures x.body.verdict.fault)) :=
    forall₂_fails x.body_judges rfl fun f hf => ⟨rfl, Or.inl ⟨hf, rfl⟩⟩
  have htearDown : List.Forall₂ x.Reports (x.tearDownEvents.filter Event.fails)
      (Notice.failures x.tearDownFailures) := by
    unfold tearDownEvents tearDownFailures
    cases hx : x.tearDown with
    | none => exact .nil
    | some e =>
      obtain ⟨commands, -, hjudges⟩ := x.tearDown_judges hx
      exact forall₂_fails hjudges rfl fun f hf => ⟨rfl, Or.inr ⟨e, hx, hf, rfl⟩⟩
  have hevents : (x.deeds.flatMap Deed.events).filter Event.fails =
      [p.finishedEvent c x.body.verdict].filter Event.fails ++
        x.tearDownEvents.filter Event.fails := by
    rw [x.events_deeds, List.filter_append, List.filter_append, fails_pauseEvents, List.append_nil]
    rfl
  have hnotices : Notice.failures x.notices = Notice.failures (p.failures x.body.verdict.fault) ++
      Notice.failures x.tearDownFailures := by
    unfold notices Notice.failures
    rw [List.filterMap_cons_none rfl, List.filterMap_append, List.filterMap_append]
    exact List.append_nil _
  -- both lists are that of the body and then that of the teardown, so they agree part by part
  rw [hevents, hnotices]
  exact List.rel_append hbody htearDown

/-- The event of the verdict on the body is the only one of its kind. -/
theorem Execution.blames (x : p.Execution c s) (pause : Option Int) :
    ∀ e ∈ x.deeds.flatMap Deed.events ++ p.pauseEvents c .beforeNext pause,
      e.kind = "JOURNEY_FINISHED" → e.Blames x.body.verdict.fault := by
  intro e he hkind
  have hoverridden : (p.overriddenEvent c).kind ≠ "JOURNEY_FINISHED" := by
    show "ARGS_OVERRIDDEN" ≠ "JOURNEY_FINISHED"
    decide
  rw [x.events_deeds] at he
  simp only [List.mem_append, List.mem_cons, List.not_mem_nil, or_false] at he
  rcases he with (((rfl | rfl) | he) | he) | he
  · exact absurd hkind hoverridden
  · exact finishedEvent_blames x.body_judges.fault_eq_none_iff
  · exact absurd hkind (kind_pauseEvents _ _ e he)
  · exact absurd hkind (x.kind_tearDownEvents e he)
  · exact absurd hkind (kind_pauseEvents _ _ e he)

section

variable {ds : List Deed} {spent : Nat} (h : p.Passage c s ds spent)

include h

/-- The events come in their order. -/
theorem Passage.label_events (pause : Option Int) :
    ∃ before next, (ds.flatMap Deed.events ++ p.pauseEvents c .beforeNext pause).map Event.label =
      p.labels c s before next := by
  cases h with
  | skipped hi =>
    refine ⟨false, pause.isSome, ?_⟩
    unfold labels
    rw [List.map_append, label_pauseEvents, if_pos hi]
    rfl
  | executed hi x =>
    have hexecuted : ¬ p.isIgnored = true := by
      rw [hi]
      exact Bool.false_ne_true
    refine ⟨(p.pauseBeforeTeardown c s x.body).isSome, pause.isSome, ?_⟩
    unfold labels
    rw [x.events_deeds, List.map_append, List.map_append, List.map_append, label_pauseEvents,
      label_pauseEvents, x.label_tearDownEvents, if_neg hexecuted]
    rfl

/-- The idling that the events tell is that which was asked for. -/
theorem Passage.idle_events :
    (Tally.ofEvents (ds.flatMap Deed.events)).idle = (ds.flatMap Deed.requests).sum := by
  cases h with
  | skipped hi => rfl
  | executed hi x =>
    rw [x.events_deeds, x.requests_deeds, Tally.idle_append, Tally.idle_append, idle_pauseEvents,
      x.idle_tearDownEvents, Int.add_zero]
    exact Int.zero_add _

end

/-- What a sink has been delivered by a run that has returned agrees with what listeners are told of
it, and with what its idler was asked for. -/
theorem run_reports {id : Nat} {ch : Channel} (hk : s.panel.Keeps id) (hs : s.outlet.Serves ch)
    (hfault : (p.run c s).fault = none) :
    ∃ (events : List Event) (notices : List Notice) (durations : List Int),
      (p.run c s).session.outlet.events ch = s.outlet.events ch ++ events ∧
      (p.run c s).session.panel.kept id = s.panel.kept id ++ notices ∧
      (p.run c s).session.requests = s.requests ++ durations ∧
      (∃ before next, events.map Event.label = p.labels c s before next) ∧
      (p.isIgnored = true → events.filter Event.fails = [] ∧ Notice.failures notices = []) ∧
      (p.isIgnored = false → ∃ x : p.Execution c s, notices = x.notices ∧
        List.Forall₂ x.Reports (events.filter Event.fails) (Notice.failures notices) ∧
        ∀ e ∈ events, e.kind = "JOURNEY_FINISHED" → e.Blames x.body.verdict.fault) ∧
      (Tally.ofEvents ((p.run c s).session.outlet.events ch)).idle =
        (Tally.ofEvents (s.outlet.events ch)).idle + durations.sum := by
  obtain ⟨ds, spent, hds, hkept, hevents, hrequests, -⟩ := run_records hfault
  refine ⟨_, _, _, hevents ch hs, hkept id hk, hrequests, hds.label_events _, ?_, ?_, ?_⟩
  · intro hi
    rw [List.filter_append, fails_pauseEvents]
    cases hds with
    | skipped => exact ⟨rfl, rfl⟩
    | executed hexecuted => cases hi.symm.trans hexecuted
  · intro hi
    cases hds with
    | skipped hskipped => cases hskipped.symm.trans hi
    | executed _ x =>
      refine ⟨x, x.notices_deeds, ?_, x.blames _⟩
      rw [List.filter_append, fails_pauseEvents, List.append_nil, x.notices_deeds]
      exact x.forall₂_reports
  -- idle times add up over the events, and only pauses have any
  · rw [hevents ch hs, Tally.idle_append, Tally.idle_append, hds.idle_events, idle_pauseEvents,
      List.sum_append]

/-- The tally of a run with two failures, and with a pause before the next scenario. -/
theorem run_reports_of_failing :
    let p := fiveSeconds [.idle 9000] [.raise (.general .assertion none)]
    let t := (p.run (.steady 500) .attended).session
    ∃ (events : List Event) (durations : List Int),
      t.outlet.events .tally = events ∧ t.requests = durations ∧
        (∃ before next, events.map Event.label = p.labels (.steady 500) .attended before next) ∧
        t.outlet.tally.idle = durations.sum := by
  intro p t
  obtain ⟨events, notices, durations, hevents, -, hrequests, hlabels, -, -, hidle⟩ :=
    run_reports Session.attended_keeps Session.attended_serves
      (fault_run_attended [.idle 9000] [.raise (.general .assertion none)])
  refine ⟨events, durations, hevents, hrequests, hlabels, ?_⟩
  exact hidle.trans (Int.zero_add _)

end Plan

end Timebox
