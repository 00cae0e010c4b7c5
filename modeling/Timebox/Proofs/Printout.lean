import Timebox.CommandLine.Report
import Timebox.Proofs.Ascii
import Timebox.Proofs.EventLine
import Timebox.Proofs.Reports

/-!
# What an invocation prints

An invocation with a console prints a line for every event that its run emits, in their order, and
one more line for the summary.  What the lines show, what the summary tells of events and notices,
and the exit code agree with each other (`CommandLine.Invocation.run_printout`).

The events that a run emits are settled by its plot (`Plan.emissions`), before any sink gets to see
them.  All of them can be read off their lines (`Plan.Passage.legible`), and there are failures
among them just if listeners are told of failures (`Plan.Passage.fails_iff`).
-/

namespace Timebox

open Telemetry

/-! ### Notices -/

namespace Notice

/-- The notices of one run: the journey is ignored, or it is started, fails as a body and as a
teardown at most once each, and is finished. -/
inductive Protocol (d : Description) : List Notice → Prop
  | ignored : Protocol d [.ignored d]
  | executed (body tearDown : Option Fault) :
    Protocol d (.started d :: (body.toList.map (fun f => .failure ⟨d, f⟩) ++
      tearDown.toList.map (fun f => .failure ⟨d, f⟩) ++ [.finished d]))

theorem failures_eq_nil_iff (ns : List Notice) :
    failures ns = [] ↔ ∀ n ∈ ns, n.kind ≠ .failure := by
  unfold failures
  rw [List.filterMap_eq_nil_iff]
  constructor
  · intro h n hn hkind
    have hnone := h n hn
    cases n with
    | failure f => cases hnone
    | started d => cases hkind
    | ignored d => cases hkind
    | finished d => cases hkind
  · intro h n hn
    cases n with
    | failure f => exact absurd rfl (h _ hn)
    | started d => rfl
    | ignored d => rfl
    | finished d => rfl

end Notice

namespace Plan

variable {p : Plan} {c : Conditions} {s : Session}

theorem failures_eq (p : Plan) (fault : Option Fault) :
    p.failures fault = fault.toList.map fun f => .failure ⟨p.description, f⟩ := by
  cases fault <;> rfl

/-! ### What a run emits -/

/-- The events that a run emits, as long as its observers let it. -/
def emissions (p : Plan) (c : Conditions) (k : Core) : List Event :=
  (p.plot c k).deeds.flatMap Deed.events

/-- A run that has returned has done what its plot says. -/
theorem plot_of_returned (hfault : (p.run c s).fault = none) : ∃ ds spent stop,
    p.Passage c s ds spent ∧ (p.plot c s.core).deeds =
        ds ++ p.pauseDeeds c .beforeNext spent (p.pauseBeforeNext c s spent) ∧
      s.Did ((p.plot c s.core).deeds ++ closingDeeds stop) (p.run c s).session := by
  cases hplayed : (s.records.play (p.plot c s.core).deeds).2 with
  | some f =>
    have hbroken := (run_of_broken hplayed).1
    cases hbroken.symm.trans hfault
  | none =>
    obtain ⟨hrun, hdid, -⟩ := run_of_unbroken (Records.unbroken_of_play hplayed)
    have hnone : (p.plot c s.core).fault = none := hrun.symm.trans hfault
    rw [hnone] at hdid
    obtain ⟨a, hdevelops, hplot⟩ := p.plot_develops c s
    -- a run that returns has got through its last pause
    rcases hplot with ⟨f, hf, hplot⟩ | ⟨ha, b, hpauses, hplot⟩
    · rw [hplot, hf] at hnone
      cases hnone
    · refine ⟨a.deeds, a.core.now, _, hdevelops.passage ha, ?_, hdid⟩
      rw [hplot] at hnone ⊢
      cases hpauses with
      | rested => rfl
      | refused => cases hnone

/-- What a sink and a listener are left with by a run that has returned. -/
theorem run_emissions (hfault : (p.run c s).fault = none) : ∃ ds spent, p.Passage c s ds spent ∧
    p.emissions c s.core = ds.flatMap Deed.events ++
        p.pauseEvents c .beforeNext (p.pauseBeforeNext c s spent) ∧
      (∀ ch, s.outlet.Serves ch → (p.run c s).session.outlet.events ch =
        s.outlet.events ch ++ p.emissions c s.core) ∧
      ∀ id, s.panel.Keeps id → (p.run c s).session.panel.kept id =
        s.panel.kept id ++ ds.flatMap Deed.notices := by
  obtain ⟨ds, spent, stop, hds, hplot, hdid⟩ := plot_of_returned hfault
  have hevents : p.emissions c s.core = ds.flatMap Deed.events ++
      p.pauseEvents c .beforeNext (p.pauseBeforeNext c s spent) := by
    rw [emissions, hplot, List.flatMap_append, events_pauseDeeds]
  refine ⟨ds, spent, hds, hevents, fun ch hs => ?_, fun id hk => ?_⟩
  · rw [hdid.events hs, List.flatMap_append]
    exact congrArg (s.outlet.events ch ++ ·) (List.append_nil _)
  · rw [hdid.kept hk, hplot, List.flatMap_append, List.flatMap_append, notices_pauseDeeds]
    simp [closingDeeds, Deed.notices]

/-- An event of a run can be read off its line if its details can. -/
theorem legible_event {kind : String} {phase : Telemetry.Phase} {outcome : Telemetry.Outcome}
    {details : List (String × Json)} (hplain : Json.HasPlainFields details)
    (hdistinct : (details.map Prod.fst).Nodup) :
    (p.event c kind phase outcome details).Legible where
  pins := ⟨trivial, trivial, trivial⟩
  details := hplain
  distinct := hdistinct

theorem legible_finishedEvent (v : Verdict) : (p.finishedEvent c v).Legible := by
  have hplain : Json.HasPlainFields ([(durationField, Json.int v.elapsed), ("deadline_ms",
      .int p.budget)] ++ faultDetails v.fault) := by
    cases v.fault with
    | none => exact ⟨trivial, trivial, trivial⟩
    | some f => exact ⟨trivial, trivial, trivial, trivial, trivial⟩
  have hdistinct : (([(durationField, Json.int v.elapsed), ("deadline_ms", .int p.budget)] ++
      faultDetails v.fault).map Prod.fst).Nodup := by
    cases v.fault with
    | none =>
      show [durationField, "deadline_ms"].Nodup
      decide
    | some f =>
      show [durationField, "deadline_ms", "error_type", "reason_code"].Nodup
      decide
  exact ⟨⟨trivial, trivial, trivial⟩, hplain, hdistinct⟩

theorem legible_pauseEvents (i : Interlude) (pause : Option Int) :
    ∀ e ∈ p.pauseEvents c i pause, e.Legible := by
  cases pause with
  | none => exact List.forall_mem_nil _
  | some d =>
    intro e he
    obtain rfl := List.mem_singleton.mp he
    exact legible_event ⟨trivial, trivial⟩ (List.pairwise_singleton _ _)

theorem Execution.legible_tearDownEvents (x : p.Execution c s) :
    ∀ e ∈ x.tearDownEvents, e.Legible := by
  unfold tearDownEvents
  cases x.tearDown with
  | none => exact List.forall_mem_nil _
  | some v =>
    intro e he
    obtain rfl := List.mem_singleton.mp he
    exact legible_event ⟨trivial, trivial⟩ (List.pairwise_singleton _ _)

namespace Passage

variable {ds : List Deed} {spent : Nat}

/-- All events of a run can be read off their lines. -/
theorem legible (h : p.Passage c s ds spent) : ∀ e ∈ ds.flatMap Deed.events, e.Legible := by
  have hoverridden : (p.overriddenEvent c).Legible :=
    legible_event ⟨trivial, trivial⟩ (List.pairwise_singleton _ _)
  cases h with
  | skipped hi =>
    have hevents : (p.openingDeeds c s ++ p.skipDeeds c s).flatMap Deed.events =
        [p.overriddenEvent c, p.ignoredEvent c] := rfl
    rw [hevents]
    intro e he
    rcases List.mem_pair.mp he with rfl | rfl
    · exact hoverridden
    · exact legible_event trivial List.nodup_nil
  | executed hi x =>
    rw [x.events_deeds]
    intro e he
    simp only [List.mem_append, List.mem_cons, List.not_mem_nil, or_false] at he
    rcases he with ((rfl | rfl) | he) | he
    · exact hoverridden
    · exact legible_finishedEvent x.body.verdict
    · exact legible_pauseEvents _ _ e he
    · exact x.legible_tearDownEvents e he

/-- What listeners are told of a run follows the protocol. -/
theorem protocol (h : p.Passage c s ds spent) :
    Notice.Protocol p.description (ds.flatMap Deed.notices) ∧
      (p.isIgnored = true → ds.flatMap Deed.notices = [.ignored p.description]) := by
  cases h with
  | skipped hi => exact ⟨.ignored, fun _ => rfl⟩
  | executed hi x =>
    refine ⟨?_, fun hignored => absurd (hi.symm.trans hignored) Bool.false_ne_true⟩
    have htearDown : x.tearDownFailures =
        (x.tearDown.bind fun e => e.verdict.fault).toList.map
          fun f => .failure ⟨p.description, f⟩ := by
      unfold Execution.tearDownFailures
      cases x.tearDown with
      | none => rfl
      | some e => exact p.failures_eq e.verdict.fault
    rw [x.notices_deeds, Execution.notices, p.failures_eq, htearDown]
    exact .executed _ _

/-- Events tell of failures just if listeners are told of failures. -/
theorem fails_iff (h : p.Passage c s ds spent) :
    (ds.flatMap Deed.events).filter Event.fails = [] ↔
      Notice.failures (ds.flatMap Deed.notices) = [] := by
  cases h with
  | skipped hi => exact iff_of_true rfl rfl
  | executed hi x =>
    have hreports := x.forall₂_reports
    rw [x.notices_deeds]
    generalize (x.deeds.flatMap Deed.events).filter Event.fails = es at hreports ⊢
    generalize Notice.failures x.notices = fs at hreports ⊢
    cases hreports with
    | nil => exact iff_of_true rfl rfl
    | cons _ _ => exact iff_of_false (List.cons_ne_nil _ _) (List.cons_ne_nil _ _)

end Passage

end Plan

/-! ### Printouts -/

namespace Telemetry.Event

/-- The line of an event shows whether the event is a failure. -/
theorem fails_iff_shows {e : Event} (h : e.Legible) :
    e.fails = true ↔ Shows e.line .fail ∨ Shows e.line .timeout := by
  rw [shows_line_iff h, shows_line_iff h, fails, Bool.or_eq_true, decide_eq_true_eq,
    decide_eq_true_eq]

variable {es : List Event}

/-- The lines of events show whether there are failures among them. -/
theorem filter_fails_ne_nil_iff (h : ∀ e ∈ es, e.Legible) : es.filter fails ≠ [] ↔
    ∃ line ∈ es.map Event.line, Shows line .fail ∨ Shows line .timeout := by
  rw [Ne, List.filter_eq_nil_iff]
  constructor
  · intro hfails
    obtain ⟨e, he, hfails⟩ : ∃ e ∈ es, e.fails = true := by simpa using hfails
    exact ⟨e.line, List.mem_map_of_mem he, (fails_iff_shows (h e he)).mp hfails⟩
  · rintro ⟨line, hline, hshows⟩ hall
    obtain ⟨e, he, rfl⟩ := List.mem_map.mp hline
    exact hall e he ((fails_iff_shows (h e he)).mpr hshows)

/-- The lines of events read back as the events, arranged. -/
theorem map_ofLine?_lines (h : ∀ e ∈ es, e.Legible) :
    (es.map line).map ofLine? = (es.map arranged).map some := by
  rw [List.map_map, List.map_map]
  exact List.map_congr_left fun e he => ofLine?_line (h e he)

end Telemetry.Event

namespace CommandLine

/-- What a report prints and answers, when these are the events that its run emitted. -/
structure Report.Printout (r : Report) (events : List Event) : Prop where
  /-- One line for every event, and then that of the summary. -/
  lines : r.lines = events.map Event.line ++ [r.summary.line]
  /-- No line breaks. -/
  printable : ∀ line ∈ r.lines, line ≠ "" ∧ Json.Printable line.toList
  /-- The metrics are those of the events that the lines show. -/
  metrics : ∃ shown, (events.map Event.line).map Event.ofLine? = shown.map some ∧
    r.summary.field? "metrics" = some (Tally.ofEvents shown).toJson
  /-- The summary names the journey and its moment. -/
  journey : r.summary.field? "journey" = some (.text r.plan.description.journey)
  moment : r.summary.field? "at" = some (.text r.plan.description.moment)
  /-- The notices of the summary follow the protocol for them. -/
  notices : r.summary.field? "events" = some (.list (r.notices.map Notice.toJson))
  protocol : Notice.Protocol r.plan.description r.notices
  ignored : r.plan.isIgnored = true →
    r.notices = [.ignored r.plan.description] ∧ r.exitCode = 0
  /-- The exit code tells whether a notice is a failure. -/
  exitCode : r.exitCode = if ∃ n ∈ r.notices, n.kind = .failure then 1 else 0
  /-- It tells as well whether an event line shows a failure. -/
  exitCode_lines : r.exitCode = 1 ↔ ∃ line ∈ events.map Event.line,
    Event.Shows line .fail ∨ Event.Shows line .timeout

theorem Report.exitCode_eq_one_iff (r : Report) :
    r.exitCode = 1 ↔ Notice.failures r.notices ≠ [] := by
  unfold exitCode
  cases Notice.failures r.notices with
  | nil => exact iff_of_false (by decide) fun h => h rfl
  | cons f fs => exact iff_of_true rfl (List.cons_ne_nil f fs)

theorem Report.exitCode_eq (r : Report) :
    r.exitCode = if ∃ n ∈ r.notices, n.kind = .failure then 1 else 0 := by
  have hkinds := Notice.failures_eq_nil_iff r.notices
  by_cases h : ∃ n ∈ r.notices, n.kind = .failure
  · rw [if_pos h, r.exitCode_eq_one_iff, Ne, hkinds]
    obtain ⟨n, hn, hkind⟩ := h
    exact fun hall => hall n hn hkind
  · rw [if_neg h]
    have hnone : Notice.failures r.notices = [] :=
      hkinds.mpr fun n hn hkind => h ⟨n, hn, hkind⟩
    unfold exitCode
    rw [hnone]
    rfl

namespace Invocation

variable {i : Invocation}

/-- The conditions of a run with a profile. -/
def conditions (tl : Timeline) (stamp : String) (p : Profile) : Conditions :=
  { timeline := tl, grace := p.grace.toNat, stamp := stamp }

/-- A scenario that comes to a report has been planned, and its run has ended without a fault. -/
theorem runWith_eq_ok {cat : Catalogue} {tl : Timeline} {stamp : String} {p : Profile}
    {s : Scenario} {r : Report} (h : i.runWith cat tl stamp p s = .ok r) :
    i.planWith cat p s = .ok r.plan ∧
      (r.plan.run (conditions tl stamp p) (i.session p)).fault = none ∧
      r.session = (r.plan.run (conditions tl stamp p) (i.session p)).session := by
  unfold runWith at h
  split at h
  · cases h
  next plan hplan =>
  dsimp only at h
  split at h
  · cases h
  next hfault =>
  split at h
  · obtain rfl := Except.ok.inj h
    exact ⟨hplan, hfault, rfl⟩
  · cases h

/-- An invocation that comes to a report has loaded a profile, and has run a plan without a
fault. -/
theorem run_eq_ok {cat : Catalogue} {tl : Timeline} {stamp : String} {files : Files}
    {env : Bindings} {r : Report} (h : i.run cat tl stamp files env = .ok r) :
    ∃ p, i.loadProfile files env = .ok p ∧
      (r.plan.run (conditions tl stamp p) (i.session p)).fault = none ∧
      r.session = (r.plan.run (conditions tl stamp p) (i.session p)).session := by
  unfold run at h
  split at h
  · cases h
  next p hp =>
  split at h
  · cases h
  next scenario hscenario =>
  exact ⟨p, hp, (runWith_eq_ok h).2⟩

theorem keeps_recorder (i : Invocation) (p : Profile) : (i.session p).panel.Keeps recorder :=
  ⟨_, rfl, rfl, fun _ _ => rfl⟩

/-- With a console, the tally and the console are both served. -/
theorem serves_of_console (h : i.console = true) (p : Profile) :
    (i.session p).outlet.Serves .tally ∧ (i.session p).outlet.Serves .console := by
  have hsinks : (i.session p).outlet.sinks = [{ channel := .tally }, { channel := .console }] := by
    show [({ channel := .tally } : Sink)] ++ (if i.console then _ else []) = _
    rw [h]
    rfl
  constructor
  · refine ⟨[], { channel := .tally }, [{ channel := .console }], hsinks, rfl, fun _ _ => rfl, ?_,
      Or.inl rfl⟩
    intro sink hsink
    obtain rfl := List.mem_singleton.mp hsink
    exact nofun
  · refine ⟨[{ channel := .tally }], { channel := .console }, [], hsinks, rfl, fun _ _ => rfl, ?_,
      Or.inl rfl⟩
    intro sink hsink
    obtain rfl := List.mem_singleton.mp hsink
    exact nofun

/-- **What an invocation with a console prints and answers agrees with itself.** -/
theorem run_printout {cat : Catalogue} {tl : Timeline} {stamp : String} {files : Files}
    {env : Bindings} {r : Report} (hconsole : i.console = true)
    (hrun : i.run cat tl stamp files env = .ok r) :
    ∃ p, i.loadProfile files env = .ok p ∧
      r.session = (r.plan.run (conditions tl stamp p) (i.session p)).session ∧
      r.Printout (r.plan.emissions (conditions tl stamp p) (i.session p).core) := by
  obtain ⟨p, hp, hfault, hsession⟩ := run_eq_ok hrun
  refine ⟨p, hp, hsession, ?_⟩
  obtain ⟨ds, spent, hds, hemissions, hevents, hkept⟩ := Plan.run_emissions hfault
  obtain ⟨htally, hlines⟩ := serves_of_console hconsole p
  have hlegible : ∀ e ∈ r.plan.emissions (conditions tl stamp p) (i.session p).core,
      e.Legible := by
    rw [hemissions]
    intro e he
    rcases List.mem_append.mp he with he | he
    · exact hds.legible e he
    · exact Plan.legible_pauseEvents _ _ e he
  -- the last pause may add an event, but none that fails
  have hfails : (r.plan.emissions (conditions tl stamp p) (i.session p).core).filter
      Event.fails = [] ↔ Notice.failures (ds.flatMap Deed.notices) = [] := by
    rw [hemissions, List.filter_append, Plan.fails_pauseEvents, List.append_nil]
    exact hds.fails_iff
  have hnotices : r.notices = ds.flatMap Deed.notices := by
    show r.session.panel.kept recorder = _
    rw [hsession, hkept recorder (i.keeps_recorder p)]
    rfl
  -- the tally and the console are given the same events
  generalize r.plan.emissions (conditions tl stamp p) (i.session p).core = es at *
  have htallyEvents : r.session.outlet.events .tally = es := by
    rw [hsession, hevents .tally htally]
    rfl
  have hconsoleEvents : r.session.outlet.events .console = es := by
    rw [hsession, hevents .console hlines]
    rfl
  have hprinted : r.lines = es.map Event.line ++ [r.summary.line] := by
    show (r.session.outlet.events .console).map Event.line ++ _ = _
    rw [hconsoleEvents]
  exact {
    lines := hprinted
    printable := by
      rw [hprinted]
      intro line hline
      rcases List.mem_append.mp hline with hevent | hsummary
      · obtain ⟨e, -, rfl⟩ := List.mem_map.mp hevent
        exact Json.printable_line_object _
      · obtain rfl := List.mem_singleton.mp hsummary
        exact Json.printable_line_object _
    metrics := by
      refine ⟨es.map Event.arranged, Event.map_ofLine?_lines hlegible, ?_⟩
      rw [Tally.ofEvents_arranged hlegible, ← htallyEvents]
      rfl
    journey := rfl
    moment := rfl
    notices := rfl
    protocol := by
      rw [hnotices]
      exact hds.protocol.1
    ignored := by
      intro hi
      have hkept : r.notices = [.ignored r.plan.description] :=
        hnotices.trans (hds.protocol.2 hi)
      refine ⟨hkept, ?_⟩
      unfold Report.exitCode
      rw [hkept]
      rfl
    exitCode := r.exitCode_eq
    exitCode_lines := by
      rw [r.exitCode_eq_one_iff, hnotices, Ne, ← hfails]
      exact Event.filter_fails_ne_nil_iff hlegible }

/-- A journey that fails. -/
def failing : Catalogue :=
  { modules := [{ path := "m", attributes := [(.class "m.J", ["J"])] }]
    journeys := [("m.J",
      { name := "m.J", run := commandsOf .run [.raise (.general .assertion none)] })] }

/-- The printout of a journey that fails. -/
theorem run_printout_of_failing :
    let i : Invocation :=
      { scenario := "s", window := 5000, journey := some "m.J", console := true }
    i.console = true ∧ ∃ r es, i.run failing .steady "" (fun _ => .ok "") .empty = .ok r ∧
      r.Printout es ∧ r.exitCode = 1 := by
  intro i
  refine ⟨rfl, ?_⟩
  have hcode : (i.run failing .steady "" (fun _ => .ok "") .empty).toOption.map
      Report.exitCode = some 1 := by decide +kernel
  cases hrun : i.run failing .steady "" (fun _ => .ok "") .empty with
  | error e =>
    rw [hrun] at hcode
    cases hcode
  | ok r =>
    rw [hrun] at hcode
    obtain ⟨p, -, -, hprintout⟩ := run_printout rfl hrun
    exact ⟨r, _, rfl, hprintout, Option.some.inj hcode⟩

end Invocation

end CommandLine

end Timebox
