import Timebox.Proofs.Deeds
import Timebox.Proofs.Outline
import Timebox.Proofs.Waiting

/-!
# Plots of runs

Observers can end a run, but they cannot tell it what to do.  The plot of a run, or of a part of it,
says what it comes to if its observers let it: the deeds that it does, the core of the session that
it leads to, and the fault with which it ends by itself, if any.  It is a function of the plan, of
the conditions, and of the core from which the part starts.

A part that unfolds a plot (`Progress.Unfolds`) plays the deeds of the plot before its observers, up
to the first fault that comes back.  Parts are put together by `Progress.Unfolds.andThen`.  A run
ends in one of two ways: no fault comes back, and it is as its plot says (`Plan.run_of_unbroken`);
or one does, and the run breaks off after the deed that was observed (`Plan.run_of_broken`).  The
arguments are put back on either, unless it was the very first event that broke it off.
-/

namespace Timebox

/-- What a part of a run comes to if its observers let it. -/
structure Plot where
  deeds : List Deed
  /-- The core of the session that it leads to. -/
  core : Core
  /-- The fault with which it ends by itself. -/
  fault : Option Fault := none

namespace Plot

/-- Some deeds that leave a core. -/
def doing (ds : List Deed) (k : Core) : Plot :=
  { deeds := ds, core := k }

/-- Some deeds come first. -/
def after (ds : List Deed) (a : Plot) : Plot :=
  { a with deeds := ds ++ a.deeds }

/-- Go on if there was no fault. -/
def andThen (a : Plot) (next : Core → Plot) : Plot :=
  match a.fault with
  | none => (next a.core).after a.deeds
  | some _ => a

@[simp] theorem doing_deeds (ds : List Deed) (k : Core) : (doing ds k).deeds = ds := rfl

@[simp] theorem doing_core (ds : List Deed) (k : Core) : (doing ds k).core = k := rfl

@[simp] theorem after_deeds (ds : List Deed) (a : Plot) : (a.after ds).deeds = ds ++ a.deeds := rfl

@[simp] theorem doing_after (ds ds' : List Deed) (k : Core) :
    (doing ds' k).after ds = doing (ds ++ ds') k := rfl

@[simp] theorem doing_andThen (ds : List Deed) (k : Core) (next : Core → Plot) :
    (doing ds k).andThen next = (next k).after ds := rfl

variable {a : Plot} {next : Core → Plot}

theorem andThen_of_none (h : a.fault = none) : a.andThen next = (next a.core).after a.deeds := by
  unfold andThen
  rw [h]

theorem andThen_of_fault {f : Fault} (h : a.fault = some f) : a.andThen next = a := by
  unfold andThen
  rw [h]

theorem after_after (ds ds' : List Deed) (a : Plot) :
    (a.after ds').after ds = a.after (ds ++ ds') := by
  unfold after
  rw [List.append_assoc]

theorem after_andThen (ds : List Deed) (a : Plot) (next : Core → Plot) :
    (a.andThen next).after ds = (a.after ds).andThen next := by
  cases h : a.fault with
  | none =>
    have hafter : (a.after ds).fault = none := h
    rw [andThen_of_none h, andThen_of_none hafter, after_after]
    rfl
  | some f =>
    have hafter : (a.after ds).fault = some f := h
    rw [andThen_of_fault h, andThen_of_fault hafter]

end Plot

namespace Core

/-- A session with this core that nobody observes. -/
def alone (k : Core) : Session :=
  { now := k.now, arguments := k.arguments, panel := {}, outlet := {}, idler := k.idler
    log := k.log, requests := k.requests }

/-- Ask the idler to idle. -/
def ask (k : Core) (tl : Timeline) (i : Interlude) (duration : Int) : Plot :=
  { deeds := [.asked i duration]
    core := (k.alone.await tl duration).session.core
    fault := (k.alone.await tl duration).fault }

end Core

namespace Plan

variable (p : Plan) (c : Conditions) (s : Session)

/-! ### The deeds of the parts -/

/-- What is announced about the fault of a verdict. -/
def failures : Option Fault → List Notice
  | none => []
  | some f => [.failure ⟨p.description, f⟩]

/-- A pause of some duration, if it is wanted and positive. -/
def pauseOf (wanted : Bool) (duration : Int) : Option Int :=
  if wanted then (if duration ≤ 0 then none else some duration) else none

theorem pauseOf_eq_some {wanted : Bool} {duration d : Int} (h : pauseOf wanted duration = some d) :
    wanted = true ∧ d = duration := by
  unfold pauseOf at h
  split at h
  · next hwanted =>
    split at h
    · cases h
    · exact ⟨hwanted, (Option.some.inj h).symm⟩
  · cases h

/-- The pause before teardown. -/
def pauseBeforeTeardown (body : Enforced) : Option Int :=
  pauseOf (p.idlesBeforeTeardown body.verdict.status)
    (p.window - (c.timeline.clock body.now - c.timeline.clock s.now) - 2 * p.leeway)

/-- The pause before the next scenario, if nothing else is left to do from an instant on. -/
def pauseBeforeNext (spent : Nat) : Option Int :=
  pauseOf p.idles (p.window - (c.timeline.clock spent - c.timeline.clock s.now))

/-- What a run does for a pause. -/
def pauseDeeds (i : Interlude) (now : Nat) : Option Int → List Deed
  | none => []
  | some d => [.entered i.stage now, .asked i d, .emitted (p.idleEvent c i d)]

/-- A run overrides the arguments. -/
def openingDeeds : List Deed :=
  [.entered .argumentsOverridden s.now, .emitted (p.overriddenEvent c)]

/-- A run passes over its journey. -/
def skipDeeds : List Deed :=
  [.entered .skipped s.now, .emitted (p.ignoredEvent c), .announced (.ignored p.description)]

/-- A run starts its journey. -/
def startDeeds : List Deed :=
  [.announced (.started p.description), .entered .running s.now]

/-- A run records the verdict on the body. -/
def verdictDeeds (now : Nat) (v : Verdict) : List Deed :=
  [.entered (.ofStatus v.status) now, .emitted (p.finishedEvent c v)] ++
    (p.failures v.fault).map .announced

/-- A run puts the arguments back. -/
def closingDeeds (stop : Nat) : List Deed :=
  [.entered .argumentsRestored stop, .entered .done stop]

end Plan

/-! ### Parts that unfold plots -/

/-- A part of a run plays the deeds of a plot before its observers. If no fault comes back from them
it comes to what the plot says. -/
structure Progress.Unfolds (q : Progress) (s : Session) (a : Plot) : Prop where
  records : q.session.records = (s.records.play a.deeds).1
  fault : q.fault = (s.records.play a.deeds).2.or a.fault
  core : (s.records.play a.deeds).2 = none → q.session.core = a.core

namespace Progress

variable {q : Progress} {s t : Session} {a : Plot} {ds : List Deed}

theorem unfolds_of_session (s : Session) :
    ({ session := s } : Progress).Unfolds s (.doing [] s.core) :=
  ⟨rfl, rfl, fun _ => rfl⟩

/-- A deed that is only observed leaves the core alone. -/
theorem unfolds_of_observed {d : Deed} (hrecords : q.session.records = s.records.add d)
    (hfault : q.fault = s.records.fault d) (hcore : q.session.core = s.core) :
    q.Unfolds s (.doing [d] s.core) := by
  have hplay : s.records.play (Plot.doing [d] s.core).deeds =
      (s.records.add d, s.records.fault d) :=
    Records.play_singleton d
  refine ⟨?_, ?_, fun _ => hcore⟩
  · rw [hplay, hrecords]
  · rw [hplay, hfault]
    exact (Option.or_none).symm

/-- Something has been done before. -/
theorem Unfolds.after (h : q.Unfolds t a) (hs : s.Did ds t) : q.Unfolds s (a.after ds) := by
  have hplay : s.records.play (a.after ds).deeds = t.records.play a.deeds := by
    rw [hs.follows]
    show s.records.play (ds ++ a.deeds) = _
    rw [Records.play_append, Records.play_of_unbroken hs.unbroken]
  constructor
  · rw [h.records, hplay]
  · rw [h.fault, hplay]
    rfl
  · rw [hplay]
    exact h.core

/-- The rule of sequence. -/
theorem Unfolds.andThen {next : Session → Progress} {rest : Core → Plot} (h : q.Unfolds s a)
    (hn : ∀ t, (next t).Unfolds t (rest t.core)) :
    (q.andThen next).Unfolds s (a.andThen rest) := by
  have hfault := h.fault
  cases hplayed : (s.records.play a.deeds).2 with
  | none =>
    rw [hplayed, Option.none_or] at hfault
    cases ha : a.fault with
    | none =>
      -- the second part starts from where the plot of the first one leads to
      have hnext := hn q.session
      rw [h.core hplayed] at hnext
      rw [Plot.andThen_of_none ha, andThen_of_none (hfault.trans ha)]
      refine hnext.after ⟨?_, Records.unbroken_of_play hplayed⟩
      unfold Session.Follows
      rw [h.records, Records.play_of_unbroken (Records.unbroken_of_play hplayed)]
    | some g =>
      rw [Plot.andThen_of_fault ha, andThen_of_fault (hfault.trans ha)]
      exact h
  | some f =>
    -- an observer has ended the first part, and what would have come next is not played
    rw [hplayed, Option.some_or] at hfault
    have hplay : s.records.play (a.andThen rest).deeds = s.records.play a.deeds := by
      cases ha : a.fault with
      | none =>
        rw [Plot.andThen_of_none ha]
        show s.records.play (a.deeds ++ _) = _
        rw [Records.play_append, hplayed]
      | some g => rw [Plot.andThen_of_fault ha]
    rw [andThen_of_fault hfault]
    constructor
    · rw [hplay]
      exact h.records
    · rw [hplay, hplayed]
      exact hfault
    · rw [hplay, hplayed]
      nofun

end Progress

namespace Session

variable (s : Session)

theorem emit_unfolds (e : Telemetry.Event) : (s.emit e).Unfolds s (.doing [.emitted e] s.core) :=
  Progress.unfolds_of_observed rfl rfl rfl

theorem announce_unfolds (n : Notice) :
    (s.announce n).Unfolds s (.doing [.announced n] s.core) :=
  Progress.unfolds_of_observed rfl rfl rfl

theorem giveUp_unfolds (u : Unenforced) : (s.giveUp u).Unfolds s
    { deeds := [.logged u.log], core := (s.giveUp u).session.core, fault := some .immeasurable } :=
  ⟨rfl, rfl, fun _ => rfl⟩

/-- Idling is asked for, and leaves no other record. -/
theorem records_await (tl : Timeline) (duration : Int) :
    (s.await tl duration).session.records =
      { s.records with requests := s.requests ++ [duration] } := by
  cases hi : s.idler with
  | waiter alarm =>
    rw [await_waiter tl duration hi]
    rfl
  | other answer asked =>
    rw [await_other tl duration hi]
    cases answer asked duration <;> rfl

variable {s} in
/-- What idling comes to depends on the core alone. -/
theorem await_congr {t : Session} (h : t.core = s.core) (tl : Timeline) (duration : Int) :
    (t.await tl duration).session.core = (s.await tl duration).session.core ∧
      (t.await tl duration).fault = (s.await tl duration).fault := by
  have hidler : t.idler = s.idler := congrArg Core.idler h
  have hnow : t.now = s.now := congrArg Core.now h
  have harguments : t.arguments = s.arguments := congrArg Core.arguments h
  have hlog : t.log = s.log := congrArg Core.log h
  have hrequests : t.requests = s.requests := congrArg Core.requests h
  unfold await core
  dsimp only
  rw [hidler, hnow, harguments, hlog, hrequests]
  cases s.idler with
  | waiter alarm => exact ⟨rfl, rfl⟩
  | other answer asked =>
    dsimp only
    cases answer asked duration <;> exact ⟨rfl, rfl⟩

/-- Idling is noted down before it is asked for. -/
theorem ask_unfolds (tl : Timeline) (i : Interlude) (duration : Int) :
    ({ s with trace := s.trace ++ [TraceEntry.idling i duration] }.await tl duration).Unfolds s
      (s.core.ask tl i duration) := by
  generalize hm : ({ s with trace := s.trace ++ [TraceEntry.idling i duration] } : Session) = m
  have hcore : m.core = s.core.alone.core := by
    rw [← hm]
    rfl
  obtain ⟨hafter, hfault⟩ := await_congr hcore tl duration
  refine ⟨?_, hfault, fun _ => hafter⟩
  rw [m.records_await tl duration, ← hm]
  rfl

end Session

namespace Plan

variable (p : Plan) (c : Conditions) (origin : Int)

/-! ### The plots of the parts -/

/-- A pause, if there is one. -/
def pausePlot (i : Interlude) (pause : Option Int) (k : Core) : Plot :=
  match pause with
  | none => .doing [] k
  | some d => ((k.ask c.timeline i d).andThen (.doing [.emitted (p.idleEvent c i d)])).after
      [.entered i.stage k.now]

/-- Idle until the teardown is due. -/
def waitPlot (status : Status) (k : Core) : Plot :=
  p.pausePlot c .beforeTeardown
    (pauseOf (p.idlesBeforeTeardown status) (p.remaining c origin k.alone - 2 * p.leeway)) k

/-- Idle until the next scenario is due. -/
def restPlot (k : Core) : Plot :=
  p.pausePlot c .beforeNext (pauseOf p.idles (p.remaining c origin k.alone)) k

/-- Clean up within the leeway, if the journey knows how to. -/
def cleanUpPlot (k : Core) : Plot :=
  match p.journey.tearDown with
  | none => .doing [] k
  | some commands =>
    match Deadline.attempt c.timeline k.now p.leeway c.grace k.arguments commands with
    | .error u =>
      { deeds := [.logged u.log], core := (k.alone.giveUp u).session.core
        fault := some .immeasurable }
    | .ok e =>
      .doing ([.logged e.log, .emitted (p.teardownEvent c e.verdict)] ++
        (p.failures e.verdict.fault).map .announced) (k.alone.absorb e).core

/-- Tear the journey down if it was constructed. -/
def tearDownPlot (constructed : Bool) (k : Core) : Plot :=
  if constructed then (p.cleanUpPlot c k).after [.entered .teardown k.now] else .doing [] k

/-- Everything that follows the verdict on the body. -/
def concludePlot (constructed : Bool) (v : Verdict) (k : Core) : Plot :=
  (((p.waitPlot c origin v.status k).after (p.verdictDeeds c k.now v)).andThen
    (p.tearDownPlot c constructed)).andThen (.doing [.announced (.finished p.description)])

/-- Run the body, and go on with what follows if its deadline could be enforced. -/
def attemptPlot (k : Core) : Plot :=
  match p.attemptBody c k.alone with
  | .error u =>
    { deeds := [.logged (if u.begun then p.journey.constructionLog k.now else []), .logged u.log]
      core := ((p.construct u.begun k.alone).giveUp u).session.core
      fault := some .immeasurable }
  | .ok e =>
    (p.concludePlot c origin (p.constructs c k.alone) e.verdict
      ((p.construct true k.alone).absorb e).core).after
        [.logged (p.journey.constructionLog k.now), .logged e.log]

/-- What is done with the journey: it is passed over, or run from its start to its end. -/
def passagePlot (k : Core) : Plot :=
  if p.isIgnored then .doing (p.skipDeeds c k.alone) k
  else (p.attemptPlot c origin k).after (p.startDeeds k.alone)

/-- What a run does until it puts the arguments back. -/
def plot (k : Core) : Plot :=
  ((p.passagePlot c (c.timeline.clock k.now) (p.opened k.alone).core).andThen
    (p.restPlot c (c.timeline.clock k.now))).after (p.openingDeeds c k.alone)

/-! ### The parts unfold their plots -/

theorem announceFault_unfolds (fault : Option Fault) (t : Session) :
    (t.announceFault p.description fault).Unfolds t
      (.doing ((p.failures fault).map .announced) t.core) := by
  cases fault with
  | none => exact Progress.unfolds_of_session t
  | some f => exact t.announce_unfolds _

/-- An event is emitted, and then a fault is announced. -/
theorem report_unfolds (e : Telemetry.Event) (fault : Option Fault) (t : Session) :
    ((t.emit e).andThen fun u => u.announceFault p.description fault).Unfolds t
      (.doing (.emitted e :: (p.failures fault).map .announced) t.core) := by
  have hemit := t.emit_unfolds e
  exact hemit.andThen (p.announceFault_unfolds fault)

theorem record_unfolds (v : Verdict) (t : Session) :
    (p.record c v t).Unfolds t (.doing (p.verdictDeeds c t.now v) t.core) := by
  have hreport := p.report_unfolds (p.finishedEvent c v) v.fault
    (t.enter (.ofStatus v.status))
  exact hreport.after (t.did_enter _)

/-- Idling for a positive duration is a pause; idling for no time is none. -/
theorem idle_unfolds (i : Interlude) (wanted : Bool) (duration : Int) (t : Session) :
    (if wanted then p.idle c i duration t else { session := t }).Unfolds t
      (p.pausePlot c i (pauseOf wanted duration) t.core) := by
  unfold pauseOf idle
  split
  · split
    · exact Progress.unfolds_of_session t
    · have hasked := (t.enter i.stage).ask_unfolds c.timeline i duration
      have hended := hasked.andThen fun u => u.emit_unfolds (p.idleEvent c i duration)
      exact hended.after (t.did_enter i.stage)
  · exact Progress.unfolds_of_session t

theorem cleanUp_unfolds (t : Session) : (p.cleanUp c t).Unfolds t (p.cleanUpPlot c t.core) := by
  have hnow : t.core.now = t.now := rfl
  have harguments : t.core.arguments = t.arguments := rfl
  unfold cleanUp cleanUpPlot
  rw [hnow, harguments]
  cases p.journey.tearDown with
  | none => exact Progress.unfolds_of_session t
  | some commands =>
    dsimp only
    cases Deadline.attempt c.timeline t.now p.leeway c.grace t.arguments commands with
    | error u => exact t.giveUp_unfolds u
    | ok e =>
      have hreport := p.report_unfolds (p.teardownEvent c e.verdict) e.verdict.fault (t.absorb e)
      exact hreport.after (t.did_absorb e)

theorem tearDown_unfolds (constructed : Bool) (t : Session) :
    (p.tearDown c constructed t).Unfolds t (p.tearDownPlot c constructed t.core) := by
  unfold tearDown tearDownPlot
  split
  · exact (p.cleanUp_unfolds c _).after (t.did_enter .teardown)
  · exact Progress.unfolds_of_session t

theorem conclude_unfolds (constructed : Bool) (v : Verdict) (t : Session) :
    (p.conclude c origin constructed v t).Unfolds t
      (p.concludePlot c origin constructed v t.core) := by
  have hwait : (p.record c v t).andThen (p.idleBeforeTeardown c origin v.status) |>.Unfolds t
      ((p.waitPlot c origin v.status t.core).after (p.verdictDeeds c t.now v)) :=
    (p.record_unfolds c v t).andThen fun u => p.idle_unfolds c .beforeTeardown _ _ u
  have htorn := hwait.andThen (p.tearDown_unfolds c constructed)
  exact htorn.andThen fun u => u.announce_unfolds _

/-- The note on the construction, if it comes to that. -/
theorem did_construct (begun : Bool) (t : Session) :
    t.Did [.logged (if begun then p.journey.constructionLog t.now else [])]
      (p.construct begun t) := by
  refine ⟨?_, rfl, trivial⟩
  unfold construct
  cases begun with
  | true => rfl
  | false =>
    show t.records = { t.records with log := t.log ++ [] }
    rw [List.append_nil]
    rfl

variable {p c} in
/-- The attempt at the body reads nothing but the core. -/
theorem attemptBody_congr {t u : Session} (h : t.core = u.core) :
    p.attemptBody c t = p.attemptBody c u := by
  have hnow : t.now = u.now := congrArg Core.now h
  have harguments : t.arguments = u.arguments := congrArg Core.arguments h
  unfold attemptBody
  rw [hnow, harguments]

variable {p c} in
theorem constructs_congr {t u : Session} (h : t.core = u.core) :
    p.constructs c t = p.constructs c u := by
  have hnow : t.now = u.now := congrArg Core.now h
  have harguments : t.arguments = u.arguments := congrArg Core.arguments h
  unfold constructs
  rw [hnow, harguments]

/-- The body under its deadline, and what follows it. -/
theorem attempt_unfolds (t : Session) :
    (match p.attemptBody c t with
      | .error u => (p.construct u.begun t).giveUp u
      | .ok e => p.conclude c origin (p.constructs c t) e.verdict
          ((p.construct true t).absorb e)).Unfolds t (p.attemptPlot c origin t.core) := by
  have hcore : t.core.alone.core = t.core := rfl
  unfold attemptPlot
  rw [attemptBody_congr hcore, constructs_congr hcore]
  cases p.attemptBody c t with
  | error u =>
    have hgiven := ((p.construct u.begun t).giveUp_unfolds u).after (p.did_construct u.begun t)
    -- the records differ from those of the core alone, but the core does not
    have hcore : ((p.construct u.begun t).giveUp u).session.core =
        ((p.construct u.begun t.core.alone).giveUp u).session.core := by
      unfold construct
      split <;> rfl
    rw [hcore] at hgiven
    exact hgiven
  | ok e =>
    have hdid := (p.did_construct true t).trans (Session.did_absorb _ e)
    have hconclude := p.conclude_unfolds c origin (p.constructs c t) e.verdict
      ((p.construct true t).absorb e)
    exact hconclude.after hdid

theorem execute_unfolds (t : Session) : (p.execute c origin t).Unfolds t
    ((p.attemptPlot c origin t.core).after (p.startDeeds t)) := by
  have hstart := t.announce_unfolds (.started p.description)
  have hexecute : (p.execute c origin t).Unfolds t
      ((Plot.doing [.announced (.started p.description)] t.core).andThen fun k =>
        (p.attemptPlot c origin k).after [.entered .running k.now]) := by
    refine hstart.andThen fun u => ?_
    exact (p.attempt_unfolds c origin _).after (u.did_enter .running)
  exact hexecute

theorem skip_unfolds (t : Session) :
    (p.skip c t).Unfolds t (.doing (p.skipDeeds c t) t.core) := by
  have hemit := ((t.enter .skipped).emit_unfolds (p.ignoredEvent c)).after (t.did_enter .skipped)
  exact hemit.andThen fun u => u.announce_unfolds (.ignored p.description)

/-- What happens while the arguments are overridden. -/
theorem body_unfolds (t : Session) : (p.body c origin t).Unfolds t
    ((p.passagePlot c origin t.core).andThen (p.restPlot c origin)) := by
  have hpassage : (if p.isIgnored then p.skip c t else p.execute c origin t).Unfolds t
      (p.passagePlot c origin t.core) := by
    unfold passagePlot
    split
    · exact p.skip_unfolds c t
    · exact p.execute_unfolds c origin t
  exact hpassage.andThen fun u => p.idle_unfolds c .beforeNext _ _ u

/-! ### Runs -/

variable (s : Session)

/-- A run up to the instant at which it puts the arguments back. -/
def opening : Progress :=
  ((p.opened s).emit (p.overriddenEvent c)).andThen (p.body c (c.timeline.clock s.now))

theorem opening_unfolds : (p.opening c s).Unfolds s (p.plot c s.core) := by
  have hoverridden : s.Did [.entered .argumentsOverridden s.now] (p.opened s) :=
    ⟨rfl, rfl, trivial⟩
  have hemit := ((p.opened s).emit_unfolds (p.overriddenEvent c)).after hoverridden
  have hopening : (p.opening c s).Unfolds s
      ((Plot.doing (p.openingDeeds c s) (p.opened s).core).andThen fun k =>
        (p.passagePlot c (c.timeline.clock s.now) k).andThen
          (p.restPlot c (c.timeline.clock s.now))) :=
    hemit.andThen (p.body_unfolds c _)
  exact hopening

variable {p c s}

/-- If no fault comes back from the very first event, a run puts the arguments back. -/
theorem run_eq_of_none (h : ((p.opened s).emit (p.overriddenEvent c)).fault = none) :
    p.run c s = ((p.opening c s).always (restore s.arguments.save)).andThen
      fun t => { session := t.enter .done } := by
  unfold run opening
  rw [Progress.andThen_of_none h]
  exact Progress.andThen_of_none h _

theorem run_eq_of_fault {f : Fault} (h : ((p.opened s).emit (p.overriddenEvent c)).fault = some f) :
    p.run c s = p.opening c s := by
  unfold run opening
  rw [Progress.andThen_of_fault h]
  exact Progress.andThen_of_fault h _

/-- What a run does when it puts the arguments back. -/
def closing (fault : Option Fault) (stop : Nat) : List Deed :=
  match fault with
  | none => closingDeeds stop
  | some _ => [.entered .argumentsRestored stop]

/-- A run from whose observers no fault comes back is as its plot says, and puts the arguments
back. -/
theorem run_of_unbroken (h : s.records.Unbroken (p.plot c s.core).deeds) :
    (p.run c s).fault = (p.plot c s.core).fault ∧
      s.Did ((p.plot c s.core).deeds ++ closing (p.plot c s.core).fault (p.plot c s.core).core.now)
        (p.run c s).session ∧
      (p.run c s).session.core = { (p.plot c s.core).core with arguments := s.arguments } ∧
      (p.run c s).session.stage =
        if (p.plot c s.core).fault.isNone then .done else .argumentsRestored := by
  have hfirst : ((p.opened s).emit (p.overriddenEvent c)).fault = none := h.2.1
  have hunfolds := p.opening_unfolds c s
  generalize p.plot c s.core = a at h hunfolds ⊢
  have hplay := Records.play_of_unbroken h
  rw [run_eq_of_none hfirst]
  -- of the opening only what it unfolds to is needed
  generalize p.opening c s = q at hunfolds ⊢
  have hfault : q.fault = a.fault := by
    rw [hunfolds.fault, hplay]
    rfl
  have hcore : q.session.core = a.core := hunfolds.core (by rw [hplay])
  have hdid : s.Did a.deeds q.session := by
    refine ⟨?_, h⟩
    have hrecords := hunfolds.records
    rwa [hplay] at hrecords
  have hrestored := hdid.trans
    (⟨rfl, rfl, trivial⟩ : q.session.Did [.entered .argumentsRestored q.session.now]
      (restore s.arguments.save q.session))
  have hnow : q.session.now = a.core.now := congrArg Core.now hcore
  have hrestoredCore : (restore s.arguments.save q.session).core =
      { a.core with arguments := s.arguments } := by
    rw [← hcore]
    rfl
  -- the arguments are put back in any case, and the last stage is for runs that return
  cases ha : a.fault with
  | none =>
    have hdone := hrestored.trans ((restore s.arguments.save q.session).did_enter .done)
    rw [List.append_assoc] at hdone
    rw [Progress.andThen_of_none (p := q.always _) (hfault.trans ha), ← hnow]
    exact ⟨rfl, hdone, hrestoredCore, rfl⟩
  | some f =>
    rw [Progress.andThen_of_fault (p := q.always _) (hfault.trans ha), ← hnow]
    exact ⟨hfault.trans ha, hrestored, hrestoredCore, rfl⟩

/-- A run from one of whose observers a fault comes back ends with it after the deed that was
observed, but for the mark of the arguments being put back. -/
theorem run_of_broken {f : Fault} (h : (s.records.play (p.plot c s.core).deeds).2 = some f) :
    (p.run c s).fault = some f ∧ ∃ xs d rest, xs ++ [d] <+: (p.plot c s.core).deeds ∧
      (s.records.addAll xs).fault d = some f ∧
      rest <+: [.entered .argumentsRestored (p.run c s).session.now] ∧
      (p.run c s).session.Follows s (xs ++ [d] ++ rest) := by
  have hunfolds := p.opening_unfolds c s
  have hfault : (p.opening c s).fault = some f := by
    rw [hunfolds.fault, h]
    rfl
  obtain ⟨xs, d, ys, hdeeds, hd, hplayed⟩ := Records.play_eq_some h
  have hxs : xs ++ [d] <+: (p.plot c s.core).deeds :=
    ⟨ys, by rw [hdeeds, List.append_assoc, List.singleton_append]⟩
  have hfollows : (p.opening c s).session.Follows s (xs ++ [d]) :=
    hunfolds.records.trans hplayed
  cases hfirst : ((p.opened s).emit (p.overriddenEvent c)).fault with
  | none =>
    have hrun := run_eq_of_none hfirst
    rw [Progress.andThen_of_fault (p := (p.opening c s).always _) hfault] at hrun
    rw [hrun]
    have hrestored : (restore s.arguments.save (p.opening c s).session).Follows
        (p.opening c s).session [.entered .argumentsRestored (p.opening c s).session.now] := rfl
    exact ⟨hfault, xs, d, _, hxs, hd, List.prefix_refl _, hfollows.trans hrestored⟩
  | some g =>
    -- the arguments stay overridden
    rw [run_eq_of_fault hfirst]
    refine ⟨hfault, xs, d, [], hxs, hd, List.nil_prefix, ?_⟩
    rw [List.append_nil]
    exact hfollows

/-- Whatever its observers do, a run that returns has done the deeds of its plot, and one that ends
with a fault the first of them.  Then it puts the arguments back. -/
theorem run_follows (p : Plan) (c : Conditions) (s : Session) : (p.run c s).Ends
    (fun t => (p.plot c s.core).fault = none ∧ t.stage = .done ∧
      t.Follows s ((p.plot c s.core).deeds ++ closingDeeds (p.plot c s.core).core.now))
    (fun _ t => ∃ ds rest, ds <+: (p.plot c s.core).deeds ∧
      rest <+: [.entered .argumentsRestored t.now] ∧ t.Follows s (ds ++ rest)) := by
  unfold Progress.Ends
  cases hplayed : (s.records.play (p.plot c s.core).deeds).2 with
  | none =>
    obtain ⟨hfault, hdid, hcore, hstage⟩ := run_of_unbroken (Records.unbroken_of_play hplayed)
    rw [hfault]
    have hnow : (p.run c s).session.now = (p.plot c s.core).core.now := congrArg Core.now hcore
    cases ha : (p.plot c s.core).fault with
    | none =>
      rw [ha] at hstage hdid
      exact ⟨rfl, hstage, hdid.follows⟩
    | some f =>
      rw [ha, ← hnow] at hdid
      exact ⟨_, _, List.prefix_refl _, List.prefix_refl _, hdid.follows⟩
  | some f =>
    -- an observer breaks in, and only the first deeds of the plot are done
    obtain ⟨hfault, xs, d, rest, hxs, -, hrest, hfollows⟩ := run_of_broken hplayed
    rw [hfault]
    exact ⟨_, rest, hxs, hrest, hfollows⟩

/-- A run does the deeds of its plot until a fault comes back from an observer, and some of those
with which it puts the arguments back. -/
theorem run_does (p : Plan) (c : Conditions) (s : Session) : ∃ rest stop,
    rest <+: closingDeeds stop ∧
      (p.run c s).session.Follows s (s.records.done (p.plot c s.core).deeds ++ rest) := by
  have hopening : (p.opening c s).session.Follows s (s.records.done (p.plot c s.core).deeds) :=
    (p.opening_unfolds c s).records.trans (Records.play_fst _ _)
  cases hfirst : ((p.opened s).emit (p.overriddenEvent c)).fault with
  | some f =>
    -- a fault of the first event comes too early for the arguments to be put back
    refine ⟨[], 0, List.nil_prefix, ?_⟩
    rw [run_eq_of_fault hfirst, List.append_nil]
    exact hopening
  | none =>
    have hrestored : (restore s.arguments.save (p.opening c s).session).Follows
        (p.opening c s).session [.entered .argumentsRestored (p.opening c s).session.now] := rfl
    rw [run_eq_of_none hfirst]
    cases hfault : (p.opening c s).fault with
    | some f =>
      rw [Progress.andThen_of_fault (p := (p.opening c s).always _) hfault]
      exact ⟨_, _, List.prefix_append [_] [_], hopening.trans hrestored⟩
    | none =>
      rw [Progress.andThen_of_none (p := (p.opening c s).always _) hfault]
      have hdone : ((restore s.arguments.save (p.opening c s).session).enter .done).Follows
          (p.opening c s).session (closingDeeds (p.opening c s).session.now) := rfl
      exact ⟨_, _, List.prefix_refl _, hopening.trans hdone⟩

/-- So it does the first deeds of its plot, and some of those with which it puts the arguments
back. -/
theorem exists_follows (p : Plan) (c : Conditions) (s : Session) : ∃ ds rest stop,
    ds <+: (p.plot c s.core).deeds ∧ rest <+: closingDeeds stop ∧
      (p.run c s).session.Follows s (ds ++ rest) := by
  obtain ⟨rest, stop, hrest, hfollows⟩ := p.run_does c s
  exact ⟨_, rest, stop, Records.done_prefix _ _, hrest, hfollows⟩

end Plan

end Timebox
