import Timebox.Proofs.Delay
import Timebox.Proofs.Reports

/-!
# What runs announce

Before a run starts it is settled what it is going to announce (`Plan.told`): this depends on its
journey, its window and its options, on the grace period, and on the arguments.  It does not depend
on when the run starts, on how the clock goes, or on whether and how the run idles, since the
verdicts on the body and on the teardown do not (`Deadline.judge_eq`), and since idling is no news
to listeners.

There is one exception.  If the clock falls back far enough while the body runs, more is left of the
window than can be asked for before the teardown (`Plan.Overlong`), and asking for it may end the
run.  That does not happen if the clock never falls back (`Plan.not_overlong_of_forward`), or if the
run does not idle (`Plan.not_overlong_of_not_idles`).

Listeners may raise any fault; they are told the notices up to that (`Panel.hear`).
-/

namespace Timebox

/-! ### Listeners that are told several notices -/

/-- Tell the listeners one notice after the other, until a fault comes back. -/
def Panel.hear (p : Panel) : List Notice → Panel
  | [] => p
  | n :: ns =>
    match (p.announce n).2 with
    | none => (p.announce n).1.hear ns
    | some _ => (p.announce n).1

/-- If no fault comes back from the sinks, it is the notices among the deeds that matter to the
listeners. -/
theorem Records.panel_play {r : Records} (h : r.outlet.Tame) (ds : List Deed) :
    (r.play ds).1.panel = r.panel.hear (ds.flatMap Deed.notices) := by
  induction ds generalizing r with
  | nil => rfl
  | cons d ds ih =>
    unfold play
    -- only a notice reaches the panel, and a tame outlet lets no fault of an event through
    cases d with
    | announced n =>
      show _ = r.panel.hear (n :: ds.flatMap Deed.notices)
      unfold Panel.hear
      have hfault : r.fault (.announced n) = (r.panel.announce n).2 := rfl
      rw [hfault]
      cases (r.panel.announce n).2 with
      | none => exact ih h
      | some f => rfl
    | emitted e =>
      have hfault : r.fault (.emitted e) = none := h.emit e
      rw [hfault]
      exact ih h
    | entered stage now => exact ih h
    | asked i duration => exact ih h
    | logged es => exact ih h

namespace Plan

/-! ### What is told -/

/-- What listeners are told about the teardown and the end of a journey. -/
def toldOfTearDown (p : Plan) (grace : Nat) (arguments : Arguments) (constructed : Bool) :
    List Notice :=
  if constructed then
    match p.journey.tearDown with
    | none => [.finished p.description]
    | some commands =>
      match Deadline.judge p.leeway grace arguments commands with
      | none => []
      | some j => p.failures j.fault ++ [.finished p.description]
  else [.finished p.description]

/-- What listeners are told about a journey that finds some arguments. -/
def toldOfJourney (p : Plan) (grace : Nat) (arguments : Arguments) : List Notice :=
  .started p.description ::
    match Deadline.judge p.budget grace arguments p.journey.opening with
    | none => []
    | some j => p.failures j.fault ++ p.toldOfTearDown grace j.arguments
        (Deadline.completes .steady 0 p.budget grace arguments p.journey.construction)

/-- What listeners are told by a run. -/
def told (p : Plan) (grace : Nat) (arguments : Arguments) : List Notice :=
  if p.isIgnored then [.ignored p.description] else p.toldOfJourney grace arguments

/-- The clock falls back while the body runs, and so far that what is left of the window before the
teardown is too long to be asked for. -/
def Overlong (p : Plan) (c : Conditions) (s : Session) : Prop :=
  ∃ body d, p.attemptBody c (p.opened s) = .ok body ∧ p.pauseBeforeTeardown c s body = some d ∧
    isMeasurable d.toNat = false ∧ c.timeline.clock body.now < c.timeline.clock s.now

variable {p : Plan} {c : Conditions} {s : Session} {body : Enforced} {a : Plot} {d : Int}

theorem not_overlong_of_forward (h : c.timeline.Forward) : ¬ p.Overlong c s := by
  rintro ⟨body, d, hbody, -, -, hback⟩
  have hnow : s.now ≤ body.now := (Deadline.attempt_between hbody).1
  have := c.timeline.le_clock_sub_clock h hnow
  omega

theorem not_overlong_of_not_idles (h : p.idles = false) : ¬ p.Overlong c s := by
  rintro ⟨body, d, -, hpause, -, -⟩
  have hwanted := (pauseOf_eq_some hpause).1
  simp only [idlesBeforeTeardown, h, Bool.false_and] at hwanted
  cases hwanted

/-- A pause before the teardown that is too long to be asked for is longer than the budget, so the
clock has fallen back. -/
theorem overlong_of_pause (hbody : p.attemptBody c (p.opened s) = .ok body)
    (hpause : p.pauseBeforeTeardown c s body = some d) (hlong : isMeasurable d.toNat = false) :
    p.Overlong c s := by
  refine ⟨body, d, hbody, hpause, hlong, ?_⟩
  have hduration := (pauseOf_eq_some hpause).2
  have hbudget : isMeasurable p.budget = true := Deadline.isMeasurable_of_attempt hbody
  -- otherwise no more than the budget would be left, whose deadline has been enforced
  by_contra hforward
  have hle : d.toNat ≤ p.budget := by
    unfold budget
    omega
  rw [isMeasurable_of_le hle hbudget] at hlong
  cases hlong

/-! ### What is announced -/

theorem notices_deedsToDue : (p.deedsToDue c s body).flatMap Deed.notices =
    .started p.description :: p.failures body.verdict.fault := by
  have hverdict : (p.verdictDeeds c body.now body.verdict).flatMap Deed.notices =
      p.failures body.verdict.fault := by
    unfold verdictDeeds
    rw [List.flatMap_append, notices_failures]
    rfl
  unfold deedsToDue waitingDeeds
  simp only [List.flatMap_append, hverdict, notices_pauseDeeds, List.append_nil]
  rfl

theorem told_of_not_isIgnored (hi : p.isIgnored = false) (grace : Nat) (arguments : Arguments) :
    p.told grace arguments = p.toldOfJourney grace arguments := by
  unfold told
  rw [hi]
  rfl

/-- What is told of a journey whose body gets a verdict. -/
theorem toldOfJourney_of_ok (hbody : p.attemptBody c (p.opened s) = .ok body) :
    p.toldOfJourney c.grace (s.arguments.overlay p.scenario.pairs) =
      .started p.description :: (p.failures body.verdict.fault ++
        p.toldOfTearDown c.grace body.arguments (p.constructs c (p.opened s))) := by
  have hjudge : Deadline.judge p.budget c.grace (s.arguments.overlay p.scenario.pairs)
      p.journey.opening = some body.judgement := Deadline.judge_of_ok hbody
  have hconstructs : p.constructs c (p.opened s) = Deadline.completes .steady 0 p.budget c.grace
      (s.arguments.overlay p.scenario.pairs) p.journey.construction := Deadline.completes_eq ..
  unfold toldOfJourney
  rw [hjudge, hconstructs]
  rfl

theorem toldOfJourney_of_error {u : Unenforced} (hu : p.attemptBody c (p.opened s) = .error u) :
    p.toldOfJourney c.grace (s.arguments.overlay p.scenario.pairs) = [.started p.description] := by
  have hjudge : Deadline.judge p.budget c.grace (s.arguments.overlay p.scenario.pairs)
      p.journey.opening = none := Deadline.judge_of_error hu
  unfold toldOfJourney
  rw [hjudge]

/-- What is told of the teardown of an execution. -/
theorem Execution.toldOfTearDown_eq (x : p.Execution c s) :
    p.toldOfTearDown c.grace x.body.arguments (p.constructs c (p.opened s)) =
      x.tearDownFailures ++ [.finished p.description] := by
  have hsome := x.tearDown_isSome
  unfold toldOfTearDown tearDownFailures
  cases hx : x.tearDown with
  | none =>
    rw [hx] at hsome
    cases hconstructs : p.constructs c (p.opened s) with
    | false => rfl
    | true =>
      cases hcommands : p.journey.tearDown with
      | none => rfl
      | some commands =>
        -- there would have been a teardown
        rw [hconstructs, hcommands] at hsome
        cases hsome
  | some e =>
    obtain ⟨commands, hcommands, hattempt⟩ := x.tearDown_eq e hx
    rw [hx, hcommands, Option.isSome_some, Option.isSome_some, Bool.and_true] at hsome
    rw [← hsome, if_pos rfl, hcommands]
    dsimp only
    rw [Deadline.judge_of_ok hattempt]
    rfl

/-- What is told of an execution. -/
theorem Execution.toldOfJourney_eq (x : p.Execution c s) :
    p.toldOfJourney c.grace (s.arguments.overlay p.scenario.pairs) = x.notices := by
  rw [toldOfJourney_of_ok x.body_eq, x.toldOfTearDown_eq]
  unfold notices
  rw [List.append_assoc]

/-- Unless the idler does not idle before the teardown, a run announces what is told of it. -/
theorem Develops.notices (h : p.Develops c s a) (hi : ∀ f, ¬ s.idler.Raises f)
    (hlong : ¬ p.Overlong c s) : a.deeds.flatMap Deed.notices =
      p.told c.grace (s.arguments.overlay p.scenario.pairs) := by
  cases h with
  | skipped hignored =>
    unfold told
    rw [hignored]
    rfl
  | unenforced hexecuted hu =>
    rw [told_of_not_isIgnored hexecuted, toldOfJourney_of_error hu]
    rfl
  | refused _ hbody hpause hf =>
    rcases hf with hraises | ⟨-, hd⟩
    · exact absurd hraises (hi _)
    · exact absurd (overlong_of_pause hbody hpause hd) hlong
  | @stuck body _ _ _ _ hexecuted hbody _ hconstructs hcommands hu =>
    -- neither the plot nor what is told gets beyond the verdict on the body
    have hnothing :
        p.toldOfTearDown c.grace body.arguments (p.constructs c (p.opened s)) = [] := by
      unfold toldOfTearDown
      rw [hconstructs, if_pos rfl, hcommands]
      dsimp only
      rw [Deadline.judge_of_error hu]
    rw [told_of_not_isIgnored hexecuted, toldOfJourney_of_ok hbody, hnothing, List.append_nil,
      List.flatMap_append, notices_deedsToDue]
    exact List.append_nil _
  | executed hexecuted x =>
    rw [told_of_not_isIgnored hexecuted, x.toldOfJourney_eq]
    exact x.notices_deeds

theorem plot_notices (hi : ∀ f, ¬ s.idler.Raises f) (hlong : ¬ p.Overlong c s) :
    (p.plot c s.core).deeds.flatMap Deed.notices =
      p.told c.grace (s.arguments.overlay p.scenario.pairs) := by
  obtain ⟨a, hdevelops, hplot⟩ := p.plot_develops c s
  have hnotices := hdevelops.notices hi hlong
  rcases hplot with ⟨-, -, hplot⟩ | ⟨-, b, hpauses, hplot⟩
  · rw [hplot]
    exact hnotices
  · -- the last pause is no news
    have hlast : b.deeds.flatMap Deed.notices = [] :=
      List.flatMap_eq_nil_iff.mpr fun d hd => (hpauses.quiet d hd).notices
    rw [hplot, Plot.after_deeds, List.flatMap_append, hlast, List.append_nil]
    exact hnotices

/-! ### Runs -/

/-- If no fault comes back from the sinks, a run puts the arguments back, and leaves the listeners
as they are then. -/
theorem run_of_tame_outlet (p : Plan) (c : Conditions) (ho : s.outlet.Tame) :
    (p.run c s).session.panel = (p.opening c s).session.panel ∧
      (p.run c s).session.arguments = s.arguments := by
  rw [run_eq_of_none (ho.emit _)]
  cases hfault : (p.opening c s).fault with
  | none =>
    rw [Progress.andThen_of_none (p := (p.opening c s).always _) hfault]
    exact ⟨rfl, rfl⟩
  | some f =>
    rw [Progress.andThen_of_fault (p := (p.opening c s).always _) hfault]
    exact ⟨rfl, rfl⟩

/-- The listeners of a run are told what is told of it. -/
theorem panel_run (ho : s.outlet.Tame) (hi : ∀ f, ¬ s.idler.Raises f) (hlong : ¬ p.Overlong c s) :
    (p.run c s).session.panel =
      s.panel.hear (p.told c.grace (s.arguments.overlay p.scenario.pairs)) := by
  have hopening := congrArg Records.panel (p.opening_unfolds c s).records
  rw [Records.panel_play ho, plot_notices hi hlong] at hopening
  exact (p.run_of_tame_outlet c ho).1.trans hopening

/-- The plan with another way to idle. -/
def idling (p : Plan) (idles : Bool) (afterTest : AfterTest) : Plan :=
  { p with idles := idles, scenario := { p.scenario with afterTest := afterTest } }

/-- Two runs that differ in whether and when they idle, in who idles for them, in how the clock goes
and in when they start, leave the same arguments.  They leave their listeners alike as well, each of
which has been told the same notices in the same order, unless what is left for one of them to idle
is too long to be asked for since the clock has fallen back. -/
theorem run_panel_eq (p : Plan) (idles idles' : Bool) (afterTest afterTest' : AfterTest)
    (c c' : Conditions) (s s' : Session) (hgrace : c'.grace = c.grace)
    (harguments : s'.arguments = s.arguments) (hpanel : s'.panel = s.panel)
    (ho : s.outlet.Tame) (ho' : s'.outlet.Tame) (hi : ∀ f, ¬ s.idler.Raises f)
    (hi' : ∀ f, ¬ s'.idler.Raises f) :
    let q := (p.idling idles afterTest).run c s
    let q' := (p.idling idles' afterTest').run c' s'
    q'.session.arguments = q.session.arguments ∧
      (¬ (p.idling idles afterTest).Overlong c s → ¬ (p.idling idles' afterTest').Overlong c' s' →
        q'.session.panel = q.session.panel) := by
  intro q q'
  obtain ⟨-, hq⟩ := (p.idling idles afterTest).run_of_tame_outlet c ho
  obtain ⟨-, hq'⟩ := (p.idling idles' afterTest').run_of_tame_outlet c' ho'
  refine ⟨hq'.trans (harguments.trans hq.symm), fun hlong hlong' => ?_⟩
  have hq : q.session.panel = _ := panel_run ho hi hlong
  have hq' : q'.session.panel = _ := panel_run ho' hi' hlong'
  rw [hq, hq', hgrace, harguments, hpanel]
  -- what is told reads nothing of the way to idle
  rfl

/-- One run idles while the clock jumps forward, and the other one starts later, does not idle, and
has its clock set back. -/
theorem run_panel_eq_of_jumps :
    let p := fiveSeconds [.idle 500, .busy 600] [.raise (.general .assertion none)]
    let c : Conditions :=
      { timeline := { jumps := [⟨1000, 700⟩, ⟨3500, 1000⟩] }, grace := 500, stamp := "" }
    let c' : Conditions := { timeline := { jumps := [⟨900, -4000⟩] }, grace := 500, stamp := "" }
    let s' := { Session.attended with now := 130, idler := .waiter .silent }
    let q := (p.idling true .stayInApp).run c .attended
    let q' := (p.idling false .exit).run c' s'
    q'.session.arguments = q.session.arguments ∧ q'.session.panel = q.session.panel ∧
      Notice.words (q.session.panel.kept 0) = ["started", "failure", "finished"] ∧
      q.session.requests = [1200, 2000] ∧ q'.session.requests = [] := by
  intro p c c' s' q q'
  have hf : c.timeline.Forward := by
    unfold Timeline.Forward
    decide
  obtain ⟨harguments, hpanel⟩ := p.run_panel_eq true false .stayInApp .exit c c' .attended s' rfl
    rfl rfl Session.attended_tame.outlet Session.attended_tame.outlet
    Session.polled_punctual.not_raises fun _ => id
  have hsame := hpanel (not_overlong_of_forward hf) (not_overlong_of_not_idles rfl)
  exact ⟨harguments, hsame, by decide +kernel, by decide +kernel, by decide +kernel⟩

end Plan

/-- The window is only just short enough to be asked for, and nothing of it is set apart. -/
def Plan.brimful : Plan :=
  { fiveSeconds [.idle 5] [] with window := Binary64.overflowBound - 1, leeway := 0 }

/-- Without that exception, idling may keep a run from its teardown, and from saying that it has
finished: while the body idles for five milliseconds, the clock falls back by ten. -/
theorem Plan.not_forall_run_panel_eq : ¬ ∀ (p : Plan) (idles idles' : Bool)
    (afterTest afterTest' : AfterTest) (c c' : Conditions) (s s' : Session), c'.grace = c.grace →
    s'.arguments = s.arguments → s'.panel = s.panel → s.Tame → s'.Tame → s.idler.Punctual →
    s'.idler.Punctual →
    ((p.idling idles' afterTest').run c' s').session.panel =
      ((p.idling idles afterTest).run c s).session.panel := by
  intro h
  let c : Conditions := { timeline := { jumps := [⟨3, -10⟩] }, grace := 500, stamp := "" }
  have hpanel := h .brimful false true .stayInApp .stayInApp c c .attended .attended rfl rfl rfl
    Session.attended_tame Session.attended_tame Session.polled_punctual Session.polled_punctual
  have hwords := congrArg (fun panel : Panel => Notice.words (panel.kept 0)) hpanel
  exact absurd hwords (by decide +kernel)

end Timebox
