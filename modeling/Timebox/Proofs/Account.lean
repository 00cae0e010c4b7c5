import Timebox.Proofs.Course
import Timebox.Proofs.Plot

/-!
# Accounts of runs

The plot of a run is worked out as far as it does not depend on how long its idler takes
(`Plan.plot_develops`, `Plan.restPlot_pauses`): the deeds are written down as functions of the
verdicts on the body and on the teardown.  `Plan.Execution` collects what determines the deeds of a
journey that is not excluded.

`Plan.run_account` says that a run which returns has done all of its deeds, first to last.  It also
says where a fault may cut a run short (`Plan.Cut`): before the teardown is entered, because the
deadline of the teardown cannot be enforced, or when the teardown is over and only reports and
idling are left.  Observers, from whom a fault may come back at any event and at any notice, see
nothing of the teardown itself, so that they cannot break it off (`prefix_of_notMem`).
-/

namespace Timebox

/-- The deed has nothing to do with the journey: its teardown does not begin, nothing is logged, and
nothing is announced. -/
structure Deed.Quiet (d : Deed) : Prop where
  not_enters : ¬ d.Enters .teardown
  entries : d.entries = []
  notices : d.notices = []

/-- An observer gets to know of the deed. -/
def Deed.Observed : Deed → Prop
  | .emitted _ => True
  | .announced _ => True
  | _ => False

theorem Deed.observed_of_fault {r : Records} {d : Deed} {f : Fault} (h : r.fault d = some f) :
    d.Observed := by
  cases d with
  | emitted e => trivial
  | announced n => trivial
  | _ => cases h

/-! ### Pauses -/

/-- A pause has led from one core to another. -/
structure Core.Rested (tl : Timeline) (pause : Option Int) (k l : Core) : Prop where
  arguments : l.arguments = k.arguments
  le_now : k.now ≤ l.now
  now_eq : pause = none → l.now = k.now
  /-- If the clock never falls back, a punctual idler is not back before the clock has gained what
  was asked for. -/
  gained : tl.Forward → k.idler.Punctual → ∀ d, pause = some d →
    tl.clock k.now + d ≤ tl.clock l.now

namespace Plan

variable (p : Plan) (c : Conditions) (s : Session)

/-- What the plot of a pause comes to. -/
inductive Pauses (i : Interlude) (pause : Option Int) (k : Core) : Plot → Prop
  /-- The idler idles, if there is anything to ask for. -/
  | rested {l : Core} (h : k.Rested c.timeline pause l) :
    Pauses i pause k (.doing (p.pauseDeeds c i k.now pause) l)
  /-- The idler raises a fault, or cannot be asked for that much. -/
  | refused {l : Core} {d : Int} {f : Fault} (hpause : pause = some d)
    (hf : k.idler.Raises f ∨ f = .immeasurable ∧ isMeasurable d.toNat = false) :
    Pauses i pause k
      { deeds := [.entered i.stage k.now, .asked i d], core := l, fault := some f }

theorem pausePlot_pauses (i : Interlude) (pause : Option Int) (k : Core) :
    p.Pauses c i pause k (p.pausePlot c i pause k) := by
  cases pause with
  | none => exact .rested ⟨rfl, Nat.le_refl _, fun _ => rfl, fun _ _ _ hd => by cases hd⟩
  | some d =>
    unfold pausePlot
    dsimp only
    obtain ⟨-, -, harguments, -⟩ := k.alone.await_frame c.timeline d
    -- the wait comes back or it is refused, and a pause may end in either way
    cases hfault : (k.ask c.timeline i d).fault with
    | none =>
      rw [Plot.andThen_of_none hfault]
      refine .rested ⟨harguments, k.alone.le_await_now c.timeline d, nofun, ?_⟩
      rintro hforward hpunctual _ ⟨⟩
      exact (k.alone.await_punctual d hforward hpunctual).2 hfault
    | some f =>
      rw [Plot.andThen_of_fault hfault]
      have hrefused : p.Pauses c i (some d) k
          { deeds := [.entered i.stage k.now, .asked i d], core := (k.ask c.timeline i d).core
            fault := some f } :=
        .refused rfl ((k.alone.await_raises c.timeline d).2 f hfault)
      rw [← hfault] at hrefused
      exact hrefused

/-! ### The deeds of a run -/

/-- A run records the verdict on the body, and idles until the teardown is due. -/
def waitingDeeds (body : Enforced) : List Deed :=
  p.verdictDeeds c body.now body.verdict ++
    p.pauseDeeds c .beforeTeardown body.now (p.pauseBeforeTeardown c s body)

/-- What a run does until the teardown of its journey is due. -/
def deedsToDue (body : Enforced) : List Deed :=
  p.openingDeeds c s ++ p.startDeeds s ++
    [.logged (p.journey.constructionLog s.now), .logged body.log] ++ p.waitingDeeds c s body

/-- What determines the deeds of a run whose journey is not excluded. -/
structure Execution where
  /-- The body under its deadline. -/
  body : Enforced
  body_eq : p.attemptBody c (p.opened s) = .ok body
  /-- The instant at which the teardown is due. -/
  due : Nat
  due_le : body.now ≤ due
  due_eq : p.pauseBeforeTeardown c s body = none → due = body.now
  /-- The teardown under its deadline. -/
  tearDown : Option Enforced
  tearDown_isSome :
    tearDown.isSome = (p.constructs c (p.opened s) && p.journey.tearDown.isSome)
  tearDown_eq : ∀ e, tearDown = some e → ∃ commands, p.journey.tearDown = some commands ∧
    Deadline.attempt c.timeline due p.leeway c.grace body.arguments commands = .ok e

namespace Execution

variable {p c s} (x : p.Execution c s)

/-- The instant at which nothing is left to do but to idle. -/
def spent : Nat :=
  (x.tearDown.map Enforced.now).getD x.due

/-- The teardown begins, if there is anything to tear down, and leaves its entries in the log. -/
def tearDownDeeds : List Deed :=
  (if p.constructs c (p.opened s) then [.entered .teardown x.due] else []) ++
    match x.tearDown with
    | none => []
    | some e => [.logged e.log]

/-- The verdict on the teardown is reported. -/
def reportDeeds : List Deed :=
  match x.tearDown with
  | none => []
  | some e => .emitted (p.teardownEvent c e.verdict) :: (p.failures e.verdict.fault).map .announced

/-- What the run does to the end of its teardown. -/
def deedsToTeardown : List Deed :=
  p.deedsToDue c s x.body ++ x.tearDownDeeds

/-- What the run does until nothing is left to do but to idle. -/
def deeds : List Deed :=
  x.deedsToTeardown ++ x.reportDeeds ++ [.announced (.finished p.description)]

/-- The deed may follow the teardown: it does not begin again, nothing more is logged, and no
failure is announced but its own. -/
structure Trails (d : Deed) : Prop where
  not_enters : ¬ d.Enters .teardown
  entries : d.entries = []
  failure : ∀ f, .failure f ∈ d.notices → ∃ e, x.tearDown = some e ∧ e.verdict.fault = some f.fault

theorem trails_of_quiet {d : Deed} (h : d.Quiet) : x.Trails d where
  not_enters := h.not_enters
  entries := h.entries
  failure := by
    rw [h.notices]
    nofun

end Execution

/-- What a run does while the arguments are overridden until nothing is left to do but to idle, and
the instant at which that is so. -/
inductive Passage : List Deed → Nat → Prop
  /-- The journey is excluded. -/
  | skipped (h : p.isIgnored = true) : Passage (p.openingDeeds c s ++ p.skipDeeds c s) s.now
  /-- The journey is executed. -/
  | executed (h : p.isIgnored = false) (x : p.Execution c s) : Passage x.deeds x.spent

/-- What a run may have done when a fault cuts it short. -/
inductive Cut : Fault → List Deed → Prop
  /-- The teardown has not been entered. -/
  | early {f : Fault} {ds : List Deed} (h : ∀ d ∈ ds, ¬ d.Enters .teardown) : Cut f ds
  /-- The deadline of the teardown is too far away, or its grace period too long. -/
  | stuck {ds : List Deed} (h : isMeasurable p.leeway = false ∨ isMeasurable c.grace = false) :
    Cut .immeasurable ds
  /-- The teardown is over. -/
  | late {f : Fault} {rest : List Deed} (x : p.Execution c s) (h : ∀ d ∈ rest, x.Trails d) :
    Cut f (x.deedsToTeardown ++ rest)

/-- The run has been cut short. -/
def CutShort (f : Fault) (t : Session) : Prop :=
  ∃ ds, t.Follows s ds ∧ p.Cut c s f ds

/-! ### What a plot comes to -/

/-- If the clock never falls back, and the idler is punctual, the clock has gained what is asked for
when the teardown is due. -/
def Gained (body : Enforced) (due : Nat) : Prop :=
  c.timeline.Forward → s.idler.Punctual → ∀ d, p.pauseBeforeTeardown c s body = some d →
    c.timeline.clock body.now + d ≤ c.timeline.clock due

/-- What the plot of a run comes to, up to the instant at which nothing is left to do but to
idle. -/
inductive Develops : Plot → Prop
  /-- The journey is excluded. -/
  | skipped {l : Core} (hi : p.isIgnored = true) (hnow : l.now = s.now) :
    Develops (.doing (p.openingDeeds c s ++ p.skipDeeds c s) l)
  /-- The deadline of the body cannot be enforced. -/
  | unenforced {u : Unenforced} {l : Core} (hi : p.isIgnored = false)
    (hu : p.attemptBody c (p.opened s) = .error u) :
    Develops
      { deeds := p.openingDeeds c s ++ p.startDeeds s ++
          [.logged (if u.begun then p.journey.constructionLog s.now else []), .logged u.log]
        core := l, fault := some .immeasurable }
  /-- The idler does not idle before the teardown. -/
  | refused {body : Enforced} {d : Int} {f : Fault} {l : Core} (hi : p.isIgnored = false)
    (hbody : p.attemptBody c (p.opened s) = .ok body)
    (hpause : p.pauseBeforeTeardown c s body = some d)
    (hf : s.idler.Raises f ∨ f = .immeasurable ∧ isMeasurable d.toNat = false) :
    Develops
      { deeds := p.openingDeeds c s ++ p.startDeeds s ++
          [.logged (p.journey.constructionLog s.now), .logged body.log] ++
          (p.verdictDeeds c body.now body.verdict ++
            [.entered .idleBeforeTeardown body.now, .asked .beforeTeardown d])
        core := l, fault := some f }
  /-- The deadline of the teardown cannot be enforced. -/
  | stuck {body : Enforced} {due : Nat} {commands : List Command} {u : Unenforced} {l : Core}
    (hi : p.isIgnored = false) (hbody : p.attemptBody c (p.opened s) = .ok body)
    (hgained : p.Gained c s body due) (hconstructs : p.constructs c (p.opened s) = true)
    (hcommands : p.journey.tearDown = some commands)
    (hu : Deadline.attempt c.timeline due p.leeway c.grace body.arguments commands = .error u) :
    Develops
      { deeds := p.deedsToDue c s body ++ [.entered .teardown due, .logged u.log]
        core := l, fault := some .immeasurable }
  /-- The journey is executed to its end. -/
  | executed {l : Core} (hi : p.isIgnored = false) (x : p.Execution c s)
    (hgained : p.Gained c s x.body x.due) (hnow : l.now = x.spent) :
    Develops (.doing x.deeds l)

variable {p c s}
variable {body : Enforced} {f : Fault} {ds rest : List Deed}

section

variable {due : Nat} (hbody : p.attemptBody c (p.opened s) = .ok body) (hle : body.now ≤ due)
  (heq : p.pauseBeforeTeardown c s body = none → due = body.now)

/-- An execution that leaves nothing to tear down. -/
def Execution.withoutTearDown
    (h : (p.constructs c (p.opened s) && p.journey.tearDown.isSome) = false) :
    p.Execution c s where
  body := body
  body_eq := hbody
  due := due
  due_le := hle
  due_eq := heq
  tearDown := none
  tearDown_isSome := h.symm
  tearDown_eq := fun _ he => by cases he

/-- An execution whose teardown is enforced. -/
def Execution.withTearDown {commands : List Command} {e : Enforced}
    (hconstructs : p.constructs c (p.opened s) = true)
    (hcommands : p.journey.tearDown = some commands)
    (he : Deadline.attempt c.timeline due p.leeway c.grace body.arguments commands = .ok e) :
    p.Execution c s where
  body := body
  body_eq := hbody
  due := due
  due_le := hle
  due_eq := heq
  tearDown := some e
  tearDown_isSome := by
    rw [hconstructs, hcommands]
    rfl
  tearDown_eq := by
    rintro _ ⟨⟩
    exact ⟨commands, hcommands, he⟩

end

/-- The teardown of a journey is over, or its deadline cannot be enforced. -/
theorem tearDownPlot_cases {l : Core} (hbody : p.attemptBody c (p.opened s) = .ok body)
    (hle : body.now ≤ l.now) (heq : p.pauseBeforeTeardown c s body = none → l.now = body.now)
    (harguments : l.arguments = body.arguments) :
    (∃ (x : p.Execution c s) (m : Core), x.body = body ∧ x.due = l.now ∧ m.now = x.spent ∧
      p.tearDownPlot c (p.constructs c (p.opened s)) l =
        .doing (x.tearDownDeeds ++ x.reportDeeds) m) ∨
    ∃ (commands : List Command) (u : Unenforced) (m : Core),
      p.constructs c (p.opened s) = true ∧ p.journey.tearDown = some commands ∧
      Deadline.attempt c.timeline l.now p.leeway c.grace body.arguments commands = .error u ∧
      p.tearDownPlot c (p.constructs c (p.opened s)) l =
        { deeds := [.entered .teardown l.now, .logged u.log], core := m
          fault := some .immeasurable } := by
  cases hconstructs : p.constructs c (p.opened s) with
  | false =>
    -- nothing has been constructed, so there is nothing to tear down
    let x := Execution.withoutTearDown hbody hle heq (by rw [hconstructs]; rfl)
    refine Or.inl ⟨x, l, rfl, rfl, rfl, ?_⟩
    have hdeeds : x.tearDownDeeds = [] := by
      simp only [x, Execution.withoutTearDown, Execution.tearDownDeeds, hconstructs,
        Bool.false_eq_true, if_false, List.append_nil]
    rw [hdeeds]
    rfl
  | true =>
    cases hcommands : p.journey.tearDown with
    | none =>
      let x := Execution.withoutTearDown hbody hle heq (by rw [hconstructs, hcommands]; rfl)
      refine Or.inl ⟨x, l, rfl, rfl, rfl, ?_⟩
      have hdeeds : x.tearDownDeeds = [.entered .teardown l.now] := by
        simp only [x, Execution.withoutTearDown, Execution.tearDownDeeds, hconstructs, if_true,
          List.append_nil]
      unfold tearDownPlot cleanUpPlot
      rw [hcommands, hdeeds]
      rfl
    | some commands =>
      unfold tearDownPlot cleanUpPlot
      rw [hcommands, harguments]
      dsimp only
      -- a teardown whose deadline is too long to be waited for has been entered all the same
      cases he : Deadline.attempt c.timeline l.now p.leeway c.grace body.arguments commands with
      | error u => exact Or.inr ⟨commands, u, _, rfl, rfl, he, rfl⟩
      | ok e =>
        let x := Execution.withTearDown hbody hle heq hconstructs hcommands he
        refine Or.inl ⟨x, (l.alone.absorb e).core, rfl, rfl, rfl, ?_⟩
        have hdeeds : x.tearDownDeeds = [.entered .teardown l.now, .logged e.log] := by
          simp only [x, Execution.withTearDown, Execution.tearDownDeeds, hconstructs, if_true,
            List.cons_append, List.nil_append]
        rw [hdeeds]
        rfl

/-- The plot of everything that follows the body. -/
theorem concludePlot_develops (hi : p.isIgnored = false)
    (hbody : p.attemptBody c (p.opened s) = .ok body) {k : Core} (hnow : k.now = body.now)
    (harguments : k.arguments = body.arguments) (hidler : k.idler = s.idler) :
    p.Develops c s ((p.concludePlot c (c.timeline.clock s.now) (p.constructs c (p.opened s))
      body.verdict k).after (p.openingDeeds c s ++ p.startDeeds s ++
        [.logged (p.journey.constructionLog s.now), .logged body.log])) := by
  have hpause : p.Pauses c .beforeTeardown (p.pauseBeforeTeardown c s body) k
      (p.waitPlot c (c.timeline.clock s.now) body.verdict.status k) := by
    have hpauses := p.pausePlot_pauses c .beforeTeardown (p.pauseBeforeTeardown c s body) k
    unfold pauseBeforeTeardown at hpauses ⊢
    rw [← hnow] at hpauses ⊢
    exact hpauses
  unfold concludePlot
  rw [hnow]
  -- from here on it matters only how the wait before the teardown ends
  generalize p.waitPlot c (c.timeline.clock s.now) body.verdict.status k = w at hpause ⊢
  cases hpause with
  | refused hsome hf =>
    rw [hidler] at hf
    rw [hnow]
    exact .refused hi hbody hsome hf
  | @rested l hl =>
    have hle := hl.le_now
    have heq := hl.now_eq
    have hgained : p.Gained c s body l.now := by
      intro hforward hpunctual d hd
      have h := hl.gained hforward (hidler ▸ hpunctual) d hd
      rwa [hnow] at h
    rw [hnow] at hle heq ⊢
    -- the wait has come back, and the teardown gets a verdict or cannot be enforced
    rcases tearDownPlot_cases hbody hle heq (hl.arguments.trans harguments) with
      ⟨x, m, rfl, hdue, hspent, hplot⟩ | ⟨commands, u, m, hconstructs, hcommands, hu, hplot⟩
    · have hdeeds : p.openingDeeds c s ++ p.startDeeds s ++
          [.logged (p.journey.constructionLog s.now), .logged x.body.log] ++
            (p.verdictDeeds c x.body.now x.body.verdict ++
              p.pauseDeeds c .beforeTeardown x.body.now (p.pauseBeforeTeardown c s x.body) ++
                (x.tearDownDeeds ++ x.reportDeeds) ++ [.announced (.finished p.description)]) =
          x.deeds := by
        simp only [Execution.deeds, Execution.deedsToTeardown, deedsToDue, waitingDeeds,
          List.append_assoc]
      simp only [Plot.doing_after, Plot.doing_andThen, hplot, hdeeds]
      exact .executed hi x (hdue ▸ hgained) hspent
    · have hdeeds : p.openingDeeds c s ++ p.startDeeds s ++
          [.logged (p.journey.constructionLog s.now), .logged body.log] ++
            (p.verdictDeeds c body.now body.verdict ++
              p.pauseDeeds c .beforeTeardown body.now (p.pauseBeforeTeardown c s body) ++
                [.entered .teardown l.now, .logged u.log]) =
          p.deedsToDue c s body ++ [.entered .teardown l.now, .logged u.log] := by
        simp only [deedsToDue, waitingDeeds, List.append_assoc]
      have hstuck := Develops.stuck (l := m) hi hbody hgained hconstructs hcommands hu
      rw [← hdeeds] at hstuck
      simp only [Plot.doing_after, Plot.doing_andThen, hplot]
      exact hstuck

theorem passagePlot_develops : p.Develops c s
    ((p.passagePlot c (c.timeline.clock s.now) (p.opened s).core).after (p.openingDeeds c s)) := by
  unfold passagePlot
  cases hi : p.isIgnored with
  | true => exact .skipped hi rfl
  | false =>
    unfold attemptPlot
    have hcore : (p.opened s).core.alone.core = (p.opened s).core := rfl
    rw [attemptBody_congr hcore]
    cases hbody : p.attemptBody c (p.opened s) with
    | error u => exact .unenforced hi hbody
    | ok body =>
      have hconclude := concludePlot_develops hi hbody
        (k := ((p.construct true (p.opened s)).absorb body).core) rfl rfl rfl
      rw [← Plot.after_after, ← Plot.after_after] at hconclude
      exact hconclude

/-- The plot of what is left when nothing but idling is left to do. -/
theorem restPlot_pauses (k : Core) : p.Pauses c .beforeNext (p.pauseBeforeNext c s k.now) k
    (p.restPlot c (c.timeline.clock s.now) k) :=
  p.pausePlot_pauses c .beforeNext _ k

/-- The plot of a run ends with the fault of what comes before the last pause, or goes on with that
pause. -/
theorem plot_develops (p : Plan) (c : Conditions) (s : Session) : ∃ a, p.Develops c s a ∧
    ((∃ f, a.fault = some f ∧ p.plot c s.core = a) ∨
      a.fault = none ∧ ∃ b, p.Pauses c .beforeNext (p.pauseBeforeNext c s a.core.now) a.core b ∧
        p.plot c s.core = b.after a.deeds) := by
  have hplot : p.plot c s.core =
      ((p.passagePlot c (c.timeline.clock s.now) (p.opened s).core).after
        (p.openingDeeds c s)).andThen (p.restPlot c (c.timeline.clock s.now)) :=
    Plot.after_andThen _ _ _
  refine ⟨_, passagePlot_develops, ?_⟩
  rw [hplot]
  generalize (p.passagePlot c (c.timeline.clock s.now) (p.opened s).core).after
    (p.openingDeeds c s) = a
  cases ha : a.fault with
  | some f => exact Or.inl ⟨f, rfl, Plot.andThen_of_fault ha⟩
  | none => exact Or.inr ⟨rfl, _, restPlot_pauses a.core, Plot.andThen_of_none ha⟩

/-! ### What the deeds have to do with the journey -/

theorem quiet_pauseDeeds (i : Interlude) : ∀ d ∈ p.pauseDeeds c i now pause, d.Quiet := by
  cases pause with
  | none => exact List.forall_mem_nil _
  | some duration =>
    have hstage : i.stage ≠ .teardown := by cases i <;> nofun
    intro d hd
    simp only [pauseDeeds, List.mem_cons, List.not_mem_nil, or_false] at hd
    rcases hd with rfl | rfl | rfl
    · exact ⟨hstage, rfl, rfl⟩
    · exact ⟨id, rfl, rfl⟩
    · exact ⟨id, rfl, rfl⟩

theorem quiet_closingDeeds (stop : Nat) : ∀ d ∈ closingDeeds stop, d.Quiet := by
  intro d hd
  simp only [closingDeeds, List.mem_cons, List.not_mem_nil, or_false] at hd
  rcases hd with rfl | rfl
  · exact ⟨nofun, rfl, rfl⟩
  · exact ⟨nofun, rfl, rfl⟩

theorem quiet_closing (fault : Option Fault) (stop : Nat) : ∀ d ∈ closing fault stop, d.Quiet := by
  cases fault with
  | none => exact quiet_closingDeeds stop
  | some f =>
    exact fun d hd => quiet_closingDeeds stop d ((List.prefix_append [_] [_]).subset hd)

theorem Pauses.quiet {i : Interlude} {pause : Option Int} {k : Core} {b : Plot}
    (h : p.Pauses c i pause k b) : ∀ d ∈ b.deeds, d.Quiet := by
  cases h with
  | rested => exact quiet_pauseDeeds i
  | @refused _ duration _ hpause =>
    -- what is done is the beginning of a pause
    intro d hd
    have hquiet : ∀ d ∈ p.pauseDeeds c i k.now (some duration), d.Quiet := quiet_pauseDeeds i
    exact hquiet d ((List.prefix_append [_, _] [_]).subset hd)

theorem not_enters_startDeeds :
    ∀ d ∈ p.openingDeeds c s ++ p.startDeeds s, ¬ d.Enters .teardown := by
  intro d hd
  simp only [openingDeeds, startDeeds, List.cons_append, List.nil_append, List.mem_cons,
    List.not_mem_nil, or_false] at hd
  rcases hd with rfl | rfl | rfl | rfl
  · nofun
  · exact id
  · exact id
  · nofun

theorem not_enters_skipDeeds :
    ∀ d ∈ p.openingDeeds c s ++ p.skipDeeds c s, ¬ d.Enters .teardown := by
  intro d hd
  simp only [openingDeeds, skipDeeds, List.cons_append, List.nil_append, List.mem_cons,
    List.not_mem_nil, or_false] at hd
  rcases hd with rfl | rfl | rfl | rfl | rfl
  · nofun
  · exact id
  · nofun
  · exact id
  · exact id

theorem not_enters_unenforced (u : Unenforced) :
    ∀ d ∈ p.openingDeeds c s ++ p.startDeeds s ++
      [.logged (if u.begun then p.journey.constructionLog s.now else []), .logged u.log],
      ¬ d.Enters .teardown := by
  intro d hd
  simp only [List.mem_append, List.mem_cons, List.not_mem_nil, or_false] at hd
  rcases hd with hd | rfl | rfl
  · exact not_enters_startDeeds d (List.mem_append.mpr hd)
  · exact id
  · exact id

/-- The teardown is not entered before it is due. -/
theorem not_enters_deedsToDue (body : Enforced) :
    ∀ d ∈ p.deedsToDue c s body, ¬ d.Enters .teardown := by
  have hstage : Stage.ofStatus body.verdict.status ≠ .teardown := by
    cases body.verdict.status <;> nofun
  intro d hd
  simp only [deedsToDue, waitingDeeds, verdictDeeds, List.mem_cons, List.mem_append,
    List.not_mem_nil, or_false, List.mem_map] at hd
  rcases hd with (hd | rfl | rfl) | ((rfl | rfl) | ⟨n, -, rfl⟩) | hd
  · exact not_enters_startDeeds d (List.mem_append.mpr hd)
  · exact id
  · exact id
  · exact hstage
  · exact id
  · exact id
  · exact (quiet_pauseDeeds _ d hd).not_enters

theorem not_enters_refused {body : Enforced} {duration : Int}
    (hpause : p.pauseBeforeTeardown c s body = some duration) :
    ∀ d ∈ p.openingDeeds c s ++ p.startDeeds s ++
      [.logged (p.journey.constructionLog s.now), .logged body.log] ++
        (p.verdictDeeds c body.now body.verdict ++
          [.entered .idleBeforeTeardown body.now, .asked .beforeTeardown duration]),
      ¬ d.Enters .teardown := by
  intro d hd
  have hquiet : ∀ d ∈ p.deedsToDue c s body, ¬ d.Enters .teardown := not_enters_deedsToDue body
  unfold deedsToDue waitingDeeds at hquiet
  rw [hpause] at hquiet
  refine hquiet d (List.IsPrefix.subset ?_ hd)
  exact ⟨[.emitted (p.idleEvent c .beforeTeardown duration)], by
    simp only [pauseDeeds, List.append_assoc]
    rfl⟩

theorem Execution.trails_reportDeeds (x : p.Execution c s) : ∀ d ∈ x.reportDeeds, x.Trails d := by
  unfold Execution.reportDeeds
  cases hx : x.tearDown with
  | none => exact List.forall_mem_nil _
  | some e =>
    intro d hd
    simp only [List.mem_cons, List.mem_map] at hd
    rcases hd with rfl | ⟨n, hn, rfl⟩
    · exact ⟨id, rfl, nofun⟩
    · refine ⟨id, rfl, fun f hf => ⟨e, hx, ?_⟩⟩
      obtain rfl := List.mem_singleton.mp hf
      cases hfault : e.verdict.fault with
      | none => rw [hfault] at hn; cases hn
      | some g =>
        rw [hfault] at hn
        cases List.mem_singleton.mp hn
        rfl

/-- What is reported after the teardown of an execution, and what is quiet, may follow it. -/
theorem Execution.trails_of_finished (x : p.Execution c s) (hrest : ∀ d ∈ rest, d.Quiet) :
    ∀ d ∈ x.reportDeeds ++ ([.announced (.finished p.description)] ++ rest), x.Trails d := by
  intro d hd
  simp only [List.mem_append, List.mem_singleton] at hd
  rcases hd with hd | rfl | hd
  · exact x.trails_reportDeeds d hd
  · exact ⟨id, rfl, fun f hf => nomatch List.mem_singleton.mp hf⟩
  · exact x.trails_of_quiet (hrest d hd)

/-- What is quiet does not change where a run has been cut short. -/
theorem Cut.append (h : p.Cut c s f ds) (hrest : ∀ d ∈ rest, d.Quiet) :
    p.Cut c s f (ds ++ rest) := by
  cases h with
  | early h =>
    refine .early fun d hd => ?_
    rcases List.mem_append.mp hd with hd | hd
    · exact h d hd
    · exact (hrest d hd).not_enters
  | stuck h => exact .stuck h
  | late x h =>
    rw [List.append_assoc]
    refine .late x fun d hd => ?_
    rcases List.mem_append.mp hd with hd | hd
    · exact h d hd
    · exact x.trails_of_quiet (hrest d hd)

/-- Once nothing is left to do but to idle, what is quiet may follow. -/
theorem Passage.cut {spent : Nat} (h : p.Passage c s ds spent) (hrest : ∀ d ∈ rest, d.Quiet) :
    p.Cut c s f (ds ++ rest) := by
  cases h with
  | skipped h => exact (Cut.early not_enters_skipDeeds).append hrest
  | executed h x =>
    unfold Execution.deeds
    rw [List.append_assoc, List.append_assoc]
    exact .late x (x.trails_of_finished hrest)

/-! ### Where a run may break off -/

/-- If a list is made of three parts, and it is broken off after an element that is not in the
second one, then this happens in the first one or in the third one. -/
theorem prefix_of_notMem {α : Type} {xs as bs cs : List α} {d : α}
    (h : xs ++ [d] <+: as ++ bs ++ cs) (hd : d ∉ bs) :
    xs ++ [d] <+: as ∨ ∃ zs, xs = as ++ bs ++ zs ∧ zs ++ [d] <+: cs := by
  obtain ⟨ys, hys⟩ := h
  rw [List.append_assoc, List.singleton_append] at hys
  rcases List.append_eq_append_iff.mp hys.symm with ⟨zs, hxs, hcs⟩ | ⟨zs, hfront, hcs⟩
  · exact Or.inr ⟨zs, hxs, ys, by rw [hcs, List.append_assoc, List.singleton_append]⟩
  · cases zs with
    | nil =>
      rw [List.append_nil] at hfront
      exact Or.inr ⟨[], by rw [List.append_nil, hfront], ys, hcs⟩
    | cons e zs =>
      -- `d` stands in the first two parts, and it is not in the second
      obtain ⟨rfl, -⟩ := List.cons.inj hcs
      rcases List.append_eq_append_iff.mp hfront with ⟨ws, -, hbs⟩ | ⟨ws, has, hbs⟩
      · exact absurd (hbs ▸ List.mem_append_right ws List.mem_cons_self) hd
      · cases ws with
        | nil =>
          rw [List.nil_append] at hbs
          exact absurd (hbs ▸ List.mem_cons_self) hd
        | cons e ws =>
          obtain ⟨rfl, -⟩ := List.cons.inj hbs
          exact Or.inl ⟨ws, by rw [has, List.append_assoc, List.singleton_append]⟩

theorem Execution.not_observed_tearDownDeeds (x : p.Execution c s) :
    ∀ d ∈ x.tearDownDeeds, ¬ d.Observed := by
  intro d hd
  unfold Execution.tearDownDeeds at hd
  rcases List.mem_append.mp hd with hd | hd
  · split at hd
    · obtain rfl := List.mem_singleton.mp hd
      exact id
    · cases hd
  · split at hd
    · cases hd
    · obtain rfl := List.mem_singleton.mp hd
      exact id

theorem Cut.early_of_subset {ds' : List Deed} (h : ds' ⊆ ds)
    (hds : ∀ d ∈ ds, ¬ d.Enters .teardown) : p.Cut c s f ds' :=
  .early fun d hd => hds d (h hd)

namespace Develops

variable {a : Plot} {xs : List Deed} {d : Deed}

/-- Where the plot of a run ends with a fault of its own. -/
theorem cut (h : p.Develops c s a) (hfault : a.fault = some f) : p.Cut c s f a.deeds := by
  cases h with
  | skipped => cases hfault
  | unenforced => exact .early (not_enters_unenforced _)
  | refused _ _ hpause => exact .early (not_enters_refused hpause)
  | stuck _ _ _ _ _ hu =>
    obtain rfl := Option.some.inj hfault
    rcases Deadline.attempt_error hu with ⟨hlong, -⟩ | ⟨hlong, -⟩
    · exact .stuck (Or.inl hlong)
    · exact .stuck (Or.inr hlong)
  | executed => cases hfault

/-- Where an observer may break off a run that does not get to its last pause. -/
theorem cut_of_observed {g : Fault} (h : p.Develops c s a) (hfault : a.fault = some g)
    (hxs : xs ++ [d] <+: a.deeds) (hd : d.Observed) : p.Cut c s f (xs ++ [d]) := by
  cases h with
  | skipped => cases hfault
  | unenforced => exact .early_of_subset hxs.subset (not_enters_unenforced _)
  | refused _ _ hpause => exact .early_of_subset hxs.subset (not_enters_refused hpause)
  | @stuck body due _ u =>
    -- nobody observes the last two deeds, so an observed one has come before them
    have hunseen : d ∉ [.entered .teardown due, .logged u.log] := by
      intro hmem
      simp only [List.mem_cons, List.not_mem_nil, or_false] at hmem
      rcases hmem with rfl | rfl
      · exact hd
      · exact hd
    have hparts : xs ++ [d] <+:
        p.deedsToDue c s body ++ [.entered .teardown due, .logged u.log] ++ [] := by
      rwa [List.append_nil]
    rcases prefix_of_notMem hparts hunseen with hxs | ⟨zs, -, hzs⟩
    · exact .early_of_subset hxs.subset (not_enters_deedsToDue body)
    · simp at hzs
  | executed => cases hfault

theorem passage (h : p.Develops c s a) (hfault : a.fault = none) :
    p.Passage c s a.deeds a.core.now := by
  cases h with
  | skipped hi hnow => exact hnow ▸ .skipped hi
  | unenforced => cases hfault
  | refused => cases hfault
  | stuck => cases hfault
  | executed hi x _ hnow => exact hnow ▸ .executed hi x

end Develops

/-- Where an observer may break off a run that gets to its last pause. -/
theorem Passage.cut_of_observed {spent : Nat} {xs : List Deed} {d : Deed}
    (h : p.Passage c s ds spent) (hrest : ∀ d ∈ rest, d.Quiet) (hxs : xs ++ [d] <+: ds ++ rest)
    (hd : d.Observed) : p.Cut c s f (xs ++ [d]) := by
  cases h with
  | skipped =>
    refine .early_of_subset hxs.subset fun e he => ?_
    rcases List.mem_append.mp he with he | he
    · exact not_enters_skipDeeds e he
    · exact (hrest e he).not_enters
  | executed hi x =>
    unfold Execution.deeds Execution.deedsToTeardown at hxs
    rw [List.append_assoc, List.append_assoc] at hxs
    rcases prefix_of_notMem hxs (fun hmem => x.not_observed_tearDownDeeds d hmem hd) with
      hxs | ⟨zs, rfl, hzs⟩
    · exact .early_of_subset hxs.subset (not_enters_deedsToDue x.body)
    · rw [List.append_assoc]
      exact .late x fun e he => x.trails_of_finished hrest e (hzs.subset he)

/-! ### Runs -/

/-- A run that returns has done all of its deeds, first to last.  A fault cuts it short before its
teardown or after it, unless the deadline of the teardown cannot be enforced. -/
theorem run_account (p : Plan) (c : Conditions) (s : Session) : (p.run c s).Ends
    (fun t => ∃ ds spent stop, p.Passage c s ds spent ∧ spent ≤ stop ∧
      s.Did (ds ++ p.pauseDeeds c .beforeNext spent (p.pauseBeforeNext c s spent) ++
        closingDeeds stop) t)
    (p.CutShort c s) := by
  obtain ⟨a, hdevelops, hplot⟩ := p.plot_develops c s
  unfold Progress.Ends
  cases hplayed : (s.records.play (p.plot c s.core).deeds).2 with
  | none =>
    -- no observer breaks in, and the run does all that its plot says
    obtain ⟨hfault, hdid, -⟩ := run_of_unbroken (Records.unbroken_of_play hplayed)
    rw [hfault]
    rcases hplot with ⟨f, hf, hplot⟩ | ⟨hnone, b, hpauses, hplot⟩
    · rw [hplot, hf] at hdid ⊢
      exact ⟨_, hdid.follows, (hdevelops.cut hf).append (quiet_closing _ _)⟩
    · have hcut {f : Fault} := ((hdevelops.passage hnone).cut hpauses.quiet).append (f := f)
        (quiet_closing b.fault b.core.now)
      rw [hplot] at hdid ⊢
      cases hpauses with
      | rested hl => exact ⟨_, _, _, hdevelops.passage hnone, hl.le_now, hdid⟩
      | refused => exact ⟨_, hdid.follows, hcut⟩
  | some f =>
    -- an observer's fault ends the run at the deed that was observed
    obtain ⟨hfault, xs, d, rest, hxs, hd, hrest, hfollows⟩ := run_of_broken hplayed
    rw [hfault]
    have hcut : p.Cut c s f (xs ++ [d]) := by
      rcases hplot with ⟨g, hg, hplot⟩ | ⟨hnone, b, hpauses, hplot⟩
      · rw [hplot] at hxs
        exact hdevelops.cut_of_observed hg hxs (Deed.observed_of_fault hd)
      · rw [hplot] at hxs
        have hpassage := hdevelops.passage hnone
        exact hpassage.cut_of_observed hpauses.quiet hxs (Deed.observed_of_fault hd)
    refine ⟨_, hfollows, hcut.append fun e he => ?_⟩
    exact quiet_closingDeeds _ e ((hrest.trans (List.prefix_append [_] [_])).subset he)

end Plan

end Timebox
