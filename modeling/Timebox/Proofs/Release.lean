import Timebox.Proofs.Return

/-!
# When the next scenario is released

A run that idles gives way to the next scenario once the window has passed.  It never does so early:
with a punctual idler, whatever the journey does and however the clock jumps forward, the clock has
gained the window when the run returns (`window_le_clock_run`).  If the clock does not jump and the
journey is cooperative, that is just when the window ends (`run_now_of_cooperative`).  Any other
journey may make the run late, but by no more than its grace periods allow (`run_now_le`).
-/

namespace Timebox

variable {p : Plan} {c : Conditions} {s : Session}

/-! ### How far a run has got -/

/-- The idler is of some kind, and it is an instant between two. -/
structure Core.Within (I : Idler → Prop) (start stop : Int) (k : Core) : Prop where
  idler : I k.idler
  start_le : start ≤ k.now
  le_stop : k.now ≤ stop

namespace Core.Within

variable {I : Idler → Prop} {start stop stop' : Int} {k k' : Core}

theorem mono (h : k.Within I start stop) (hs : stop ≤ stop') : k.Within I start stop' where
  idler := h.idler
  start_le := h.start_le
  le_stop := Int.le_trans h.le_stop hs

/-- Something takes place that has nothing to do with the idler. -/
theorem later {d : Nat} (h : k.Within I start stop) (hi : k'.idler = k.idler)
    (hbetween : k.now ≤ k'.now ∧ k'.now ≤ k.now + d) (hs : stop + d ≤ stop') :
    k'.Within I start stop' := by
  have hstart := h.start_le
  have hstop := h.le_stop
  refine ⟨?_, ?_, ?_⟩
  · rw [hi]
    exact h.idler
  · omega
  · omega

/-- A prompt idler takes no longer than it is asked to. -/
theorem await {tl : Timeline} {t : Session} {duration : Int} (h : t.core.Within I start stop)
    (hprompt : t.idler.Prompt) (hi : I (t.await tl duration).session.idler)
    (hd : t.now + duration ≤ stop') (hs : stop ≤ stop') :
    (t.await tl duration).session.core.Within I start stop' := by
  have hlower := t.le_await_now tl duration
  have hupper := (Session.await_prompt tl duration hprompt).1
  have hstart : start ≤ t.now := h.start_le
  have hstop : t.now ≤ stop := h.le_stop
  refine ⟨hi, ?_, ?_⟩
  · show start ≤ ((t.await tl duration).session.now : Int)
    omega
  · -- a duration that is negative counts as none, and then the idler is done at once
    show ((t.await tl duration).session.now : Int) ≤ stop'
    omega

end Core.Within

namespace Plan

/-- On a clock that does not jump, what is left of the window is what is left of it in instants. -/
theorem remaining_steady (p : Plan) {c : Conditions} (htl : c.timeline = .steady) (start : Nat)
    (t : Session) : p.remaining c (c.timeline.clock start) t = start + p.window - t.now := by
  unfold remaining
  rw [Timeline.clock_of_eq_steady htl, Timeline.clock_of_eq_steady htl]
  omega

/-- On a clock that never falls back, no more is left of the window than is left of it in
instants. -/
theorem remaining_le (p : Plan) {c : Conditions} {start : Nat} {t : Session}
    (hf : c.timeline.Forward) (h : (start : Int) ≤ t.now) :
    p.remaining c (c.timeline.clock start) t ≤ start + p.window - t.now := by
  have hgained := c.timeline.le_clock_sub_clock hf (Int.ofNat_le.mp h)
  unfold remaining
  omega

theorem construct_idler (p : Plan) (begun : Bool) (s : Session) :
    (p.construct begun s).idler = s.idler := by
  unfold construct
  split <;> rfl

end Plan

/-! ### Runs of five seconds -/

/-- A journey with these steps in its body and in its teardown has five seconds, of which one second
is for the teardown. -/
def Plan.fiveSeconds (run tearDown : List Step) : Plan :=
  { journey :=
      { name := "journey"
        run := commandsOf .run run
        tearDown := some (commandsOf .tearDown tearDown) }
    scenario := {}
    window := 5000
    idles := true
    options := .empty
    leeway := 1000 }

theorem Plan.fiveSeconds_measurable {c : Conditions} (hf : c.timeline.Forward)
    (hgrace : isMeasurable c.grace = true) (run tearDown : List Step) :
    (fiveSeconds run tearDown).Measurable c :=
  .of_forward hf (show isMeasurable 5000 = true by decide +kernel)
    (show isMeasurable 1000 = true by decide +kernel) hgrace

/-- A session that nobody observes, with an alarm that looks at the clock every quarter of a
second. -/
def Session.polled : Session :=
  .unobserved .empty (.waiter (.polling (.ofPoll 250)))

theorem Session.polled_punctual : polled.idler.Punctual :=
  nofun

/-! ### Never early -/

/-- The idler is a waiter that is never early. -/
def Core.Punctual (k : Core) : Prop :=
  k.idler.Punctual

namespace Plan

/-- The window of the run has passed on the clock. -/
def HasPassed (p : Plan) (c : Conditions) (s : Session) (k : Core) : Prop :=
  c.timeline.clock s.now + p.window ≤ c.timeline.clock k.now

/-- The outline of a run with a punctual idler: the idler stays punctual, and what it is asked for
last is what is left of the window. -/
def punctualOutline (hf : c.timeline.Forward) (hidles : p.idles = true) :
    p.Outline c (c.timeline.clock s.now) fun _ _ => True where
  begun t := t.core.Punctual
  judged t := t.core.Punctual
  due t := t.core.Punctual
  spent t := t.core.Punctual
  finished t := p.HasPassed c s t.core
  begun_observed := .of_core fun _ _ _ => trivial
  judged_observed := .of_core fun _ _ _ => trivial
  due_observed := .of_core fun _ _ _ => trivial
  spent_observed := .of_core fun _ _ _ => trivial
  finished_observed := .of_core fun _ _ _ => trivial
  judged_of_attempt _ _ h _ := h
  fault_of_attempt _ _ _ _ := trivial
  due_of_await _ h _ _ := Progress.ends_of_imp fun _ => (Session.await_punctual _ hf h).1
  due_of_judged _ h := h
  spent_of_cleanUp _ _ _ h _ _ := h
  fault_of_cleanUp _ _ _ _ _ _ := trivial
  spent_of_due _ h := h
  spent_of_begun _ h _ := h
  finished_of_await t h _ _ := by
    refine Progress.ends_of_imp fun hfault => ?_
    have hgained := (Session.await_punctual _ hf h).2 hfault
    unfold remaining at hgained ⊢
    show c.timeline.clock s.now + p.window ≤ c.timeline.clock (t.await _ _).session.now
    omega
  finished_of_spent t _ hover := by
    have hrem := hover hidles
    unfold remaining at hrem
    show c.timeline.clock s.now + p.window ≤ c.timeline.clock t.now
    omega

/-- A run that idles with a punctual idler does not return before the window has passed on the
clock, unless a fault ends it. -/
theorem window_le_clock_run (hf : c.timeline.Forward) (hidles : p.idles = true)
    (hi : s.idler.Punctual) (hfault : (p.run c s).fault = none) :
    c.timeline.clock s.now + p.window ≤ c.timeline.clock (p.run c s).session.now := by
  let o : p.Outline c (c.timeline.clock s.now) _ := punctualOutline (s := s) hf hidles
  have hbegun : o.begun (p.opened s) := hi
  have hrun : (p.run c s).Ends (fun t => p.HasPassed c s t.core) fun _ _ => True :=
    o.run_ends (o.begun_observed.emit _ hbegun) (fun _ h => h) fun _ _ h => h
  exact hrun.of_fault_eq_none hfault

/-- The clock jumps while the journey works, and again while its run idles. -/
theorem window_le_clock_run_of_jumps :
    let c : Conditions :=
      { timeline := { jumps := [⟨1000, 1500⟩, ⟨2500, 60⟩] }, grace := 500, stamp := "" }
    let progress := (fiveSeconds [.idle 500, .busy 1500] []).run c .polled
    progress.fault = none ∧ c.timeline.clock 0 + 5000 ≤ c.timeline.clock progress.session.now := by
  intro c progress
  have hf : c.timeline.Forward := by
    unfold Timeline.Forward
    decide
  have hfault : progress.fault = none :=
    fault_eq_none_of_measurable (Session.unobserved_tame _ _) Session.polled_punctual.not_raises
      (fiveSeconds_measurable hf (by decide +kernel) _ _)
  exact ⟨hfault, window_le_clock_run hf rfl Session.polled_punctual hfault⟩

end Plan

/-! ### On time -/

/-- All steps of the journey are cooperative, whichever of its parts they belong to. -/
structure Journey.Cooperative (j : Journey) : Prop where
  opening : ∀ command ∈ j.opening, command.step.Cooperative
  tearDown : ∀ commands, j.tearDown = some commands →
    ∀ command ∈ commands, command.step.Cooperative

namespace Plan

/-- The window of the run is just over. -/
def IsOver (p : Plan) (s : Session) (k : Core) : Prop :=
  (k.now : Int) = s.now + p.window

/-- The outline of a run with a punctual idler and a cooperative journey, on a clock that does not
jump: the body and the idling after it keep to the budget, and the teardown keeps to the window. -/
def cooperativeOutline (htl : c.timeline = .steady) (hleeway : p.leeway ≤ p.window)
    (hidles : p.idles = true) (hj : p.journey.Cooperative) :
    p.Outline c (c.timeline.clock s.now) fun _ _ => True where
  begun t := t.core.Within Idler.Punctual s.now s.now
  judged t := t.core.Within Idler.Punctual s.now (s.now + p.budget)
  due t := t.core.Within Idler.Punctual s.now (s.now + p.budget)
  spent t := t.core.Within Idler.Punctual s.now (s.now + p.window)
  finished t := p.IsOver s t.core
  begun_observed := .of_core fun _ _ _ => trivial
  judged_observed := .of_core fun _ _ _ => trivial
  due_observed := .of_core fun _ _ _ => trivial
  spent_observed := .of_core fun _ _ _ => trivial
  finished_observed := .of_core fun _ _ _ => trivial
  judged_of_attempt _ _ h he :=
    h.later rfl (Deadline.attempt_cooperative he hj.opening) (Int.le_refl _)
  fault_of_attempt _ _ _ _ := trivial
  due_of_await t h _ _ := by
    refine Progress.ends_of_imp fun _ => ?_
    have hf := Timeline.forward_of_eq_steady htl
    refine h.await h.idler.prompt (Session.await_punctual _ hf h.idler).1 ?_ (Int.le_refl _)
    -- what is left when the leeway is taken off twice ends a leeway before the budget does
    rw [p.remaining_steady htl]
    unfold budget
    omega
  due_of_judged _ h := h
  spent_of_cleanUp _ commands _ h hc he :=
    -- the budget and the leeway make up the window, since the leeway fits into it
    h.later rfl (Deadline.attempt_cooperative he (hj.tearDown commands hc))
      (by unfold budget; omega)
  fault_of_cleanUp _ _ _ _ _ _ := trivial
  spent_of_due _ h := h.mono (by unfold budget; omega)
  spent_of_begun _ h _ := h.mono (by omega)
  finished_of_await t h _ _ := by
    have hf := Timeline.forward_of_eq_steady htl
    have hrem := p.remaining_steady htl s.now t
    generalize p.remaining c (c.timeline.clock s.now) t = duration at hrem ⊢
    refine Progress.ends_of_imp fun hfault => ?_
    obtain ⟨hidler, hgained⟩ := Session.await_punctual duration hf h.idler
    have hlower := hgained hfault
    rw [Timeline.clock_of_eq_steady htl, Timeline.clock_of_eq_steady htl] at hlower
    have hwithin : (t.await c.timeline duration).session.core.Within _ _ (s.now + p.window) :=
      h.await h.idler.prompt hidler (by omega) (Int.le_refl _)
    have hupper : ((t.await c.timeline duration).session.now : Int) ≤ _ := hwithin.le_stop
    show ((t.await c.timeline duration).session.now : Int) = s.now + p.window
    omega
  finished_of_spent t h hover := by
    have hrem := hover hidles
    rw [p.remaining_steady htl] at hrem
    have hstop : (t.now : Int) ≤ s.now + p.window := h.le_stop
    show (t.now : Int) = s.now + p.window
    omega

/-- On a clock that does not jump, a run that idles with a punctual idler after a cooperative
journey returns just when its window is over.  It does return if nothing is too long to be waited
for. -/
theorem run_now_of_cooperative (htl : c.timeline = .steady) (hleeway : p.leeway ≤ p.window)
    (hidles : p.idles = true) (hi : s.idler.Punctual) (hj : p.journey.Cooperative) :
    ((p.run c s).fault = none → ((p.run c s).session.now : Int) = s.now + p.window) ∧
      (s.Tame → isMeasurable p.window.toNat = true → isMeasurable c.grace = true →
        (p.run c s).fault = none) := by
  let o : p.Outline c (c.timeline.clock s.now) _ :=
    cooperativeOutline (s := s) htl hleeway hidles hj
  have hbegun : o.begun (p.opened s) := ⟨hi, Int.le_refl _, Int.le_refl _⟩
  have hrun : (p.run c s).Ends (fun t => p.IsOver s t.core) fun _ _ => True :=
    o.run_ends (o.begun_observed.emit _ hbegun) (fun _ h => h) fun _ _ h => h
  -- the outline says when the run is over; that it returns is a matter of its waits alone
  refine ⟨hrun.of_fault_eq_none, fun ht hwindow hgrace => ?_⟩
  have hm := Measurable.of_forward (Timeline.forward_of_eq_steady htl) hwindow
    (isMeasurable_of_le (m := p.leeway) (by omega) hwindow) hgrace
  exact fault_eq_none_of_measurable ht hi.not_raises hm

/-- The body idles beyond its deadline, and so does the teardown. -/
theorem run_now_of_idle_loops :
    let progress := (fiveSeconds [.idle 9000] [.idleLoop ⟨7, by decide⟩]).run (.steady 0) .polled
    progress.fault = none ∧ progress.session.now = 5000 := by
  intro progress
  have hj : (fiveSeconds [.idle 9000] [.idleLoop ⟨7, by decide⟩]).journey.Cooperative := by
    constructor
    · intro command hmem
      obtain rfl := List.mem_singleton.mp hmem
      nofun
    · rintro _ ⟨⟩ command hmem
      obtain rfl := List.mem_singleton.mp hmem
      nofun
  obtain ⟨hnow, hfault⟩ := run_now_of_cooperative (s := .polled) (c := .steady 0) rfl
    (by decide) rfl Session.polled_punctual hj
  have hnone := hfault (Session.unobserved_tame _ _) (by decide +kernel) (by decide +kernel)
  exact ⟨hnone, Int.ofNat_inj.mp (hnow hnone)⟩

/-- A run need not return when its window is over, nor return at all, even if nobody raises faults:
the window may be too long to be waited for. -/
theorem not_forall_run_now_eq : ¬ ∀ (p : Plan) (c : Conditions) (s : Session),
    c.timeline = .steady → p.leeway ≤ p.window → p.idles = true → s.idler.Punctual →
    p.journey.Cooperative → s.Tame →
    (p.run c s).fault = none ∧ ((p.run c s).session.now : Int) = s.now + p.window := by
  intro h
  have hj : boundless.journey.Cooperative := by
    constructor
    · intro command hmem
      cases hmem
    · rintro _ ⟨⟩ command hmem
      cases hmem
  obtain ⟨hnone, -⟩ := h boundless (.steady 1000)
    (.unobserved (.ofPairs [("k", "v")]) (.waiter .silent)) rfl (by decide +kernel) rfl nofun hj
    (Session.unobserved_tame _ _)
  have hfault := run_boundless
  rw [hnone] at hfault
  cases hfault

/-! ### Not much too late -/

/-- It is not later than a run may return: the journey's budget, the leeway and two grace periods
after it started, or at the end of its window if it idles until then. -/
def InTime (p : Plan) (c : Conditions) (s : Session) (k : Core) : Prop :=
  (k.now : Int) ≤ s.now + max p.window (p.budget + p.leeway + 2 * c.grace) ∧
    (p.idles = false → (k.now : Int) ≤ s.now + (p.budget + p.leeway + 2 * c.grace))

theorem inTime_of_within {I : Idler → Prop} {start stop : Int} {k : Core}
    (h : k.Within I start stop) (hs : stop ≤ s.now + (p.budget + p.leeway + 2 * c.grace)) :
    p.InTime c s k := by
  have hstop := h.le_stop
  refine ⟨?_, fun _ => ?_⟩
  · omega
  · omega

/-- The outline of a run with a prompt idler: the body and the teardown take no longer than their
deadlines and grace periods allow, and the idling between them ends before the budget does. -/
def promptOutline (hf : c.timeline.Forward) :
    p.Outline c (c.timeline.clock s.now) fun _ t => p.InTime c s t.core where
  begun t := t.core.Within Idler.Prompt s.now s.now
  judged t := t.core.Within Idler.Prompt s.now (s.now + p.budget + c.grace)
  due t := t.core.Within Idler.Prompt s.now (s.now + p.budget + c.grace)
  spent t := t.core.Within Idler.Prompt s.now (s.now + p.budget + c.grace + p.leeway + c.grace)
  finished t := p.InTime c s t.core
  begun_observed := .of_core fun _ _ h => inTime_of_within h (by omega)
  judged_observed := .of_core fun _ _ h => inTime_of_within h (by omega)
  due_observed := .of_core fun _ _ h => inTime_of_within h (by omega)
  spent_observed := .of_core fun _ _ h => inTime_of_within h (by omega)
  finished_observed := .of_core fun _ _ h => h
  judged_of_attempt _ _ h he := h.later rfl (Deadline.attempt_between he) (by omega)
  fault_of_attempt t u h hu := by
    have hwithin : ((p.construct u.begun t).giveUp u).session.core.Within _ _ (s.now + p.budget) :=
      h.later (p.construct_idler u.begun t) (Deadline.attempt_error_between hu) (Int.le_refl _)
    exact inTime_of_within hwithin (by omega)
  due_of_await t h _ _ := by
    have hrem := p.remaining_le hf h.start_le
    have hdue : (t.await c.timeline
        (p.remaining c (c.timeline.clock s.now) t - 2 * p.leeway)).session.core.Within Idler.Prompt
        s.now (s.now + p.budget + c.grace) :=
      h.await h.idler (Session.await_prompt _ _ h.idler).2 (by unfold budget; omega)
        (Int.le_refl _)
    exact (Progress.ends_iff_session.mpr hdue).mono (fun _ h => h)
      fun _ _ h => inTime_of_within h (by omega)
  due_of_judged _ h := h
  spent_of_cleanUp _ _ _ h _ he := h.later rfl (Deadline.attempt_between he) (by omega)
  fault_of_cleanUp t _ u h _ hu := by
    have hwithin : (t.giveUp u).session.core.Within _ _
        (s.now + p.budget + c.grace + p.leeway) :=
      h.later rfl (Deadline.attempt_error_between hu) (Int.le_refl _)
    exact inTime_of_within hwithin (by omega)
  spent_of_due _ h := h.mono (by omega)
  spent_of_begun _ h _ := h.mono (by omega)
  finished_of_await t h hidles _ := by
    have hrem := p.remaining_le hf h.start_le
    have hover : (t.await c.timeline
        (p.remaining c (c.timeline.clock s.now) t)).session.core.Within Idler.Prompt
        s.now (s.now + max p.window (p.budget + p.leeway + 2 * c.grace)) :=
      h.await h.idler (Session.await_prompt _ _ h.idler).2 (by omega) (by omega)
    refine (Progress.ends_iff_session (Q := fun t => p.InTime c s t.core)).mpr
      ⟨hover.le_stop, fun hi => ?_⟩
    rw [hidles] at hi
    cases hi
  finished_of_spent _ h _ := inTime_of_within h (by omega)

/-- Whatever its journey does, and however it ends, a run is over by the end of its window, or by
the journey's budget, the leeway and two grace periods after it started.  Only the latter counts if
it does not idle.  It does return if nobody but the journey raises faults and nothing is too long to
be waited for. -/
theorem run_now_le (hf : c.timeline.Forward) (hi : s.idler.Prompt) :
    ((p.run c s).session.now : Int) ≤
        s.now + max p.window (max (p.window - p.leeway) 0 + p.leeway + 2 * c.grace) ∧
      (p.idles = false → ((p.run c s).session.now : Int) ≤
        s.now + (max (p.window - p.leeway) 0 + p.leeway + 2 * c.grace)) ∧
      (s.Tame → (∀ f, ¬ s.idler.Raises f) → isMeasurable p.window.toNat = true →
        isMeasurable p.leeway = true → isMeasurable c.grace = true →
        (p.run c s).fault = none) := by
  let o : p.Outline c (c.timeline.clock s.now) _ := promptOutline (s := s) hf
  have hbegun : o.begun (p.opened s) := ⟨hi, Int.le_refl _, Int.le_refl _⟩
  have hrun : (p.run c s).Ends (fun t => p.InTime c s t.core) fun _ t => p.InTime c s t.core :=
    o.run_ends (o.begun_observed.emit _ hbegun) (fun _ h => h) fun _ _ h => h
  obtain ⟨hlatest, hworking⟩ := hrun.session
  have hbudget : (p.budget : Int) = max (p.window - p.leeway) 0 := by
    unfold budget
    omega
  -- a window shorter than the leeway leaves a budget of nothing
  rw [hbudget] at hlatest hworking
  exact ⟨hlatest, hworking, fun ht hraises hwindow hleeway hgrace =>
    fault_eq_none_of_measurable ht hraises (.of_forward hf hwindow hleeway hgrace)⟩

/-- Neither the body nor the teardown listens, so both are abandoned. -/
theorem run_now_le_of_busy :
    ((fiveSeconds [.busy 9000] [.busy 9000]).run (.steady 500) .polled).session.now ≤ 6000 := by
  have hf : (Conditions.steady 500).timeline.Forward := Timeline.forward_of_eq_steady rfl
  obtain ⟨hnow, -, -⟩ := run_now_le (p := fiveSeconds [.busy 9000] [.busy 9000])
    (c := .steady 500) hf Session.polled_punctual.prompt
  exact Int.ofNat_le.mp hnow

/-- The bound is reached. -/
example :
    ((fiveSeconds [.busy 9000] [.busy 9000]).run (.steady 500) .polled).session.now = 6000 := by
  decide +kernel

end Plan

end Timebox
