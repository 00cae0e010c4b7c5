import Timebox.Deadline

/-!
# How far bodies go

A body under a deadline ends between its start and the end of the grace period, whatever its steps
are (`Deadline.enforce_between`).  If all of its steps are cooperative, that is, if none works
without listening to the signal, it ends by the deadline already (`Deadline.enforce_cooperative`).

Both come from one statement about a single step (`Step.take_between`): a step leads from a moment
up to some cap to another such moment, as long as the signal is raised by the cap and the cap is no
later than the limit.  Only a step that does not listen needs the cap to be the limit, and only such
a step can be abandoned.  What single steps preserve, a body preserves (`runCommands_holds`).
-/

namespace Timebox

/-! ### Single steps -/

/-- The step listens to the signal while it takes time. -/
def Step.Cooperative (step : Step) : Prop :=
  ∀ ms, step ≠ .busy ms

/-- The step ends in a moment of `P`; that it does not end at all implies `stuck`. -/
def StepEnd.Holds (P : Moment → Prop) (stuck : Prop) : StepEnd → Prop
  | .done _ m => P m
  | .raised _ m => P m
  | .abandoned => stuck
  | .endless => stuck

theorem StepEnd.Holds.mono {P : Moment → Prop} {stuck stuck' : Prop} {e : StepEnd}
    (h : e.Holds P stuck) (hs : stuck → stuck') : e.Holds P stuck' := by
  cases e with
  | done v m => exact h
  | raised f m => exact h
  | abandoned => exact hs h
  | endless => exact hs h

/-- A reply of an operation on arguments takes no time. -/
theorem Reply.stepEnd_holds {P : Moment → Prop} {stuck : Prop} {m : Moment} (r : Reply)
    (h : ∀ a, P { m with arguments := a }) : (r.stepEnd m).Holds P stuck := by
  cases r <;> exact h _

/-- What holds of every step: most steps take no time and do not touch the signal from outside, so
it is enough to know about those that wait. -/
theorem Step.take_holds {around : Surroundings} {m : Moment} {P : Moment → Prop} {stuck : Prop}
    (step : Step) (hstill : ∀ n : Moment, n.now = m.now → n.signalled = m.signalled → P n)
    (hidle : ∀ ms, (m.idleStep around ms).Holds P stuck)
    (hloop : ∀ span, (m.loopStep around span).Holds P stuck)
    (hbusy : ∀ ms, step = .busy ms → ((Step.busy ms).take around m).Holds P stuck) :
    (step.take around m).Holds P stuck := by
  have hm : P m := hstill m rfl rfl
  -- but for idling and working, no step takes time or has to do with the watchdog
  cases step with
  | idle ms => exact hidle ms
  | idleArgument key default =>
    simp only [Step.take]
    split
    · exact hm
    · exact hidle _
  | busy ms => exact hbusy ms rfl
  | idleLoop span => exact hloop span
  | check =>
    simp only [Step.take]
    split <;> exact hm
  | isCancelled => exact hm
  | cancel => exact hstill { m with cancelled := true } rfl rfl
  | clock => exact hm
  | arguments => exact hm
  | raise fault => exact hm
  | operate op => exact Reply.stepEnd_holds _ fun _ => hstill _ rfl rfl

/-- Idling goes on no longer than until the signal. -/
theorem Moment.idle_between {m : Moment} {signal : Signal} {cap lo : Nat}
    (hsignal : signal.instant ≤ cap) (hlo : lo ≤ m.now) (hcap : m.now ≤ cap) (ms : Int) :
    lo ≤ (m.idle (some signal) ms).2.now ∧ (m.idle (some signal) ms).2.now ≤ cap := by
  unfold Moment.idle
  split
  · exact ⟨hlo, hcap⟩
  · split
    · exact ⟨hlo, hcap⟩
    · dsimp only
      split
      · simp only [Moment.cutAt]
        omega
      · next h =>
        simp only [Signal.precedes] at h
        split at h <;> simp only [decide_eq_true_eq] at h <;> dsimp only <;> omega

section

variable {around : Surroundings} {signal : Signal} {limit cap lo : Nat} {m : Moment} {stuck : Prop}
  (hs : around.signal = some signal) (hl : around.limit = some limit)
  (hsignal : signal.instant ≤ cap) (hlimit : cap ≤ limit) (hlo : lo ≤ m.now) (hcap : m.now ≤ cap)

include hs hl hsignal hlimit hlo hcap

theorem Moment.idleStep_between (ms : Int) :
    (m.idleStep around ms).Holds (fun n => lo ≤ n.now ∧ n.now ≤ cap) stuck := by
  have h := Moment.idle_between hsignal hlo hcap ms
  unfold Moment.idleStep
  rw [hs, hl]
  split
  · dsimp only
    split
    · next hany =>
      simp only [Option.any_some, decide_eq_true_eq] at hany
      omega
    · exact h
  · exact ⟨hlo, hcap⟩

omit hl hlimit in
theorem Moment.loopStep_between (span : Span) :
    (m.loopStep around span).Holds (fun n => lo ≤ n.now ∧ n.now ≤ cap) stuck := by
  unfold Moment.loopStep
  rw [hs]
  split
  · split
    · exact ⟨hlo, hcap⟩
    · show lo ≤ max m.now signal.instant ∧ max m.now signal.instant ≤ cap
      omega
  · exact ⟨hlo, hcap⟩

/-- A step ends by the cap.  Only one that does not listen needs the cap to be the limit, and only
such a step can be abandoned. -/
theorem Step.take_between (step : Step) (hbusy : ¬ step.Cooperative → cap = limit) :
    (step.take around m).Holds (fun n => lo ≤ n.now ∧ n.now ≤ cap) (¬ step.Cooperative) := by
  refine step.take_holds (fun n hn _ => ?_) (Moment.idleStep_between hs hl hsignal hlimit hlo hcap)
    (Moment.loopStep_between hs hsignal hlo hcap) fun ms hstep => ?_
  · rw [hn]
    exact ⟨hlo, hcap⟩
  · -- nothing cuts the step short, so the limit alone keeps it from going on
    have hb : ¬ step.Cooperative := fun h => h ms hstep
    have heq := hbusy hb
    simp only [Step.take, hl]
    split
    · exact hb
    · have hnow : (m.pass around.signal (m.now + ms.toNat)).now = m.now + ms.toNat := by
        unfold Moment.pass
        split <;> rfl
      show lo ≤ (m.pass around.signal (m.now + ms.toNat)).now ∧ _
      rw [hnow]
      omega

end

/-! ### Bodies -/

/-- The body is left running: it was abandoned, or it never ends. -/
def Ending.IsStuck : Ending → Prop
  | .abandoned => True
  | .endless => True
  | _ => False

@[simp] theorem Course.noting_last (c : Course) (command : Command) (o : Outcome) (t : Nat) :
    (c.noting command o t).last = c.last := by
  unfold Course.noting
  split <;> rfl

@[simp] theorem Course.noting_ending (c : Course) (command : Command) (o : Outcome) (t : Nat) :
    (c.noting command o t).ending = c.ending := by
  unfold Course.noting
  split <;> rfl

/-- What every step of a body preserves, the body preserves. -/
theorem runCommands_holds {around : Surroundings} {P : Moment → Prop} {stuck : Prop}
    {body : List Command}
    (hstep : ∀ c ∈ body, ∀ m, P m → (c.step.take around m).Holds P stuck) {m : Moment}
    (hm : P m) : P (runCommands around body m).last ∧
      ((runCommands around body m).ending.IsStuck → stuck) := by
  induction body generalizing m with
  | nil => exact ⟨hm, False.elim⟩
  | cons c cs ih =>
    have hc := hstep c List.mem_cons_self m hm
    -- the rest of the body starts where this step has ended, if it has ended in an answer
    unfold runCommands
    split
    · next v n hn =>
      rw [hn] at hc
      rw [Course.noting_last, Course.noting_ending]
      exact ih (fun d hd => hstep d (List.mem_cons_of_mem _ hd)) hc
    · next f n hn =>
      rw [hn] at hc
      rw [Course.noting_last, Course.noting_ending]
      exact ⟨hc, False.elim⟩
    · next hn =>
      rw [hn] at hc
      exact ⟨hm, fun _ => hc⟩
    · next hn =>
      rw [hn] at hc
      exact ⟨hm, fun _ => hc⟩

/-! ### Bodies under a deadline -/

namespace Deadline

variable {tl : Timeline} {start budget grace : Nat} {arguments : Arguments} {body : List Command}

/-- The watchdog returns where the body stands, or at the end of the grace period. -/
theorem returnInstant_eq (c : Course) : returnInstant start budget grace c = c.last.now ∨
    c.ending.IsStuck ∧ returnInstant start budget grace c = start + budget + grace := by
  unfold returnInstant Ending.IsStuck
  cases c.ending with
  | returned => exact Or.inl rfl
  | raised f => exact Or.inl rfl
  | abandoned => exact Or.inr ⟨trivial, rfl⟩
  | endless => exact Or.inr ⟨trivial, rfl⟩

/-- A body is left between its start and any cap that is no earlier than its deadline and no later
than the end of the grace period, which has to be the cap if some step is not cooperative. -/
theorem enforce_le_cap {cap : Nat} (hdeadline : start + budget ≤ cap)
    (hlimit : cap ≤ start + budget + grace)
    (hbusy : ∀ c ∈ body, ¬ c.step.Cooperative → cap = start + budget + grace) :
    start ≤ (enforce tl start budget grace arguments body).now ∧
      (enforce tl start budget grace arguments body).now ≤ cap := by
  have hstep : ∀ c ∈ body, ∀ m : Moment, start ≤ m.now ∧ m.now ≤ cap →
      (c.step.take (surroundings tl start budget grace) m).Holds
        (fun n => start ≤ n.now ∧ n.now ≤ cap) (cap = start + budget + grace) := by
    intro c hc m hm
    have htake : (c.step.take (surroundings tl start budget grace) m).Holds
        (fun n => start ≤ n.now ∧ n.now ≤ cap) (¬ c.step.Cooperative) :=
      Step.take_between rfl rfl hdeadline hlimit hm.1 hm.2 c.step (hbusy c hc)
    exact htake.mono (hbusy c hc)
  obtain ⟨hlast, hstuck⟩ := runCommands_holds hstep (m := { now := start, arguments := arguments })
    ⟨Nat.le_refl _, Nat.le_trans (Nat.le_add_right _ _) hdeadline⟩
  show start ≤ returnInstant _ _ _ _ ∧ returnInstant _ _ _ _ ≤ _
  rcases returnInstant_eq (course tl start budget grace arguments body) with h | ⟨hs, h⟩
  · rw [h]
    exact hlast
  · -- some step does not listen, or the body could not be stuck: the cap is the limit
    rw [h]
    have hcap := hstuck hs
    omega

/-- A body is left between its start and the end of the grace period. -/
theorem enforce_between (tl : Timeline) (start budget grace : Nat) (arguments : Arguments)
    (body : List Command) : start ≤ (enforce tl start budget grace arguments body).now ∧
      (enforce tl start budget grace arguments body).now ≤ start + budget + grace :=
  enforce_le_cap (Nat.le_add_right _ _) (Nat.le_refl _) fun _ _ _ => rfl

/-- A cooperative body is left by its deadline. -/
theorem enforce_cooperative (h : ∀ c ∈ body, c.step.Cooperative) :
    start ≤ (enforce tl start budget grace arguments body).now ∧
      (enforce tl start budget grace arguments body).now ≤ start + budget :=
  enforce_le_cap (Nat.le_refl _) (Nat.le_add_right _ _) fun c hc hn => absurd (h c hc) hn

/-- If a deadline is enforced, what is left is what enforcing it leaves. -/
theorem attempt_ok {e : Enforced}
    (h : attempt tl start budget grace arguments body = .ok e) :
    e = enforce tl start budget grace arguments body := by
  unfold attempt at h
  split at h
  · cases h
  · split at h
    · cases h
    · exact (Except.ok.inj h).symm

/-- A deadline that is enforced is not too far away. -/
theorem isMeasurable_of_attempt {e : Enforced}
    (h : attempt tl start budget grace arguments body = .ok e) : isMeasurable budget = true := by
  unfold attempt at h
  split at h
  · cases h
  · next hb => simpa using hb

theorem attempt_between {e : Enforced}
    (h : attempt tl start budget grace arguments body = .ok e) :
    start ≤ e.now ∧ e.now ≤ start + (budget + grace) := by
  rw [attempt_ok h, ← Nat.add_assoc]
  exact enforce_between tl start budget grace arguments body

theorem attempt_cooperative {e : Enforced}
    (h : attempt tl start budget grace arguments body = .ok e)
    (hbody : ∀ c ∈ body, c.step.Cooperative) : start ≤ e.now ∧ e.now ≤ start + budget := by
  rw [attempt_ok h]
  exact enforce_cooperative hbody

/-- A deadline that is not enforced is too far away, and the body has not begun, or the grace period
is too long, and the body has been left at its deadline. -/
theorem attempt_error {u : Unenforced}
    (h : attempt tl start budget grace arguments body = .error u) :
    (isMeasurable budget = false ∧ u.begun = false ∧ u.now = start ∧ u.log = []) ∨
      (isMeasurable grace = false ∧ u.begun = true ∧ u.now = start + budget ∧
        u.log = (courseBefore tl start budget arguments body).log) := by
  unfold attempt at h
  split at h
  · next hb =>
    obtain rfl := Except.error.inj h
    exact Or.inl ⟨by simpa using hb, rfl, rfl, rfl⟩
  · split at h
    · next hg =>
      obtain rfl := Except.error.inj h
      simp only [Bool.and_eq_true, Bool.not_eq_true'] at hg
      exact Or.inr ⟨hg.2, rfl, rfl, rfl⟩
    · cases h

/-- A deadline that is not enforced is given up between the start and the deadline. -/
theorem attempt_error_between {u : Unenforced}
    (h : attempt tl start budget grace arguments body = .error u) :
    start ≤ u.now ∧ u.now ≤ start + budget := by
  rcases attempt_error h with ⟨-, -, hnow, -⟩ | ⟨-, -, hnow, -⟩
  · omega
  · omega

end Deadline

end Timebox
