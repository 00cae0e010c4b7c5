import Timebox.Proofs.Course

/-!
# Bodies that are done in time

A body that gets to its end by its deadline does not notice that it has one: it takes the very steps
that it takes when nobody watches it (`Deadline.course_eq_undisturbed`), and its verdict is its own
(`Deadline.enforce_of_undisturbed`).  The verdict on any body is one of three: it passed, it failed
with the fault that it raised by its deadline, or it timed out (`Deadline.enforce_verdict`).

All of this is read off what a single step does to the time and to the signal
(`Step.take_proceeds`).  A body that is made of two parts does not come to the second one unless it
gets to the end of the first (`runCommands_append_of_not_returned`).
-/

namespace Timebox

/-! ### Single steps -/

theorem StepEnd.Holds.imp {P Q : Moment → Prop} {stuck : Prop} {e : StepEnd} (h : e.Holds P stuck)
    (hP : ∀ m, P m → Q m) : e.Holds Q stuck := by
  cases e with
  | done v m => exact hP m h
  | raised f m => exact hP m h
  | abandoned => exact h
  | endless => exact h

/-- How a step leads from a moment to another one, as far as the time and the signal from outside
are concerned. -/
inductive Moment.Proceeds (signal : Option Signal) (m n : Moment) : Prop where
  /-- No time passes. -/
  | still (hnow : n.now = m.now) (hsignalled : n.signalled = m.signalled)
  /-- Time passes, and the signal has not been raised when the step ends. -/
  | on (hnow : m.now ≤ n.now) (hsignalled : n.signalled = m.signalled)
    (hraised : raisedBy signal n.now = false)
  /-- The signal has been raised when the step ends. -/
  | signalled (s : Signal) (hsignal : signal = some s) (hnow : m.now ≤ n.now)
    (hinstant : s.instant ≤ n.now) (hsignalled : n.signalled = true)

namespace Moment.Proceeds

variable {signal : Option Signal} {m n : Moment}

theorem le_now (h : Proceeds signal m n) : m.now ≤ n.now := by
  cases h with
  | still hnow _ => exact Nat.le_of_eq hnow.symm
  | on hnow _ _ => exact hnow
  | signalled _ _ hnow _ _ => exact hnow

theorem signalled_eq (h : Proceeds none m n) : n.signalled = m.signalled := by
  cases h with
  | still _ hsignalled => exact hsignalled
  | on _ hsignalled _ => exact hsignalled
  | signalled _ hsignal _ _ _ => cases hsignal

/-- The signal of a watchdog has not been seen before its instant is over. -/
theorem le_instant {deadline : Nat} (h : Proceeds (some ⟨deadline, false⟩) m n)
    (hm : m.signalled = false → m.now ≤ deadline) (hn : n.signalled = false) :
    n.now ≤ deadline := by
  cases h with
  | still hnow hsignalled =>
    rw [hnow]
    exact hm (hsignalled ▸ hn)
  | on _ _ hraised =>
    simp only [raisedBy, Signal.precedes, Bool.false_eq_true, if_false, decide_eq_false_iff_not]
      at hraised
    omega
  | signalled _ _ _ _ hsignalled => cases hsignalled.symm.trans hn

end Moment.Proceeds

theorem Moment.idle_proceeds (signal : Option Signal) (m : Moment) (ms : Int) :
    m.Proceeds signal (m.idle signal ms).2 := by
  unfold Moment.idle
  split
  · exact .still rfl rfl
  -- time passes to the signal, if that comes first, or to the end of the step
  · split
    · exact .still rfl rfl
    · dsimp only
      split
      · next s =>
        split
        · exact .signalled s rfl (Nat.le_max_left _ _) (Nat.le_max_right _ _) rfl
        · next h => exact .on (Nat.le_add_right _ _) rfl (by simpa [raisedBy] using h)
      · exact .on (Nat.le_add_right _ _) rfl rfl

theorem Moment.pass_proceeds (signal : Option Signal) (m : Moment) (d : Nat) :
    m.Proceeds signal (m.pass signal (m.now + d)) := by
  unfold Moment.pass
  split
  · next h =>
    cases signal with
    | none => cases h
    | some s =>
      refine .signalled s rfl (Nat.le_add_right _ _) ?_ rfl
      show s.instant ≤ m.now + d
      simp only [raisedBy, Signal.precedes] at h
      split at h <;> simp only [decide_eq_true_eq] at h <;> omega
  · next h => exact .on (Nat.le_add_right _ _) rfl (by simpa using h)

theorem Moment.idleStep_proceeds (around : Surroundings) (m : Moment) (ms : Int) :
    (m.idleStep around ms).Holds (m.Proceeds around.signal) True := by
  unfold Moment.idleStep
  split
  · dsimp only
    split
    · trivial
    · exact m.idle_proceeds around.signal ms
  · exact .still rfl rfl

theorem Moment.loopStep_proceeds (around : Surroundings) (m : Moment) (span : Span) :
    (m.loopStep around span).Holds (m.Proceeds around.signal) True := by
  unfold Moment.loopStep
  split
  · split
    · exact .still rfl rfl
    · split
      · next s hs => exact .signalled s hs (Nat.le_max_left _ _) (Nat.le_max_right _ _) rfl
      · trivial
  · exact .still rfl rfl

/-- What a step does to the time and to the signal. -/
theorem Step.take_proceeds (around : Surroundings) (m : Moment) (step : Step) :
    (step.take around m).Holds (m.Proceeds around.signal) True := by
  refine step.take_holds (fun n => .still) (m.idleStep_proceeds around)
    (m.loopStep_proceeds around) fun ms _ => ?_
  simp only [Step.take]
  split
  · split
    · trivial
    · exact m.pass_proceeds around.signal _
  · exact m.pass_proceeds around.signal _

/-! ### Bodies that nobody watches -/

/-- Nobody raises a signal, and a step that would end after the limit is abandoned. -/
def Surroundings.unwatched (tl : Timeline) (limit : Option Nat) : Surroundings :=
  { timeline := tl, signal := none, limit := limit }

/-- Time goes on while a body runs. -/
theorem runCommands_le_now (around : Surroundings) (body : List Command) (m : Moment) :
    m.now ≤ (runCommands around body m).last.now := by
  have hstep : ∀ c ∈ body, ∀ n : Moment, m.now ≤ n.now →
      (c.step.take around n).Holds (fun k => m.now ≤ k.now) True := by
    intro c _ n hn
    exact (c.step.take_proceeds around n).imp fun k hk => Nat.le_trans hn hk.le_now
  exact (runCommands_holds hstep (Nat.le_refl _)).1

/-- Where nobody raises the signal, it is not raised from outside. -/
theorem runCommands_signalled {around : Surroundings} (hs : around.signal = none)
    (body : List Command) {m : Moment} (hm : m.signalled = false) :
    (runCommands around body m).last.signalled = false := by
  have hstep : ∀ c ∈ body, ∀ n : Moment, n.signalled = false →
      (c.step.take around n).Holds (fun k => k.signalled = false) True := by
    intro c _ n hn
    have htake := c.step.take_proceeds around n
    rw [hs] at htake
    exact htake.imp fun k hk => hk.signalled_eq.trans hn
  exact (runCommands_holds hstep hm).1

theorem Moment.idleStep_unwatched_le {tl : Timeline} {limit : Nat} {m : Moment}
    (hm : m.now ≤ limit) (ms : Int) :
    (m.idleStep (.unwatched tl (some limit)) ms).Holds (fun n => n.now ≤ limit) True := by
  unfold Moment.idleStep
  split
  · dsimp only
    split
    · trivial
    · next h =>
      simp only [Surroundings.unwatched, Option.any_some] at h
      exact Nat.le_of_not_lt (of_decide_eq_false (Bool.eq_false_iff.mpr h))
  · exact hm

/-- An unwatched step does not end after the limit. -/
theorem Step.take_unwatched_le {tl : Timeline} {limit : Nat} {m : Moment} (hm : m.now ≤ limit)
    (step : Step) :
    (step.take (.unwatched tl (some limit)) m).Holds (fun n => n.now ≤ limit) True := by
  refine step.take_holds (fun n hn _ => ?_) (Moment.idleStep_unwatched_le hm) (fun span => ?_)
    fun ms _ => ?_
  · rw [hn]
    exact hm
  · unfold Moment.loopStep
    split
    · split
      · exact hm
      · trivial
    · exact hm
  · simp only [Step.take, Surroundings.unwatched]
    split
    · trivial
    · next h => exact Nat.le_of_not_lt h

/-- A body that does not get to the end of its first part does not come to the second one. -/
theorem runCommands_append_of_not_returned {around : Surroundings} {first : List Command}
    {m : Moment} (h : (runCommands around first m).ending ≠ .returned) (second : List Command) :
    runCommands around (first ++ second) m = runCommands around first m := by
  induction first generalizing m with
  | nil => exact absurd rfl h
  | cons c cs ih =>
    rw [List.cons_append]
    unfold runCommands at h ⊢
    split
    · next v n hn =>
      rw [hn] at h
      simp only [Course.noting_ending] at h
      rw [ih h]
    · rfl
    · rfl
    · rfl

/-! ### Bodies that are done by their deadline -/

namespace Deadline

variable {tl : Timeline} {start budget grace : Nat} {arguments : Arguments} {body : List Command}

/-- The course that a body takes if it is left alone. -/
def undisturbed (tl : Timeline) (start : Nat) (arguments : Arguments) (body : List Command) :
    Course :=
  runCommands (.unwatched tl none) body { now := start, arguments := arguments }

/-- An idle that ends by the deadline is not cut short by the watchdog. -/
theorem idle_eq_of_le {deadline : Nat} {m : Moment} {ms : Int}
    (h : (m.idle none ms).2.now ≤ deadline) :
    m.idle (some ⟨deadline, false⟩) ms = m.idle none ms := by
  unfold Moment.idle at h ⊢
  split
  · rfl
  · next hms =>
    rw [if_neg hms] at h
    split
    · rfl
    · next hcancelled =>
      rw [if_neg hcancelled] at h
      have hstop : m.now + ms.toNat ≤ deadline := h
      -- the signal is raised at the deadline and no sooner, which is too late to matter
      have hprecedes : Signal.precedes ⟨deadline, false⟩ (m.now + ms.toNat) = false := by
        simp only [Signal.precedes, Bool.false_eq_true, if_false, decide_eq_false_iff_not]
        exact Nat.not_lt.mpr hstop
      simp only [hprecedes, Bool.false_eq_true, if_false]

/-- Time that passes up to the deadline at most does not raise the signal. -/
theorem pass_eq_of_le {deadline t : Nat} {m : Moment} (h : t ≤ deadline) :
    m.pass (some ⟨deadline, false⟩) t = m.pass none t := by
  unfold Moment.pass
  rw [if_neg, if_neg]
  · exact Bool.false_ne_true
  · simp only [raisedBy, Signal.precedes, Bool.false_eq_true, if_false, decide_eq_true_eq]
    omega

/-- If an idle ends by the deadline, neither the signal nor the limit comes before its end. -/
theorem idleStep_eq_of_le {limit : Option Nat} {m : Moment} {ms : Int}
    (h : (m.idleStep (.unwatched tl limit) ms).Holds (fun n => n.now ≤ start + budget) False) :
    m.idleStep (surroundings tl start budget grace) ms = m.idleStep (.unwatched tl limit) ms := by
  unfold Moment.idleStep Surroundings.unwatched surroundings at *
  split at h
  · next hm =>
    rw [if_pos hm, if_pos hm]
    dsimp only at h ⊢
    split at h
    · exact h.elim
    · next hlimit =>
      have hstop : (m.idle none ms).2.now ≤ start + budget := h
      rw [idle_eq_of_le hstop, if_neg hlimit, if_neg]
      simp only [Option.any_some, decide_eq_true_eq]
      omega
  · next hm => rw [if_neg hm, if_neg hm]

/-- A step that ends by the deadline when nobody watches it ends so under the deadline. -/
theorem take_eq_of_le {limit : Option Nat} {m : Moment} {step : Step}
    (h : (step.take (.unwatched tl limit) m).Holds (fun n => n.now ≤ start + budget) False) :
    step.take (surroundings tl start budget grace) m = step.take (.unwatched tl limit) m := by
  cases step with
  | idle ms => exact idleStep_eq_of_le h
  | idleArgument key default =>
    simp only [Step.take] at h ⊢
    split
    · rfl
    · next hk =>
      rw [hk] at h
      exact idleStep_eq_of_le h
  | busy ms =>
    -- a step that ends by the deadline meets neither the signal nor the limit
    have hstop : m.now + ms.toNat ≤ start + budget := by
      simp only [Step.take, Surroundings.unwatched] at h
      split at h
      · split at h
        · exact h.elim
        · exact h
      · exact h
    simp only [Step.take, Surroundings.unwatched, surroundings] at h ⊢
    rw [if_neg (by omega), pass_eq_of_le hstop]
    split at h
    · split at h
      · exact h.elim
      · next hlimit => rw [if_neg hlimit]
    · rfl
  | idleLoop span =>
    simp only [Step.take, Moment.loopStep, Surroundings.unwatched] at h ⊢
    split at h
    · next hm =>
      rw [if_pos hm, if_pos hm]
      split at h
      · next hc => rw [if_pos hc, if_pos hc]
      · exact h.elim
    · next hm => rw [if_neg hm, if_neg hm]
  | check => rfl
  | isCancelled => rfl
  | cancel => rfl
  | clock => rfl
  | arguments => rfl
  | raise f => rfl
  | operate op => rfl

/-- A body that ends by the deadline when nobody watches it takes the same course under it. -/
theorem runCommands_eq_of_le {limit : Option Nat} {m : Moment}
    (hend : ¬ (runCommands (.unwatched tl limit) body m).ending.IsStuck)
    (hlast : (runCommands (.unwatched tl limit) body m).last.now ≤ start + budget) :
    runCommands (surroundings tl start budget grace) body m =
      runCommands (.unwatched tl limit) body m := by
  induction body generalizing m with
  | nil => rfl
  | cons c cs ih =>
    unfold runCommands at hend hlast ⊢
    have htake : (c.step.take (.unwatched tl limit) m).Holds (·.now ≤ start + budget) False →
        c.step.take (surroundings tl start budget grace) m = c.step.take (.unwatched tl limit) m :=
      take_eq_of_le
    cases hc : c.step.take (.unwatched tl limit) m with
    | done v n =>
      simp only [hc, Course.noting_ending, Course.noting_last] at hend hlast
      -- the step ends no later than the body
      have hn : n.now ≤ start + budget := Nat.le_trans (runCommands_le_now _ cs n) hlast
      rw [hc] at htake
      rw [htake hn]
      dsimp only
      rw [ih hend hlast]
    | raised f n =>
      simp only [hc, Course.noting_last] at hlast
      rw [hc] at htake
      rw [htake hlast]
    | abandoned =>
      rw [hc] at hend
      exact absurd trivial hend
    | endless =>
      rw [hc] at hend
      exact absurd trivial hend

/-- A body that is done by its deadline if it is left alone takes the same course under it. -/
theorem course_eq_undisturbed (hend : ¬ (undisturbed tl start arguments body).ending.IsStuck)
    (hlast : (undisturbed tl start arguments body).last.now ≤ start + budget) :
    course tl start budget grace arguments body = undisturbed tl start arguments body :=
  runCommands_eq_of_le hend hlast

/-! ### Verdicts -/

/-- A course that is not late ended by itself, and has seen no signal from outside. -/
theorem not_isLate {c : Course} (h : isLate c = false) :
    ¬ c.ending.IsStuck ∧ c.last.signalled = false := by
  unfold isLate at h
  cases hc : c.ending with
  | returned => rw [hc] at h; exact ⟨id, h⟩
  | raised f => rw [hc] at h; exact ⟨id, h⟩
  | abandoned => rw [hc] at h; cases h
  | endless => rw [hc] at h; cases h

theorem classify_cases (budget : Nat) (c : Course) :
    (c.ending = .returned ∧ c.last.signalled = false ∧ classify budget c = (.passed, none)) ∨
      (∃ f, c.ending = .raised f ∧ c.last.signalled = false ∧
        classify budget c = (.failed, some f)) ∨
      classify budget c = (.timedOut, some (.timedOut budget)) := by
  cases hlate : isLate c with
  | true => exact Or.inr (Or.inr (by rw [classify, if_pos hlate]))
  | false =>
    obtain ⟨hend, hsignalled⟩ := not_isLate hlate
    simp only [classify, hlate, Bool.false_eq_true, if_false]
    cases hc : c.ending with
    | returned => exact Or.inl ⟨rfl, hsignalled, rfl⟩
    | raised f =>
      dsimp only
      split
      · exact Or.inr (Or.inr rfl)
      · exact Or.inr (Or.inl ⟨f, rfl, hsignalled, rfl⟩)
    | abandoned => rw [hc] at hend; exact absurd trivial hend
    | endless => rw [hc] at hend; exact absurd trivial hend

/-- A body that has seen no signal from outside ended by its deadline. -/
theorem course_le_deadline
    (h : (course tl start budget grace arguments body).last.signalled = false) :
    (course tl start budget grace arguments body).last.now ≤ start + budget := by
  have hstep : ∀ c ∈ body, ∀ n : Moment, (n.signalled = false → n.now ≤ start + budget) →
      (c.step.take (surroundings tl start budget grace) n).Holds
        (fun k => k.signalled = false → k.now ≤ start + budget) True := by
    intro c _ n hn
    exact (c.step.take_proceeds _ n).imp fun k hk => hk.le_instant hn
  exact (runCommands_holds hstep (m := { now := start, arguments := arguments })
    fun _ => Nat.le_add_right _ _).1 h

/-- The verdict on a body: it passed, it failed with the fault that it raised by its deadline, or it
timed out. -/
theorem enforce_verdict (tl : Timeline) (start budget grace : Nat) (arguments : Arguments)
    (body : List Command) :
    let c := course tl start budget grace arguments body
    let v := (enforce tl start budget grace arguments body).verdict
    (c.ending = .returned ∧ c.last.now ≤ start + budget ∧ v.status = .passed ∧ v.fault = none) ∨
      (∃ f, c.ending = .raised f ∧ c.last.now ≤ start + budget ∧ v.status = .failed ∧
        v.fault = some f) ∨
      (v.status = .timedOut ∧ v.fault = some (.timedOut budget)) := by
  intro c v
  have hstatus : v.status = (classify budget c).1 := rfl
  have hfault : v.fault = (classify budget c).2 := rfl
  rcases classify_cases budget c with ⟨hend, hs, hv⟩ | ⟨f, hend, hs, hv⟩ | hv
  · rw [hv] at hstatus hfault
    exact Or.inl ⟨hend, course_le_deadline hs, hstatus, hfault⟩
  · rw [hv] at hstatus hfault
    exact Or.inr (Or.inl ⟨f, hend, course_le_deadline hs, hstatus, hfault⟩)
  · rw [hv] at hstatus hfault
    exact Or.inr (Or.inr ⟨hstatus, hfault⟩)

/-- What the verdict says, if the deadline is enforced. -/
theorem attempt_verdict {e : Enforced}
    (h : attempt tl start budget grace arguments body = .ok e) :
    (e.verdict.status = .passed ∧ e.verdict.fault = none) ∨
      (∃ f, e.verdict.status = .failed ∧ e.verdict.fault = some f) ∨
      (e.verdict.status = .timedOut ∧ e.verdict.fault = some (.timedOut budget)) := by
  obtain rfl := attempt_ok h
  rcases enforce_verdict tl start budget grace arguments body with
    ⟨-, -, hpassed⟩ | ⟨f, -, -, hfailed⟩ | htimedOut
  · exact Or.inl hpassed
  · exact Or.inr (Or.inl ⟨f, hfailed⟩)
  · exact Or.inr (Or.inr htimedOut)

/-- A verdict comes with a fault unless the body passed. -/
theorem enforce_fault_eq_none_iff :
    (enforce tl start budget grace arguments body).verdict.fault = none ↔
      (enforce tl start budget grace arguments body).verdict.status = .passed := by
  rcases enforce_verdict tl start budget grace arguments body with
    ⟨-, -, hs, hf⟩ | ⟨f, -, -, hs, hf⟩ | ⟨hs, hf⟩
  · simp only [hs, hf]
  · simp [hs, hf]
  · simp [hs, hf]

/-- What is left of a body that is done by its deadline if it is left alone: it has taken all the
steps that it takes then, and if it does not raise a fault it has passed. -/
theorem enforce_of_undisturbed (hend : ¬ (undisturbed tl start arguments body).ending.IsStuck)
    (hlast : (undisturbed tl start arguments body).last.now ≤ start + budget) :
    (enforce tl start budget grace arguments body).log =
        (undisturbed tl start arguments body).log ∧
      ((undisturbed tl start arguments body).ending = .returned →
        (enforce tl start budget grace arguments body).verdict.status = .passed ∧
          (enforce tl start budget grace arguments body).verdict.fault = none) := by
  have hcourse : course tl start budget grace arguments body =
      undisturbed tl start arguments body := course_eq_undisturbed hend hlast
  refine ⟨congrArg Course.log hcourse, fun hreturned => ?_⟩
  -- where nobody watches nobody raises the signal, so the course is not late
  have hsignalled : (undisturbed tl start arguments body).last.signalled = false :=
    runCommands_signalled rfl body rfl
  have hclassify : classify budget (course tl start budget grace arguments body) =
      (.passed, none) := by
    rw [hcourse]
    simp only [classify, isLate, hreturned, hsignalled, Bool.false_eq_true, if_false]
  exact ⟨congrArg Prod.fst hclassify, congrArg Prod.snd hclassify⟩

/-! ### Bodies that do not come to their second part -/

theorem ending_ne_returned (h : completes tl start budget grace arguments body = false) :
    (course tl start budget grace arguments body).ending ≠ .returned := by
  intro hreturned
  unfold completes at h
  rw [hreturned] at h
  cases h

/-- Up to its deadline as well, the body does not get to its end. -/
theorem courseBefore_ending_ne_returned
    (h : completes tl start budget grace arguments body = false) :
    (courseBefore tl start budget arguments body).ending ≠ .returned := by
  intro hreturned
  -- a body cut short at its deadline never gets beyond it
  have hstep : ∀ c ∈ body, ∀ n : Moment, n.now ≤ start + budget →
      (c.step.take (.unwatched tl (some (start + budget))) n).Holds
        (fun k => k.now ≤ start + budget) True :=
    fun c _ n hn => Step.take_unwatched_le hn c.step
  have hlast : (courseBefore tl start budget arguments body).last.now ≤ start + budget :=
    (runCommands_holds hstep (m := { now := start, arguments := arguments })
      (Nat.le_add_right _ _)).1
  have hend : ¬ (courseBefore tl start budget arguments body).ending.IsStuck := by
    rw [hreturned]
    exact id
  have hcourse : course tl start budget grace arguments body =
      courseBefore tl start budget arguments body := runCommands_eq_of_le hend hlast
  exact ending_ne_returned h (hcourse ▸ hreturned)

/-- Running a body under a deadline does not depend on what follows a first part that does not get
to its end. -/
theorem attempt_append {first : List Command}
    (h : completes tl start budget grace arguments first = false) (second : List Command) :
    attempt tl start budget grace arguments (first ++ second) =
      attempt tl start budget grace arguments first := by
  have hcourse : course tl start budget grace arguments (first ++ second) =
      course tl start budget grace arguments first :=
    runCommands_append_of_not_returned (ending_ne_returned h) second
  have hbefore : courseBefore tl start budget arguments (first ++ second) =
      courseBefore tl start budget arguments first :=
    runCommands_append_of_not_returned (courseBefore_ending_ne_returned h) second
  unfold attempt enforce
  rw [hcourse, hbefore]

end Deadline

end Timebox
