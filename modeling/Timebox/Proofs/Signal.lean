import Timebox.Proofs.Undisturbed

/-!
# What the signal and the limit do to a body

A body under a deadline differs from one that is left alone in two ways.  A limit changes nothing
about a course that ends by it, and it cuts any other course before the first step that would end
too late (`Deadline.runCommands_limited`).  And the signal finds a body that is not done by the
deadline at some step: before that step the body has noticed nothing, and that step and all that
follow find the signal set (`Deadline.runCommands_caught`).

The two are told apart by a body that is cancelled at its deadline and never abandoned
(`Deadline.lingering`): it is one whose signal is raised, and that no limit cuts.
-/

namespace Timebox

/-! ### Courses -/

theorem runCommands_cons_of_done {around : Surroundings} {c : Command} {cs : List Command}
    {m n : Moment} {v : StepValue} (h : c.step.take around m = .done v n) :
    runCommands around (c :: cs) m = (runCommands around cs n).noting c (.value v) n.now := by
  rw [runCommands, h]

/-- The course of a body whose next step is abandoned. -/
def Course.left (c : Course) : Course :=
  { c with ending := .abandoned }

theorem Course.noting_left (c : Course) (command : Command) (o : Outcome) (t : Nat) :
    c.left.noting command o t = (c.noting command o t).left := by
  unfold Course.noting
  split <;> rfl

theorem Course.noting_log {c d : Course} {l : List LogEntry} (h : c.log = d.log ++ l)
    (command : Command) (o : Outcome) (t : Nat) :
    (c.noting command o t).log = (d.noting command o t).log ++ l := by
  unfold Course.noting
  split
  · rw [h, List.cons_append]
  · exact h

/-- Time goes on from the end of the first part of a body. -/
theorem runCommands_append_le_now (around : Surroundings) (first second : List Command)
    (m : Moment) : (runCommands around first m).last.now ≤
      (runCommands around (first ++ second) m).last.now := by
  induction first generalizing m with
  | nil => exact runCommands_le_now around second m
  | cons c cs ih =>
    rw [List.cons_append]
    unfold runCommands
    split
    · next v n _ =>
      rw [Course.noting_last, Course.noting_last]
      exact ih n
    · exact Nat.le_refl _
    · exact Nat.le_refl _
    · exact Nat.le_refl _

/-! ### Signals that stay -/

/-- A step does not take the signal back. -/
theorem Step.take_cancelled {around : Surroundings} {m : Moment} (hm : m.cancelled = true)
    (step : Step) : (step.take around m).Holds (fun n => n.cancelled = true) True := by
  -- a set signal ends an idle step at once, and letting time pass does not reset it
  have hidle : ∀ ms, (m.idleStep around ms).Holds (fun n => n.cancelled = true) True := by
    intro ms
    have hmoment : (m.idle around.signal ms).2 = m := by
      unfold Moment.idle
      rw [if_pos hm]
      split <;> rfl
    unfold Moment.idleStep
    split
    · dsimp only
      split
      · trivial
      · show (m.idle around.signal ms).2.cancelled = true
        rw [hmoment]
        exact hm
    · exact hm
  have hpass : ∀ t, (m.pass around.signal t).cancelled = true := by
    intro t
    unfold Moment.pass
    split
    · rfl
    · exact hm
  cases step with
  | idle ms => exact hidle ms
  | idleArgument key default =>
    simp only [Step.take]
    split
    · exact hm
    · exact hidle _
  | busy ms =>
    simp only [Step.take]
    split
    · split
      · trivial
      · exact hpass _
    · exact hpass _
  | idleLoop span =>
    simp only [Step.take, Moment.loopStep, if_pos hm]
    split <;> exact hm
  | check =>
    simp only [Step.take]
    split <;> exact hm
  | isCancelled => exact hm
  | cancel => exact rfl
  | clock => exact hm
  | arguments => exact hm
  | raise fault => exact hm
  | operate op => exact Reply.stepEnd_holds _ fun _ => hm

/-- Once the signal is set, it is set until the end of the body. -/
theorem runCommands_cancelled (around : Surroundings) (body : List Command) {m : Moment}
    (hm : m.cancelled = true) : (runCommands around body m).last.cancelled = true := by
  have hstep : ∀ c ∈ body, ∀ n : Moment, n.cancelled = true →
      (c.step.take around n).Holds (fun k => k.cancelled = true) True :=
    fun c _ _ hn => c.step.take_cancelled hn
  exact (runCommands_holds hstep hm).1

/-- Once the signal has been raised from outside, it stays so. -/
theorem runCommands_stays_signalled (around : Surroundings) (body : List Command) {m : Moment}
    (hm : m.signalled = true) : (runCommands around body m).last.signalled = true := by
  have hstep : ∀ c ∈ body, ∀ n : Moment, n.signalled = true →
      (c.step.take around n).Holds (fun k => k.signalled = true) True := by
    intro c _ n hn
    refine (c.step.take_proceeds around n).imp fun k hk => ?_
    cases hk with
    | still _ hsignalled => exact hsignalled.trans hn
    | on _ hsignalled _ => exact hsignalled.trans hn
    | signalled _ _ _ _ hsignalled => exact hsignalled
  exact (runCommands_holds hstep hm).1

/-! ### Bodies that are never abandoned -/

/-- A watchdog raises the signal at a deadline and then waits for as long as it takes. -/
def Surroundings.patient (tl : Timeline) (deadline : Nat) : Surroundings :=
  { timeline := tl, signal := some { instant := deadline, leads := false }, limit := none }

/-- The moment at which a step ends that is under way when the signal is raised: one that listens
ends at once, one that works goes on to its end. -/
def Step.caughtAt (deadline : Nat) (m : Moment) : Step → Moment
  | busy ms => { m with now := m.now + ms.toNat, cancelled := true, signalled := true }
  | _ => { m with now := deadline, cancelled := true, signalled := true }

/-- What a step answers that is under way when the signal is raised: an idle says that the signal is
set, and a loop of idles how many of them it took until one said so. -/
def Step.caughtValue (deadline : Nat) (m : Moment) : Step → StepValue
  | busy _ => .nothing
  | idleLoop span => .calls (Signal.loopCalls ⟨deadline, false⟩ m.now span)
  | _ => .flag true

theorem Step.caughtAt_cancelled (deadline : Nat) (m : Moment) (step : Step) :
    (step.caughtAt deadline m).cancelled = true := by
  cases step <;> rfl

theorem Step.caughtAt_signalled (deadline : Nat) (m : Moment) (step : Step) :
    (step.caughtAt deadline m).signalled = true := by
  cases step <;> rfl

namespace Deadline

variable {tl : Timeline} {start budget grace : Nat} {arguments : Arguments} {body : List Command}
  {m : Moment}

/-- The course of a body that is cancelled at its deadline and is never abandoned. -/
def lingering (tl : Timeline) (start budget : Nat) (arguments : Arguments) (body : List Command) :
    Course :=
  runCommands (.patient tl (start + budget)) body { now := start, arguments := arguments }

/-- A step under a deadline is that of a body that is never abandoned, if it ends by the end of the
grace period; otherwise it is abandoned. -/
inductive Limited (limit : Nat) : StepEnd → StepEnd → Prop
  | done (v : StepValue) (n : Moment) (h : n.now ≤ limit) : Limited limit (.done v n) (.done v n)
  | raised (f : Fault) (n : Moment) (h : n.now ≤ limit) :
    Limited limit (.raised f n) (.raised f n)
  | abandoned (v : StepValue) (n : Moment) (h : limit < n.now) :
    Limited limit .abandoned (.done v n)

theorem idleStep_limited (hm : m.now ≤ start + budget + grace) (ms : Int) :
    Limited (start + budget + grace) (m.idleStep (surroundings tl start budget grace) ms)
      (m.idleStep (.patient tl (start + budget)) ms) := by
  unfold Moment.idleStep
  split
  · -- the two surroundings differ in their limits only
    show Limited _
      (if (some (start + budget + grace)).any
          (· < (m.idle (some ⟨start + budget, false⟩) ms).2.now) then StepEnd.abandoned
        else .done (.flag (m.idle (some ⟨start + budget, false⟩) ms).1)
          (m.idle (some ⟨start + budget, false⟩) ms).2)
      (.done (.flag (m.idle (some ⟨start + budget, false⟩) ms).1)
        (m.idle (some ⟨start + budget, false⟩) ms).2)
    split
    · next h => exact .abandoned _ _ (by simpa using h)
    · next h => exact .done _ _ (Nat.le_of_not_lt (by simpa using h))
  · exact .raised _ _ hm

theorem loopStep_limited (tl : Timeline) (hm : m.now ≤ start + budget + grace) (span : Span) :
    Limited (start + budget + grace) (m.loopStep (surroundings tl start budget grace) span)
      (m.loopStep (.patient tl (start + budget)) span) := by
  unfold Moment.loopStep
  split
  · split
    · exact .done _ _ hm
    · refine .done _ _ ?_
      -- the signal comes no later than the limit
      show max m.now (start + budget) ≤ _
      omega
  · exact .raised _ _ hm

/-- A step under a deadline. -/
theorem take_limited (hm : m.now ≤ start + budget + grace) (step : Step) :
    Limited (start + budget + grace) (step.take (surroundings tl start budget grace) m)
      (step.take (.patient tl (start + budget)) m) := by
  cases step with
  | idle ms => exact idleStep_limited hm ms
  | idleArgument key default =>
    simp only [Step.take]
    split
    · exact .raised _ _ hm
    · exact idleStep_limited hm _
  | busy ms =>
    -- the signal does not end a busy step, so it may run beyond the limit
    have hnow : (m.pass (some ⟨start + budget, false⟩) (m.now + ms.toNat)).now =
        m.now + ms.toNat := by
      unfold Moment.pass
      split <;> rfl
    simp only [Step.take, surroundings, Surroundings.patient]
    split
    · next h => exact .abandoned _ _ (by rw [hnow]; exact h)
    · next h => exact .done _ _ (by rw [hnow]; exact Nat.le_of_not_lt h)
  | idleLoop span => exact loopStep_limited tl hm span
  | check =>
    simp only [Step.take]
    split
    · exact .raised _ _ hm
    · exact .done _ _ hm
  | isCancelled => exact .done _ _ hm
  | cancel => exact .done _ _ hm
  | clock => exact .done _ _ hm
  | arguments => exact .done _ _ hm
  | raise fault => exact .raised _ _ hm
  | operate op =>
    simp only [Step.take, Reply.stepEnd]
    split
    · exact .raised _ _ hm
    · exact .done _ _ hm
    · exact .done _ _ hm

/-! ### Courses that a limit cuts -/

/-- A course is cut at a limit: the body is left after its first part, which ends by the limit; the
step that comes next would end after it. -/
structure CutAt (tl : Timeline) (deadline limit : Nat) (body : List Command) (m : Moment)
    (first : List Command) (next : Command) (rest : List Command) (c : Course) : Prop where
  split : body = first ++ next :: rest
  returned : (runCommands (.patient tl deadline) first m).ending = .returned
  inTime : (runCommands (.patient tl deadline) first m).last.now ≤ limit
  tooLate : limit < (runCommands (.patient tl deadline) (first ++ [next]) m).last.now
  course : c = (runCommands (.patient tl deadline) first m).left

/-- A limit changes nothing about a course that ends by it, and it cuts any other one. -/
theorem runCommands_limited (body : List Command) (hm : m.now ≤ start + budget + grace) :
    (runCommands (.patient tl (start + budget)) body m).last.now ≤ start + budget + grace ∧
        runCommands (surroundings tl start budget grace) body m =
          runCommands (.patient tl (start + budget)) body m ∨
      ∃ first next rest, CutAt tl (start + budget) (start + budget + grace) body m first next rest
        (runCommands (surroundings tl start budget grace) body m) := by
  induction body generalizing m with
  | nil => exact Or.inl ⟨hm, rfl⟩
  | cons c cs ih =>
    have htake : Limited (start + budget + grace)
        (c.step.take (surroundings tl start budget grace) m)
        (c.step.take (.patient tl (start + budget)) m) := take_limited hm c.step
    generalize hl : c.step.take (surroundings tl start budget grace) m = limited at htake
    generalize hp : c.step.take (.patient tl (start + budget)) m = patient at htake
    -- a step that is done by the limit leaves the rest to the induction
    cases htake with
    | done v n hn =>
      rw [runCommands_cons_of_done hl, runCommands_cons_of_done hp, Course.noting_last]
      rcases ih hn with ⟨hlast, hcourse⟩ | ⟨first, next, rest, h⟩
      · exact Or.inl ⟨hlast, by rw [hcourse]⟩
      · refine Or.inr ⟨c :: first, next, rest, ?_⟩
        refine ⟨by rw [h.split, List.cons_append], ?_, ?_, ?_, ?_⟩
        · rw [runCommands_cons_of_done hp, Course.noting_ending, h.returned]
        · rw [runCommands_cons_of_done hp, Course.noting_last]
          exact h.inTime
        · rw [List.cons_append, runCommands_cons_of_done hp, Course.noting_last]
          exact h.tooLate
        · rw [runCommands_cons_of_done hp, h.course, Course.noting_left]
    | raised f n hn =>
      refine Or.inl ⟨?_, ?_⟩
      · rw [runCommands, hp, Course.noting_last]
        exact hn
      · rw [runCommands, runCommands, hl, hp]
    | abandoned v n hn =>
      refine Or.inr ⟨[], c, cs, rfl, rfl, hm, ?_, ?_⟩
      · rw [List.nil_append, runCommands_cons_of_done hp, Course.noting_last]
        exact hn
      · simp only [runCommands, hl, Course.left]

/-- A body that is never abandoned ends: the signal ends its loops. -/
theorem runCommands_patient_ends (tl : Timeline) (deadline : Nat) (body : List Command)
    (m : Moment) : ¬ (runCommands (.patient tl deadline) body m).ending.IsStuck := by
  have hstep : ∀ c ∈ body, ∀ n : Moment, True →
      (c.step.take (.patient tl deadline) n).Holds (fun _ => True) False := by
    intro c _ n _
    refine c.step.take_holds (fun _ _ _ => trivial) (fun ms => ?_) (fun span => ?_) fun ms _ => ?_
    · unfold Moment.idleStep
      split <;> exact trivial
    · unfold Moment.loopStep
      split
      · split <;> exact trivial
      · exact trivial
    · exact trivial
  exact (runCommands_holds hstep (m := m) trivial).2

/-! ### Where the signal finds a body -/

/-- The step ends by the deadline if it is left alone. -/
def EndsBy (tl : Timeline) (deadline : Nat) (m : Moment) (step : Step) : Prop :=
  (step.take (.unwatched tl none) m).Holds (fun n => n.now ≤ deadline) False

/-- A step that ends by the deadline if it is left alone does not see the signal. -/
theorem take_patient_eq {step : Step} (hm : m.now ≤ start + budget)
    (h : EndsBy tl (start + budget) m step) :
    step.take (.patient tl (start + budget)) m = step.take (.unwatched tl none) m := by
  have htake : step.take (surroundings tl start budget 0) m = step.take (.unwatched tl none) m :=
    take_eq_of_le h
  unfold EndsBy at h
  have hlimited : Limited (start + budget + 0) (step.take (.unwatched tl none) m)
      (step.take (.patient tl (start + budget)) m) := htake ▸ take_limited hm step
  generalize step.take (.unwatched tl none) m = alone at h hlimited ⊢
  generalize step.take (.patient tl (start + budget)) m = patient at hlimited ⊢
  cases hlimited with
  | done v n hn => rfl
  | raised f n hn => rfl
  | abandoned v n hn => exact h.elim

/-- An idle that is under way at the deadline ends there. -/
theorem idleStep_caught {ms : Int} (hm : m.now ≤ start + budget)
    (h : ¬ (m.idleStep (.unwatched tl none) ms).Holds (fun n => n.now ≤ start + budget) False) :
    m.idleStep (.patient tl (start + budget)) ms = .done (.flag true)
      { m with now := start + budget, cancelled := true, signalled := true } := by
  unfold Moment.idleStep at h ⊢
  split at h
  · next hms =>
    rw [if_pos hms]
    -- left alone the step would end after the deadline, so the signal comes first
    have hstop : start + budget < (m.idle none ms).2.now := Nat.lt_of_not_le h
    have hcut : m.idle (some ⟨start + budget, false⟩) ms =
        (true, m.cutAt ⟨start + budget, false⟩) := by
      unfold Moment.idle at hstop ⊢
      split at hstop
      · exact absurd hm (Nat.not_le.mpr hstop)
      · split at hstop
        · exact absurd hm (Nat.not_le.mpr hstop)
        · next hpositive hcancelled =>
          rw [if_neg hpositive, if_neg hcancelled]
          have hprecedes : Signal.precedes ⟨start + budget, false⟩ (m.now + ms.toNat) = true :=
            decide_eq_true hstop
          simp only [hprecedes, if_true]
    simp only [Surroundings.patient, hcut, Option.any_none, Moment.cutAt, Nat.max_eq_right hm,
      Bool.false_eq_true, if_false]
  · exact absurd hm h

/-- A step that does not end by the deadline if it is left alone sees the signal. -/
theorem take_caught {step : Step} (hm : m.now ≤ start + budget)
    (h : ¬ EndsBy tl (start + budget) m step) :
    start + budget ≤ (step.caughtAt (start + budget) m).now ∧
      step.take (.patient tl (start + budget)) m =
        .done (step.caughtValue (start + budget) m) (step.caughtAt (start + budget) m) := by
  unfold EndsBy at h
  cases step with
  | idle ms => exact ⟨Nat.le_refl _, idleStep_caught hm h⟩
  | idleArgument key default =>
    refine ⟨Nat.le_refl _, ?_⟩
    simp only [Step.take] at h ⊢
    split at h
    · exact absurd hm h
    · exact idleStep_caught hm h
  | busy ms =>
    have hstop : start + budget < m.now + ms.toNat := Nat.lt_of_not_le h
    refine ⟨Nat.le_of_lt hstop, ?_⟩
    have hraised : raisedBy (some ⟨start + budget, false⟩) (m.now + ms.toNat) = true :=
      decide_eq_true hstop
    simp only [Step.take, Surroundings.patient, Moment.pass, hraised, if_true, Step.caughtAt,
      Step.caughtValue]
  | idleLoop span =>
    refine ⟨Nat.le_refl _, ?_⟩
    simp only [Step.take, Moment.loopStep] at h ⊢
    split at h
    · next hspan =>
      rw [if_pos hspan]
      split at h
      · exact absurd hm h
      · next hcancelled =>
        rw [if_neg hcancelled]
        simp only [Surroundings.patient, Moment.cutAt, Nat.max_eq_right hm, Step.caughtAt,
          Step.caughtValue]
    · exact absurd hm h
  | check =>
    -- the remaining steps take no time, and so they end by the deadline
    refine absurd ?_ h
    simp only [Step.take]
    split <;> exact hm
  | isCancelled => exact absurd hm h
  | cancel => exact absurd hm h
  | clock => exact absurd hm h
  | arguments => exact absurd hm h
  | raise fault => exact absurd hm h
  | operate op =>
    have hreply : ((op.run { arguments := m.arguments }).1.stepEnd m).Holds
        (fun n => n.now ≤ start + budget) False := Reply.stepEnd_holds _ fun _ => hm
    exact absurd hreply h

/-- The course ends, and it does so by the deadline. -/
def DoneBy (deadline : Nat) (c : Course) : Prop :=
  ¬ c.ending.IsStuck ∧ c.last.now ≤ deadline

/-- Where the signal finds a body: at a step, with its answer, between those that have been taken
and those that have not. -/
structure Catch where
  before : List Command
  step : Command
  value : StepValue
  after : List Command

namespace Catch

/-- The course up to the step that is caught: nobody has raised a signal yet. -/
def alone (x : Catch) (tl : Timeline) (m : Moment) : Course :=
  runCommands (.unwatched tl none) x.before m

/-- Where the body stands after the step that is caught. -/
def resumed (x : Catch) (tl : Timeline) (deadline : Nat) (m : Moment) : Moment :=
  x.step.step.caughtAt deadline (x.alone tl m).last

/-- The course from the step on that is caught. -/
def remainder (x : Catch) (tl : Timeline) (deadline : Nat) (m : Moment) : Course :=
  (runCommands (.patient tl deadline) x.after (x.resumed tl deadline m)).noting x.step
    (.value x.value) (x.resumed tl deadline m).now

/-- The signal is raised at a deadline while the body is at a step.  Up to there the body takes the
course that it takes if it is left alone; that step, and all that follow, find the signal set. -/
structure Splits (x : Catch) (tl : Timeline) (deadline : Nat) (body : List Command) (m : Moment)
    (c : Course) : Prop where
  body : body = x.before ++ x.step :: x.after
  returned : (x.alone tl m).ending = .returned
  inTime : (x.alone tl m).last.now ≤ deadline
  underWay : ¬ EndsBy tl deadline (x.alone tl m).last x.step.step
  late : deadline ≤ (x.resumed tl deadline m).now
  cancelled : ∀ first second, x.after = first ++ second →
    (runCommands (.patient tl deadline) first (x.resumed tl deadline m)).last.cancelled = true
  ending : c.ending = (x.remainder tl deadline m).ending
  last : c.last = (x.remainder tl deadline m).last
  log : c.log = (x.alone tl m).log ++ (x.remainder tl deadline m).log

/-- The step that is caught gives this answer. -/
def Answers (x : Catch) (tl : Timeline) (deadline : Nat) (m : Moment) : Prop :=
  x.value = x.step.step.caughtValue deadline (x.alone tl m).last

section Cons

variable {x : Catch} {tl : Timeline} {deadline : Nat} {body : List Command} {m n : Moment}
  {c : Course} {command : Command} {v : StepValue}

theorem alone_cons (x : Catch) (htake : command.step.take (.unwatched tl none) m = .done v n) :
    { x with before := command :: x.before : Catch }.alone tl m =
      (x.alone tl n).noting command (.value v) n.now :=
  runCommands_cons_of_done htake

/-- A step that ends before the signal is raised belongs to the first part. -/
theorem Splits.cons (h : x.Splits tl deadline body n c)
    (htake : command.step.take (.unwatched tl none) m = .done v n) :
    { x with before := command :: x.before : Catch }.Splits tl deadline (command :: body) m
      (c.noting command (.value v) n.now) := by
  -- the step under way is the same one, with one more step before it
  have hresumed : { x with before := command :: x.before : Catch }.resumed tl deadline m =
      x.resumed tl deadline n := by
    unfold resumed
    rw [alone_cons x htake, Course.noting_last]
  have hremainder : { x with before := command :: x.before : Catch }.remainder tl deadline m =
      x.remainder tl deadline n := by
    unfold remainder
    rw [hresumed]
  exact {
    body := by rw [h.body, List.cons_append]
    returned := by rw [alone_cons x htake, Course.noting_ending, h.returned]
    inTime := by rw [alone_cons x htake, Course.noting_last]; exact h.inTime
    underWay := by rw [alone_cons x htake, Course.noting_last]; exact h.underWay
    late := by rw [hresumed]; exact h.late
    cancelled := by rw [hresumed]; exact h.cancelled
    ending := by rw [hremainder, Course.noting_ending, h.ending]
    last := by rw [hremainder, Course.noting_last, h.last]
    log := by rw [hremainder, alone_cons x htake]; exact Course.noting_log h.log _ _ _ }

theorem Answers.cons (h : x.Answers tl deadline n)
    (htake : command.step.take (.unwatched tl none) m = .done v n) :
    { x with before := command :: x.before : Catch }.Answers tl deadline m := by
  unfold Answers
  rw [alone_cons x htake, Course.noting_last]
  exact h

end Cons

end Catch

/-- The signal catches a body that is not done by the deadline if it is left alone. -/
theorem runCommands_caught (body : List Command) (hm : m.now ≤ start + budget)
    (h : ¬ DoneBy (start + budget) (runCommands (.unwatched tl none) body m)) :
    ∃ x : Catch, x.Splits tl (start + budget) body m
        (runCommands (.patient tl (start + budget)) body m) ∧
      x.Answers tl (start + budget) m := by
  induction body generalizing m with
  | nil => exact absurd ⟨id, hm⟩ h
  | cons c cs ih =>
    -- the first step that does not end by the deadline is the one that is caught
    by_cases hstep : EndsBy tl (start + budget) m c.step
    · have htake := take_patient_eq hm hstep
      unfold EndsBy at hstep
      cases hc : c.step.take (.unwatched tl none) m with
      | done v n =>
        rw [hc] at htake hstep
        rw [runCommands_cons_of_done hc, DoneBy, Course.noting_ending, Course.noting_last] at h
        obtain ⟨x, hx, hanswer⟩ := ih hstep h
        rw [runCommands_cons_of_done htake]
        exact ⟨_, hx.cons hc, hanswer.cons hc⟩
      | raised f n =>
        rw [hc] at hstep
        refine absurd ⟨?_, ?_⟩ h
        · rw [runCommands, hc, Course.noting_ending]
          exact id
        · rw [runCommands, hc, Course.noting_last]
          exact hstep
      | abandoned =>
        rw [hc] at hstep
        exact hstep.elim
      | endless =>
        rw [hc] at hstep
        exact hstep.elim
    · obtain ⟨hlate, htake⟩ := take_caught hm hstep
      rw [runCommands_cons_of_done htake]
      exact ⟨⟨[], c, c.step.caughtValue (start + budget) m, cs⟩, {
        body := rfl
        returned := rfl
        inTime := hm
        underWay := hstep
        late := hlate
        cancelled := fun first _ _ =>
          runCommands_cancelled _ first (c.step.caughtAt_cancelled (start + budget) m)
        ending := rfl
        last := rfl
        log := rfl }, rfl⟩

end Deadline

end Timebox
