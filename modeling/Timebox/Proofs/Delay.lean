import Timebox.Deadline

/-!
# Bodies do not notice when they start

A body under a deadline that starts some milliseconds later, and on whatever timeline, takes the
same steps some milliseconds later.  It may read another time off the clock, but what it reads goes
into the log and nowhere else.  So it ends in the same way, with the same arguments and the same
verdict, but for the time that this took (`Deadline.judge`).

A single step is delayed with the moment in which it starts and with its surroundings
(`Step.take_delayed`), and with its steps a body is (`runCommands_delayed`).
-/

namespace Timebox

/-! ### Moments and signals -/

/-- The signal some milliseconds later. -/
def Signal.delay (s : Signal) (d : Nat) : Signal :=
  { s with instant := s.instant + d }

/-- The moment some milliseconds later. -/
def Moment.delay (m : Moment) (d : Nat) : Moment :=
  { m with now := m.now + d }

/-- The signal and the limit come some milliseconds later. -/
structure Surroundings.Delayed (d : Nat) (around' around : Surroundings) : Prop where
  signal : around'.signal = around.signal.map (·.delay d)
  limit : around'.limit = around.limit.map (· + d)

section

variable {d : Nat}

theorem Signal.precedes_delay (s : Signal) (t : Nat) :
    (s.delay d).precedes (t + d) = s.precedes t := by
  unfold Signal.precedes Signal.delay
  simp only [Nat.add_le_add_iff_right, Nat.add_lt_add_iff_right]

theorem raisedBy_delay (signal : Option Signal) (t : Nat) :
    raisedBy (signal.map (·.delay d)) (t + d) = raisedBy signal t := by
  cases signal with
  | none => rfl
  | some s => exact s.precedes_delay t

namespace Moment

variable (m : Moment)

theorem cutAt_delay (s : Signal) : (m.delay d).cutAt (s.delay d) = (m.cutAt s).delay d := by
  unfold cutAt delay Signal.delay
  rw [Nat.add_max_add_right]

theorem pass_delay (signal : Option Signal) (t : Nat) :
    (m.delay d).pass (signal.map (·.delay d)) (t + d) = (m.pass signal t).delay d := by
  unfold pass
  rw [raisedBy_delay]
  split <;> rfl

/-- An idle that starts later ends later, and is cut short just as well. -/
theorem idle_delay (signal : Option Signal) (ms : Int) :
    (m.delay d).idle (signal.map (·.delay d)) ms =
      ((m.idle signal ms).1, (m.idle signal ms).2.delay d) := by
  have hstop : (m.delay d).now + ms.toNat = m.now + ms.toNat + d := Nat.add_right_comm ..
  have hcancelled : (m.delay d).cancelled = m.cancelled := rfl
  unfold idle
  rw [hstop, hcancelled]
  split
  · rfl
  · split
    · rfl
    · -- the signal comes as much later as the end of the idle
      cases signal with
      | none => rfl
      | some s =>
        dsimp only [Option.map_some]
        rw [s.precedes_delay, m.cutAt_delay]
        split <;> rfl

end Moment

/-! ### Single steps -/

/-- The step ends in the same way some milliseconds later.  It may give another answer: that is what
a step does that looks at the clock. -/
inductive StepEnd.Delayed (d : Nat) : StepEnd → StepEnd → Prop
  | done (v' v : StepValue) (m : Moment) : Delayed d (.done v' (m.delay d)) (.done v m)
  | raised (f : Fault) (m : Moment) : Delayed d (.raised f (m.delay d)) (.raised f m)
  | abandoned : Delayed d .abandoned .abandoned
  | endless : Delayed d .endless .endless

variable {around around' : Surroundings} (h : around'.Delayed d around) (m : Moment)

theorem Reply.stepEnd_delayed (r : Reply) :
    (r.stepEnd (m.delay d)).Delayed d (r.stepEnd m) := by
  cases r with
  | fault f after => exact .raised f { m with arguments := after }
  | value v after => exact .done _ _ { m with arguments := after }
  | block inner outcome after => exact .done _ _ { m with arguments := after }

include h

theorem Surroundings.Delayed.any_limit (t : Nat) :
    around'.limit.any (· < t + d) = around.limit.any (· < t) := by
  rw [h.limit]
  cases around.limit with
  | none => rfl
  | some limit => simp

theorem Moment.idleStep_delayed (ms : Int) :
    ((m.delay d).idleStep around' ms).Delayed d (m.idleStep around ms) := by
  unfold Moment.idleStep
  split
  · rw [h.signal, m.idle_delay]
    have hlimit : around'.limit.any (· < ((m.idle around.signal ms).2.delay d).now) =
        around.limit.any (· < (m.idle around.signal ms).2.now) := h.any_limit _
    dsimp only
    rw [hlimit]
    split
    · exact .abandoned
    · exact .done _ _ _
  · exact .raised _ m

theorem Moment.loopStep_delayed (span : Span) :
    ((m.delay d).loopStep around' span).Delayed d (m.loopStep around span) := by
  have hcancelled : (m.delay d).cancelled = m.cancelled := rfl
  unfold Moment.loopStep
  rw [hcancelled, h.signal]
  split
  · split
    · exact .done _ _ m
    · cases around.signal with
      | none => exact .endless
      | some s =>
        dsimp only [Option.map_some]
        rw [m.cutAt_delay]
        exact .done _ _ _
  · exact .raised _ m

/-- A step that starts later, in surroundings that are as much later, ends as much later. -/
theorem Step.take_delayed (step : Step) :
    (step.take around' (m.delay d)).Delayed d (step.take around m) := by
  cases step with
  | idle ms => exact m.idleStep_delayed h ms
  | idleArgument key default =>
    have harguments : (m.delay d).arguments = m.arguments := rfl
    simp only [Step.take]
    rw [harguments]
    split
    · exact .raised _ m
    · exact m.idleStep_delayed h _
  | busy ms =>
    -- the instant at which the step ends is delayed, and so are the signal and the limit
    have hstop : (m.delay d).now + ms.toNat = m.now + ms.toNat + d := Nat.add_right_comm ..
    have hpass : (m.delay d).pass around'.signal (m.now + ms.toNat + d) =
        (m.pass around.signal (m.now + ms.toNat)).delay d := by
      rw [h.signal]
      exact m.pass_delay _ _
    simp only [Step.take]
    rw [hstop, hpass, h.limit]
    cases around.limit with
    | none => exact .done _ _ _
    | some limit =>
      simp only [Option.map_some, Nat.add_lt_add_iff_right]
      split
      · exact .abandoned
      · exact .done _ _ _
  | idleLoop span => exact m.loopStep_delayed h span
  | check =>
    have hcancelled : (m.delay d).cancelled = m.cancelled := rfl
    simp only [Step.take]
    rw [hcancelled]
    split
    · exact .raised _ m
    · exact .done _ _ m
  | isCancelled => exact .done _ _ m
  | cancel => exact .done _ _ { m with cancelled := true }
  | clock => exact .done _ _ m
  | arguments => exact .done _ _ m
  | raise f => exact .raised f m
  | operate op => exact Reply.stepEnd_delayed m _

/-! ### Bodies -/

omit h

/-- The course ends in the same way some milliseconds later. -/
structure Course.Delayed (d : Nat) (c' c : Course) : Prop where
  ending : c'.ending = c.ending
  last : c'.last = c.last.delay d

theorem Course.Delayed.noting {c' c : Course} (h : c'.Delayed d c) (command : Command)
    (o' o : Outcome) (t' t : Nat) :
    (c'.noting command o' t').Delayed d (c.noting command o t) := by
  unfold Course.noting
  split
  · exact ⟨h.ending, h.last⟩
  · exact h

include h in
/-- A body that starts later, in surroundings that are as much later, ends as much later. -/
theorem runCommands_delayed (body : List Command) :
    (runCommands around' body (m.delay d)).Delayed d (runCommands around body m) := by
  induction body generalizing m with
  | nil => exact ⟨rfl, rfl⟩
  | cons c cs ih =>
    -- the answers of the two steps may differ, but nothing except the log gets to see them
    have hstep := c.step.take_delayed h m
    unfold runCommands
    generalize c.step.take around' (m.delay d) = e' at hstep ⊢
    generalize c.step.take around m = e at hstep ⊢
    cases hstep with
    | done v' v n => exact (ih n).noting c _ _ _ _
    | raised f n =>
      have hraised : Course.Delayed d { ending := .raised f, last := n.delay d, log := [] }
          { ending := .raised f, last := n, log := [] } := ⟨rfl, rfl⟩
      exact hraised.noting c _ _ _ _
    | abandoned => exact ⟨rfl, rfl⟩
    | endless => exact ⟨rfl, rfl⟩

end

/-! ### Deadlines -/

/-- What is left of a body under its deadline, but for the time that it took. -/
structure Judgement where
  status : Status
  fault : Option Fault
  arguments : Arguments

/-- The judgement on a body whose deadline has been enforced. -/
def Enforced.judgement (e : Enforced) : Judgement :=
  { status := e.verdict.status, fault := e.verdict.fault, arguments := e.arguments }

namespace Deadline

/-- The judgement on a body under a deadline, if that can be enforced.  It is the same at whatever
instant the body starts, and on whatever timeline. -/
def judge (budget grace : Nat) (arguments : Arguments) (body : List Command) : Option Judgement :=
  (attempt .steady 0 budget grace arguments body).toOption.map Enforced.judgement

variable (tl : Timeline) (start budget grace : Nat) (arguments : Arguments) (body : List Command)

theorem surroundings_delayed :
    (surroundings tl start budget grace).Delayed start (surroundings .steady 0 budget grace) := by
  constructor
  · show some (Signal.mk (start + budget) false) = some (Signal.mk (0 + budget + start) false)
    rw [Nat.zero_add, Nat.add_comm]
  · show some (start + budget + grace) = some (0 + budget + grace + start)
    congr 1
    omega

theorem course_delayed : (course tl start budget grace arguments body).Delayed start
    (course .steady 0 budget grace arguments body) := by
  have hcourse := runCommands_delayed (surroundings_delayed tl start budget grace)
    { now := 0, arguments := arguments } body
  have hstart : ({ now := 0, arguments := arguments } : Moment).delay start =
      { now := start, arguments := arguments } := by
    unfold Moment.delay
    rw [Nat.zero_add]
  rw [hstart] at hcourse
  exact hcourse

variable {d : Nat} {c' c : Course} (h : c'.Delayed d c)

include h in
theorem isLate_delayed : isLate c' = isLate c := by
  unfold isLate
  rw [h.ending, h.last]
  rfl

include h in
theorem classify_delayed : classify budget c' = classify budget c := by
  unfold classify
  rw [isLate_delayed h, h.ending, h.last]
  rfl

/-- Whether a body gets to its end does not depend on when it starts. -/
theorem completes_eq : completes tl start budget grace arguments body =
    completes .steady 0 budget grace arguments body := by
  unfold completes
  rw [(course_delayed tl start budget grace arguments body).ending]

theorem enforce_judgement : (enforce tl start budget grace arguments body).judgement =
    (enforce .steady 0 budget grace arguments body).judgement := by
  have hcourse := course_delayed tl start budget grace arguments body
  unfold enforce Enforced.judgement
  dsimp only
  rw [classify_delayed budget hcourse, hcourse.last]
  rfl

/-- Whether a deadline can be enforced, and what the judgement is if it can, does not depend on when
the body starts. -/
theorem judge_eq : judge budget grace arguments body =
    (attempt tl start budget grace arguments body).toOption.map Enforced.judgement := by
  -- whether the deadline is enforced depends on the course only through its being late
  have hlate := isLate_delayed (course_delayed tl start budget grace arguments body)
  unfold judge attempt
  rw [hlate]
  split
  · rfl
  · split
    · rfl
    · exact congrArg some (enforce_judgement tl start budget grace arguments body).symm

variable {tl start budget grace arguments body}

theorem judge_of_ok {e : Enforced} (h : attempt tl start budget grace arguments body = .ok e) :
    judge budget grace arguments body = some e.judgement := by
  rw [judge_eq tl start, h]
  rfl

theorem judge_of_error {u : Unenforced}
    (h : attempt tl start budget grace arguments body = .error u) :
    judge budget grace arguments body = none := by
  rw [judge_eq tl start, h]
  rfl

end Deadline

end Timebox
