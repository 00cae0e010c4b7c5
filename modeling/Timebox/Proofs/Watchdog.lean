import Timebox.Proofs.Signal

/-!
# When the watchdog returns

How a body fares under a deadline is settled by the time that it needs if it is left alone
(`Deadline.need`).  A body that needs no more than its deadline allows is done when it would be done
anyway, and its verdict is its own.  Any other body is cancelled at its deadline; from there on it
takes the course of a body that is cancelled and never abandoned (`Deadline.lingering`), and the
watchdog returns when that course ends, or at the end of the grace period if it does not end by then
(`Deadline.attempt_timing`).
-/

namespace Timebox

namespace Deadline

variable {tl : Timeline} {start budget grace : Nat} {arguments : Arguments} {body : List Command}
  {m : Moment}

/-! ### The time that a body needs -/

/-- The time that a body needs if it is left alone; none if it never ends. -/
def need (tl : Timeline) (start : Nat) (arguments : Arguments) (body : List Command) :
    Option Nat :=
  match (undisturbed tl start arguments body).ending with
  | .abandoned => none
  | .endless => none
  | _ => some ((undisturbed tl start arguments body).last.now - start)

theorem need_eq_some {f : Nat} (h : need tl start arguments body = some f) :
    ¬ (undisturbed tl start arguments body).ending.IsStuck ∧
      (undisturbed tl start arguments body).last.now = start + f := by
  have hle : start ≤ (undisturbed tl start arguments body).last.now :=
    runCommands_le_now (.unwatched tl none) body { now := start, arguments := arguments }
  unfold need at h
  split at h
  · cases h
  · cases h
  · next habandoned hendless =>
    have hf := Option.some.inj h
    refine ⟨fun hstuck => ?_, by omega⟩
    unfold Ending.IsStuck at hstuck
    split at hstuck
    · next hend => exact habandoned hend
    · next hend => exact hendless hend
    · exact hstuck

theorem need_of_ends (h : ¬ (undisturbed tl start arguments body).ending.IsStuck) :
    need tl start arguments body =
      some ((undisturbed tl start arguments body).last.now - start) := by
  unfold need
  split
  · next hend => exact absurd (hend ▸ trivial) h
  · next hend => exact absurd (hend ▸ trivial) h
  · rfl

/-! ### What the watchdog leaves -/

/-- What is left of a body that needs no more time than it has: it took the course that it takes if
it is left alone, and its verdict is its own. -/
structure InTime (start budget f : Nat) (alone : Course) (e : Enforced) : Prop where
  now : e.now = start + f
  log : e.log = alone.log
  arguments : e.arguments = alone.last.arguments
  passed : alone.ending = .returned → e.verdict.status = .passed ∧ e.verdict.fault = none
  failed : ∀ g, alone.ending = .raised g → g.isCancellation = false →
    e.verdict.status = .failed ∧ e.verdict.fault = some g
  /-- A body that reports its cancellation has timed out if it set the signal itself. -/
  cancelled : ∀ g, alone.ending = .raised g → g.isCancellation = true →
    if alone.last.cancelled then
      e.verdict.status = .timedOut ∧ e.verdict.fault = some (.timedOut budget)
    else e.verdict.status = .failed ∧ e.verdict.fault = some g

/-- What is left of a body that needs more time than it has: the signal was raised at the deadline,
and the body was left when it ended, or after the grace period. -/
structure TimedOut (tl : Timeline) (start budget grace : Nat) (arguments : Arguments)
    (body : List Command) (e : Enforced) : Prop where
  signal : ∃ x : Catch, x.Splits tl (start + budget) body { now := start, arguments := arguments }
    (lingering tl start budget arguments body)
  ends : ¬ (lingering tl start budget arguments body).ending.IsStuck
  after : start + budget ≤ (lingering tl start budget arguments body).last.now
  now : e.now = start + budget +
    min grace ((lingering tl start budget arguments body).last.now - (start + budget))
  status : e.verdict.status = .timedOut
  fault : e.verdict.fault = some (.timedOut budget)
  /-- A body that ends by the end of the grace period has taken all its steps. -/
  stopped : (lingering tl start budget arguments body).last.now ≤ start + budget + grace →
    e.log = (lingering tl start budget arguments body).log ∧
      e.arguments = (lingering tl start budget arguments body).last.arguments
  /-- A body that is still running then takes no further step. -/
  abandoned : start + budget + grace < (lingering tl start budget arguments body).last.now →
    ∃ c first next rest, CutAt tl (start + budget) (start + budget + grace) body
        { now := start, arguments := arguments } first next rest c ∧
      e.log = c.log ∧ e.arguments = c.last.arguments

/-- What comes of running a body under a deadline. -/
structure Timing (tl : Timeline) (start budget grace : Nat) (arguments : Arguments)
    (body : List Command) (r : Except Unenforced Enforced) : Prop where
  inTime : isMeasurable budget = true → ∀ f, need tl start arguments body = some f → f ≤ budget →
    ∃ e, r = .ok e ∧ InTime start budget f (undisturbed tl start arguments body) e
  late : isMeasurable budget = true → (∀ f, need tl start arguments body = some f → budget < f) →
    isMeasurable grace = true → ∃ e, r = .ok e ∧ TimedOut tl start budget grace arguments body e
  /-- The time that the verdict tells is that of the clock; it is the time that went by, unless the
  clock has jumped meanwhile. -/
  elapsed : ∀ e, r = .ok e → e.verdict.elapsed = tl.clock e.now - tl.clock start ∧
    ((∀ j ∈ tl.jumps, j.instant ≤ start ∨ e.now < j.instant) →
      e.verdict.elapsed = (e.now : Int) - start)
  /-- Nothing begins under a deadline that cannot be waited for. -/
  unmeasured : isMeasurable budget = false →
    r = .error { begun := false, now := start, arguments := arguments, log := [] }
  /-- A grace period that cannot be waited for is of no use to a body that needs it. -/
  ungraced : isMeasurable budget = true →
    (∀ f, need tl start arguments body = some f → budget < f) → isMeasurable grace = false →
    ∃ u, r = .error u ∧ u.begun = true ∧ u.now = start + budget

/-- The watchdog of a body that ends returns when it ends. -/
theorem returnInstant_of_ends {c : Course} (h : ¬ c.ending.IsStuck) :
    returnInstant start budget grace c = c.last.now :=
  (returnInstant_eq c).resolve_right fun hstuck => h hstuck.1

/-- A body that needs no more time than it has is not late. -/
theorem course_of_need_le (grace : Nat) {f : Nat} (hf : need tl start arguments body = some f)
    (hle : f ≤ budget) : course tl start budget grace arguments body =
        undisturbed tl start arguments body ∧
      isLate (undisturbed tl start arguments body) = false := by
  obtain ⟨hend, hlast⟩ := need_eq_some hf
  have hsignalled : (undisturbed tl start arguments body).last.signalled = false :=
    runCommands_signalled rfl body rfl
  refine ⟨course_eq_undisturbed hend (by omega), ?_⟩
  unfold isLate
  cases hu : (undisturbed tl start arguments body).ending with
  | returned => exact hsignalled
  | raised g => exact hsignalled
  | abandoned => rw [hu] at hend; exact absurd trivial hend
  | endless => rw [hu] at hend; exact absurd trivial hend

theorem enforce_inTime {f : Nat} (hf : need tl start arguments body = some f) (hle : f ≤ budget) :
    InTime start budget f (undisturbed tl start arguments body)
      (enforce tl start budget grace arguments body) := by
  obtain ⟨hcourse, hlate⟩ := course_of_need_le grace hf hle
  obtain ⟨hend, hlast⟩ := need_eq_some hf
  -- status and fault come from one classification, of a course nobody has cut short
  have hclassify : ((enforce tl start budget grace arguments body).verdict.status,
      (enforce tl start budget grace arguments body).verdict.fault) =
        classify budget (undisturbed tl start arguments body) := by
    rw [← hcourse]
    rfl
  simp only [classify, hlate, Bool.false_eq_true, if_false] at hclassify
  refine ⟨?_, congrArg Course.log hcourse, congrArg (·.last.arguments) hcourse, ?_, ?_, ?_⟩
  · show returnInstant start budget grace (course tl start budget grace arguments body) = _
    rw [hcourse, returnInstant_of_ends hend, hlast]
  · intro hreturned
    rw [hreturned] at hclassify
    exact Prod.mk.inj hclassify
  · intro g hg hcancellation
    rw [hg] at hclassify
    simp only [hcancellation, Bool.false_and, Bool.false_eq_true, if_false] at hclassify
    exact Prod.mk.inj hclassify
  · intro g hg hcancellation
    rw [hg] at hclassify
    simp only [hcancellation, Bool.true_and] at hclassify
    split
    · next h =>
      rw [if_pos h] at hclassify
      exact Prod.mk.inj hclassify
    · next h =>
      rw [if_neg h] at hclassify
      exact Prod.mk.inj hclassify

/-- The signal catches a body that needs more time than it has, and the step that is caught answers
so. -/
theorem exists_catch_answers (h : ∀ f, need tl start arguments body = some f → budget < f) :
    ∃ x : Catch, x.Splits tl (start + budget) body { now := start, arguments := arguments }
        (lingering tl start budget arguments body) ∧
      x.Answers tl (start + budget) { now := start, arguments := arguments } := by
  refine runCommands_caught body (Nat.le_add_right start budget) fun hdone => ?_
  obtain ⟨hend, hlast⟩ : DoneBy (start + budget) (undisturbed tl start arguments body) := hdone
  have hlt := h _ (need_of_ends hend)
  omega

theorem exists_catch (h : ∀ f, need tl start arguments body = some f → budget < f) :
    ∃ x : Catch, x.Splits tl (start + budget) body { now := start, arguments := arguments }
      (lingering tl start budget arguments body) := by
  obtain ⟨x, hx, -⟩ := exists_catch_answers h
  exact ⟨x, hx⟩

theorem isLate_of_signalled {c : Course} (h : c.last.signalled = true) : isLate c = true := by
  unfold isLate
  split
  · rfl
  · rfl
  · exact h

/-- What the signal catches has seen it at its end, and does not end before the deadline. -/
theorem Catch.Splits.last_signalled {x : Catch} {deadline : Nat} {c : Course}
    (h : x.Splits tl deadline body m c) : c.last.signalled = true ∧ deadline ≤ c.last.now := by
  rw [h.last, Catch.remainder, Course.noting_last]
  constructor
  · exact runCommands_stays_signalled _ _ (Step.caughtAt_signalled deadline _ _)
  · exact Nat.le_trans h.late (runCommands_le_now _ _ _)

/-- A body that needs more time than it has is late, and it takes the course of a body that is never
abandoned up to the end of the grace period. -/
theorem course_of_lt_need (grace : Nat)
    (h : ∀ f, need tl start arguments body = some f → budget < f) :
    isLate (course tl start budget grace arguments body) = true ∧
      ((lingering tl start budget arguments body).last.now ≤ start + budget + grace ∧
          course tl start budget grace arguments body = lingering tl start budget arguments body ∨
        ∃ first next rest, CutAt tl (start + budget) (start + budget + grace) body
          { now := start, arguments := arguments } first next rest
          (course tl start budget grace arguments body)) := by
  have hstart : start ≤ start + budget + grace := by omega
  obtain ⟨x, hx⟩ := exists_catch h
  rcases runCommands_limited body (m := { now := start, arguments := arguments }) hstart with
    ⟨hlast, hcourse⟩ | ⟨first, next, rest, hcut⟩
  · refine ⟨isLate_of_signalled ?_, Or.inl ⟨hlast, hcourse⟩⟩
    rw [show course tl start budget grace arguments body = _ from hcourse]
    exact hx.last_signalled.1
  · refine ⟨?_, Or.inr ⟨first, next, rest, hcut⟩⟩
    rw [show course tl start budget grace arguments body = _ from hcut.course]
    rfl

/-- A course that is cut at a limit would go on beyond it. -/
theorem CutAt.lt_last {deadline limit : Nat} {first rest : List Command} {next : Command}
    {c : Course} (h : CutAt tl deadline limit body m first next rest c) :
    limit < (runCommands (.patient tl deadline) body m).last.now := by
  rw [h.split, List.append_cons]
  exact Nat.lt_of_lt_of_le h.tooLate (runCommands_append_le_now _ _ _ _)

theorem enforce_timedOut (h : ∀ f, need tl start arguments body = some f → budget < f) :
    TimedOut tl start budget grace arguments body
      (enforce tl start budget grace arguments body) := by
  obtain ⟨x, hx⟩ := exists_catch h
  obtain ⟨hlate, hlimited⟩ := course_of_lt_need grace h
  have hends : ¬ (lingering tl start budget arguments body).ending.IsStuck :=
    runCommands_patient_ends tl (start + budget) body _
  have hafter : start + budget ≤ (lingering tl start budget arguments body).last.now :=
    hx.last_signalled.2
  have hclassify : ((enforce tl start budget grace arguments body).verdict.status,
      (enforce tl start budget grace arguments body).verdict.fault) =
        (.timedOut, some (.timedOut budget)) := by
    show classify budget (course tl start budget grace arguments body) = _
    rw [classify, if_pos hlate]
  obtain ⟨hstatus, hfault⟩ := Prod.mk.inj hclassify
  have hinstant : (enforce tl start budget grace arguments body).now =
    returnInstant start budget grace (course tl start budget grace arguments body) := rfl
  -- the body comes to its end within the grace, or it is left behind
  rcases hlimited with ⟨hlast, hcourse⟩ | ⟨first, next, rest, hcut⟩
  · exact {
      signal := ⟨x, hx⟩
      ends := hends
      after := hafter
      now := by
        rw [hinstant, hcourse, returnInstant_of_ends hends]
        omega
      status := hstatus
      fault := hfault
      stopped := fun _ => ⟨congrArg Course.log hcourse, congrArg (·.last.arguments) hcourse⟩
      abandoned := fun hlt => absurd hlast (Nat.not_le.mpr hlt) }
  · have hlong : start + budget + grace < (lingering tl start budget arguments body).last.now :=
      hcut.lt_last
    exact {
      signal := ⟨x, hx⟩
      ends := hends
      after := hafter
      now := by
        have hlimit : returnInstant start budget grace
            (course tl start budget grace arguments body) = start + budget + grace := by
          rw [hcut.course]
          rfl
        rw [hinstant, hlimit]
        omega
      status := hstatus
      fault := hfault
      stopped := fun hle => absurd hle (Nat.not_le.mpr hlong)
      abandoned := fun _ => ⟨_, first, next, rest, hcut, rfl, rfl⟩ }

/-! ### Waits that are too long -/

/-- A deadline that is too far away is given up before anything begins. -/
theorem attempt_of_not_measurable (grace : Nat) (h : isMeasurable budget = false) :
    attempt tl start budget grace arguments body =
      .error { begun := false, now := start, arguments := arguments, log := [] } := by
  simp only [attempt, h, Bool.not_false, if_true]

theorem attempt_of_measurable (hbudget : isMeasurable budget = true)
    (hgrace : isMeasurable grace = true) :
    attempt tl start budget grace arguments body =
      .ok (enforce tl start budget grace arguments body) := by
  simp only [attempt, hbudget, hgrace, Bool.not_true, Bool.and_false, Bool.false_eq_true, if_false]

/-- A grace period that is too long is given up at the deadline of a body that needs it. -/
theorem attempt_of_lt_need (hbudget : isMeasurable budget = true)
    (hneed : ∀ f, need tl start arguments body = some f → budget < f)
    (hgrace : isMeasurable grace = false) :
    ∃ u, attempt tl start budget grace arguments body = .error u ∧ u.begun = true ∧
      u.now = start + budget := by
  have hlate := (course_of_lt_need grace hneed).1
  refine ⟨{
    begun := true
    now := start + budget
    arguments := (courseBefore tl start budget arguments body).last.arguments
    log := (courseBefore tl start budget arguments body).log }, ?_, rfl, rfl⟩
  simp only [attempt, hbudget, hgrace, hlate, Bool.not_true, Bool.not_false, Bool.and_true,
    Bool.false_eq_true, if_false, if_true]

/-- **When the watchdog returns, and with which verdict.**  A deadline in the past is one that is
over at once. -/
theorem attempt_timing (tl : Timeline) (start : Nat) (deadline : Int) (grace : Nat)
    (arguments : Arguments) (body : List Command) :
    Timing tl start deadline.toNat grace arguments body
      (attempt tl start deadline.toNat grace arguments body) := by
  generalize deadline.toNat = budget
  refine ⟨?_, ?_, ?_, ?_, ?_⟩
  · intro hbudget f hf hle
    obtain ⟨hcourse, hlate⟩ := course_of_need_le grace hf hle
    refine ⟨enforce tl start budget grace arguments body, ?_, enforce_inTime hf hle⟩
    simp only [attempt, hbudget, hcourse, hlate, Bool.not_true, Bool.false_and,
      Bool.false_eq_true, if_false]
  · intro hbudget hneed hgrace
    exact ⟨_, attempt_of_measurable hbudget hgrace, enforce_timedOut hneed⟩
  · intro e he
    have hnow : start ≤ e.now := (attempt_between he).1
    rw [attempt_ok he] at hnow ⊢
    exact ⟨rfl, tl.clock_sub_clock hnow⟩
  · exact attempt_of_not_measurable grace
  · exact attempt_of_lt_need

/-- A body that ends just at its deadline is done in time, and one that does not listen and ends
just at the end of the grace period is late but not abandoned. -/
theorem attempt_timing_of_ties :
    (∃ e, attempt .steady 3 10 5 (.ofPairs []) (commandsOf .body [.idle 10]) = .ok e ∧
      InTime 3 10 10 (undisturbed .steady 3 (.ofPairs []) (commandsOf .body [.idle 10])) e) ∧
    (∃ e, attempt .steady 3 10 5 (.ofPairs []) (commandsOf .body [.busy 15, .check]) = .ok e ∧
      TimedOut .steady 3 10 5 (.ofPairs []) (commandsOf .body [.busy 15, .check]) e ∧
      e.now = 18) := by
  constructor
  · exact (attempt_timing .steady 3 10 5 (.ofPairs []) (commandsOf .body [.idle 10])).inTime
      (by decide +kernel) 10 (by decide +kernel) (Nat.le_refl 10)
  · obtain ⟨e, he, h⟩ :=
      (attempt_timing .steady 3 10 5 (.ofPairs []) (commandsOf .body [.busy 15, .check])).late
        (by decide +kernel) (fun f hf => Option.some.inj hf ▸ by decide) (by decide +kernel)
    exact ⟨e, he, h, h.now⟩

/-- A body that needs no time does not come back from a deadline that is too far away to be waited
for: not every body that is done in time returns. -/
theorem not_forall_attempt_inTime : ¬ ∀ (tl : Timeline) (start : Nat) (deadline : Int)
    (grace : Nat) (arguments : Arguments) (body : List Command) (f : Nat),
    need tl start arguments body = some f → f ≤ deadline.toNat →
      ∃ e, attempt tl start deadline.toNat grace arguments body = .ok e ∧ e.now = start + f := by
  intro h
  obtain ⟨e, he, -⟩ := h .steady 0 (Int.ofNat (Nat.pow 10 309)) 100 (.ofPairs []) [] 0 rfl
    (Nat.zero_le _)
  have hlong : isMeasurable (Int.ofNat (Nat.pow 10 309)).toNat = false := by decide +kernel
  simp only [attempt, hlong, Bool.not_false, if_true] at he
  cases he

end Deadline

end Timebox
