import Timebox.Proofs.Watchdog

/-!
# Which timeouts are genuine

A body that is still running when its deadline is reached has timed out, and its timeout is genuine
(`Deadline.Overruns`).  There is one more way to the same verdict: a body may set its signal by
itself and then report that it has been cancelled, well before its deadline (`Deadline.Withdraws`).
The watchdog takes that report for an answer to the signal that it has not raised.  Any other fault
that a body raises by its deadline is its verdict, unchanged (`Deadline.attempt_genuine`).

Nobody but the body sets the signal before the deadline: where nobody watches, it is set only by a
step that does just that (`exists_cancel_of_cancelled`).
-/

namespace Timebox

/-! ### Who sets the signal -/

/-- Where nobody raises the signal, a step that does not set it leaves it as it is. -/
theorem Step.take_unwatched_cancelled (tl : Timeline) (limit : Option Nat) (m : Moment)
    {step : Step} (hstep : step ≠ .cancel) :
    (step.take (.unwatched tl limit) m).Holds (fun n => n.cancelled = m.cancelled) True := by
  -- both kinds of idle step come down to this
  have hidle : ∀ ms, (m.idleStep (.unwatched tl limit) ms).Holds
      (fun n => n.cancelled = m.cancelled) True := by
    intro ms
    have hmoment : (m.idle none ms).2.cancelled = m.cancelled := by
      unfold Moment.idle
      split
      · rfl
      · split <;> rfl
    unfold Moment.idleStep
    split
    · dsimp only
      split
      · trivial
      · exact hmoment
    · exact rfl
  cases step with
  | idle ms => exact hidle ms
  | idleArgument key default =>
    simp only [Step.take]
    split
    · exact rfl
    · exact hidle _
  | busy ms =>
    simp only [Step.take, Surroundings.unwatched]
    split
    · split
      · trivial
      · exact rfl
    · exact rfl
  | idleLoop span =>
    simp only [Step.take, Moment.loopStep, Surroundings.unwatched]
    split
    · split
      · exact rfl
      · trivial
    · exact rfl
  | check =>
    simp only [Step.take]
    split <;> exact rfl
  | isCancelled => exact rfl
  | cancel => exact absurd rfl hstep
  | clock => exact rfl
  | arguments => exact rfl
  | raise fault => exact rfl
  | operate op => exact Reply.stepEnd_holds _ fun _ => rfl

/-- If the signal is set at the end of a body that nobody watches, the body has come to a step that
sets it. -/
theorem exists_cancel_of_cancelled {tl : Timeline} {limit : Option Nat} {body : List Command}
    {m : Moment} (hm : m.cancelled = false)
    (h : (runCommands (.unwatched tl limit) body m).last.cancelled = true) :
    ∃ first c rest, body = first ++ c :: rest ∧ c.step = .cancel ∧
      (runCommands (.unwatched tl limit) first m).ending = .returned := by
  induction body generalizing m with
  | nil => exact absurd (hm.symm.trans h) Bool.false_ne_true
  | cons c cs ih =>
    by_cases hc : c.step = .cancel
    · exact ⟨[], c, cs, rfl, hc, rfl⟩
    -- this step has left the signal alone, so a later one sets it
    · have htake := Step.take_unwatched_cancelled tl limit m hc
      unfold runCommands at h
      cases hn : c.step.take (.unwatched tl limit) m with
      | done v n =>
        rw [hn] at h htake
        simp only [Course.noting_last] at h
        obtain ⟨first, c', rest, rfl, hc', hreturned⟩ := ih (htake.trans hm) h
        refine ⟨c :: first, c', rest, rfl, hc', ?_⟩
        rw [runCommands_cons_of_done hn, Course.noting_ending]
        exact hreturned
      | raised f n =>
        rw [hn] at h htake
        simp only [Course.noting_last] at h
        exact absurd ((htake.trans hm).symm.trans h) Bool.false_ne_true
      | abandoned =>
        rw [hn] at h
        exact absurd (hm.symm.trans h) Bool.false_ne_true
      | endless =>
        rw [hn] at h
        exact absurd (hm.symm.trans h) Bool.false_ne_true

/-! ### Verdicts of timeout -/

namespace Deadline

variable {tl : Timeline} {start budget grace : Nat} {arguments : Arguments} {body : List Command}

/-- The body is still running when its deadline is reached, however long it would take. -/
def Overruns (tl : Timeline) (start budget : Nat) (arguments : Arguments) (body : List Command) :
    Prop :=
  ∀ f, need tl start arguments body = some f → budget < f

/-- A body that is not running any more at its deadline needs no more time than it has. -/
theorem exists_need_le (h : ¬ Overruns tl start budget arguments body) :
    ∃ f, need tl start arguments body = some f ∧ f ≤ budget := by
  cases hneed : need tl start arguments body with
  | none => exact absurd (fun f hf => nomatch hneed.symm.trans hf) h
  | some f =>
    refine ⟨f, rfl, Nat.le_of_not_lt fun hlt => h fun f' hf' => ?_⟩
    obtain rfl := Option.some.inj (hneed.symm.trans hf')
    exact hlt

/-- By its deadline, the body reports that it has been cancelled, and the signal is set. -/
structure Withdraws (tl : Timeline) (start budget : Nat) (arguments : Arguments)
    (body : List Command) (g : Fault) : Prop where
  inTime : ∃ f, need tl start arguments body = some f ∧ f ≤ budget
  ending : (undisturbed tl start arguments body).ending = .raised g
  cancellation : g.isCancellation = true
  cancelled : (undisturbed tl start arguments body).last.cancelled = true

/-- What a verdict of timeout, and any other one, says about a body. -/
structure Genuine (tl : Timeline) (start budget grace : Nat) (arguments : Arguments)
    (body : List Command) (r : Except Unenforced Enforced) : Prop where
  /-- The verdict is a timeout if the body was still running at its deadline, or has withdrawn. -/
  timedOut : ∀ e, r = .ok e → (e.verdict.status = .timedOut ↔
    Overruns tl start budget arguments body ∨ ∃ g, Withdraws tl start budget arguments body g)
  /-- A body that was still running had a step under way that would have ended later. -/
  underWay : Overruns tl start budget arguments body → ∃ x : Catch,
    x.Splits tl (start + budget) body { now := start, arguments := arguments }
      (lingering tl start budget arguments body)
  /-- A body that has withdrawn has set the signal itself, by a step that it has taken. -/
  own : ∀ g, Withdraws tl start budget arguments body g → ∃ first c rest,
    body = first ++ c :: rest ∧ c.step = .cancel ∧
      (undisturbed tl start arguments first).ending = .returned
  /-- Any other fault that a body raises by its deadline is what it has failed with. -/
  raised : isMeasurable budget = true → ∀ f g, need tl start arguments body = some f →
    f ≤ budget → (undisturbed tl start arguments body).ending = .raised g →
      ∃ e, r = .ok e ∧ e.now = start + f ∧ (¬ Withdraws tl start budget arguments body g →
        e.verdict.status = .failed ∧ e.verdict.fault = some g)

/-- A body that is done by its deadline comes back with a verdict, if the deadline can be waited
for. -/
theorem attempt_of_need_le (grace : Nat) (hbudget : isMeasurable budget = true) {f : Nat}
    (hf : need tl start arguments body = some f) (hle : f ≤ budget) :
    attempt tl start budget grace arguments body =
      .ok (enforce tl start budget grace arguments body) := by
  obtain ⟨hcourse, hlate⟩ := course_of_need_le grace hf hle
  simp only [attempt, hbudget, hcourse, hlate, Bool.not_true, Bool.false_and, Bool.false_eq_true,
    if_false]

/-- A body that raises a fault by its deadline has failed with it, unless it has withdrawn. -/
theorem enforce_of_raised (grace : Nat) {f : Nat} {g : Fault}
    (hf : need tl start arguments body = some f) (hle : f ≤ budget)
    (hg : (undisturbed tl start arguments body).ending = .raised g) :
    (Withdraws tl start budget arguments body g ∧
        (enforce tl start budget grace arguments body).verdict.status = .timedOut) ∨
      (¬ Withdraws tl start budget arguments body g ∧
        (enforce tl start budget grace arguments body).verdict.status = .failed ∧
        (enforce tl start budget grace arguments body).verdict.fault = some g) := by
  have htime : InTime start budget f (undisturbed tl start arguments body)
      (enforce tl start budget grace arguments body) := enforce_inTime hf hle
  -- the kind of the fault decides first, and the signal only for a cancellation
  by_cases hcancellation : g.isCancellation = true
  · have hverdict := htime.cancelled g hg hcancellation
    by_cases hcancelled : (undisturbed tl start arguments body).last.cancelled = true
    · rw [if_pos hcancelled] at hverdict
      exact Or.inl ⟨⟨⟨f, hf, hle⟩, hg, hcancellation, hcancelled⟩, hverdict.1⟩
    · rw [if_neg hcancelled] at hverdict
      exact Or.inr ⟨fun h => hcancelled h.cancelled, hverdict⟩
  · have hverdict := htime.failed g hg (by simpa using hcancellation)
    exact Or.inr ⟨fun h => hcancellation h.cancellation, hverdict⟩

/-- When the verdict on a body is a timeout. -/
theorem enforce_timedOut_iff : (enforce tl start budget grace arguments body).verdict.status =
    .timedOut ↔ Overruns tl start budget arguments body ∨
      ∃ g, Withdraws tl start budget arguments body g := by
  by_cases hover : Overruns tl start budget arguments body
  · exact iff_of_true (enforce_timedOut hover).status (Or.inl hover)
  · -- the body is done by its deadline, so its own end decides
    obtain ⟨f, hf, hle⟩ := exists_need_le hover
    rw [or_iff_right hover]
    have hends := (need_eq_some hf).1
    cases hend : (undisturbed tl start arguments body).ending with
    | returned =>
      refine iff_of_false (fun h => ?_) fun ⟨g, hg⟩ => ?_
      · cases ((enforce_inTime hf hle).passed hend).1.symm.trans h
      · cases hend.symm.trans hg.ending
    | raised g =>
      rcases enforce_of_raised grace hf hle hend with ⟨hg, hstatus⟩ | ⟨hg, hstatus, -⟩
      · exact iff_of_true hstatus ⟨g, hg⟩
      · refine iff_of_false (fun h => ?_) fun ⟨g', hg'⟩ => ?_
        · cases hstatus.symm.trans h
        · obtain rfl : g = g' := by
            have := hend.symm.trans hg'.ending
            simpa using this
          exact hg hg'
    | abandoned =>
      rw [hend] at hends
      exact absurd trivial hends
    | endless =>
      rw [hend] at hends
      exact absurd trivial hends

/-- **A timeout is declared on bodies that run beyond their deadline and on those that withdraw, and
on no others.**  A deadline in the past is one that is over at once. -/
theorem attempt_genuine (tl : Timeline) (start : Nat) (deadline : Int) (grace : Nat)
    (arguments : Arguments) (body : List Command) :
    Genuine tl start deadline.toNat grace arguments body
      (attempt tl start deadline.toNat grace arguments body) where
  timedOut e he := by
    rw [attempt_ok he]
    exact enforce_timedOut_iff
  underWay := exists_catch
  own _ hg := exists_cancel_of_cancelled rfl hg.cancelled
  raised hbudget f g hf hle hg := by
    refine ⟨_, attempt_of_need_le grace hbudget hf hle, (enforce_inTime hf hle).now, fun hnot => ?_⟩
    rcases enforce_of_raised grace hf hle hg with ⟨hwithdraws, -⟩ | ⟨-, hverdict⟩
    · exact absurd hwithdraws hnot
    · exact hverdict

/-- A body that reports a cancellation without having set the signal has failed with that report,
and so has one that has set the signal and raises another fault. -/
theorem attempt_genuine_of_reports :
    (∃ e, attempt .steady 0 10 5 (.ofPairs []) (commandsOf .body
        [.busy 10, .raise (.coded .cancelled none none)]) = .ok e ∧
      e.verdict.status = .failed) ∧
    ∃ e, attempt .steady 0 10 5 (.ofPairs []) (commandsOf .body
        [.cancel, .raise (.timedOut 3)]) = .ok e ∧
      e.verdict.status = .failed ∧ e.verdict.fault = some (.timedOut 3) := by
  constructor
  · obtain ⟨e, he, -, hverdict⟩ := (attempt_genuine .steady 0 10 5 (.ofPairs []) (commandsOf .body
      [.busy 10, .raise (.coded .cancelled none none)])).raised (by decide +kernel) 10
        (.coded .cancelled none none) rfl (Nat.le_refl 10) rfl
    exact ⟨e, he, (hverdict fun h => absurd h.cancelled (by decide +kernel)).1⟩
  · obtain ⟨e, he, -, hverdict⟩ := (attempt_genuine .steady 0 10 5 (.ofPairs []) (commandsOf .body
      [.cancel, .raise (.timedOut 3)])).raised (by decide +kernel) 0 (.timedOut 3) rfl (by decide)
        rfl
    exact ⟨e, he, hverdict fun h => absurd h.cancellation (by decide)⟩

/-- A body that sets its signal and then looks at it is declared timed out long before its deadline:
not every fault that is raised by the deadline comes back as what the body has failed with. -/
theorem not_forall_attempt_failed : ¬ ∀ (tl : Timeline) (start : Nat) (deadline : Int) (grace : Nat)
    (arguments : Arguments) (body : List Command) (f : Nat) (g : Fault) (e : Enforced),
    need tl start arguments body = some f → f ≤ deadline.toNat →
      (undisturbed tl start arguments body).ending = .raised g →
        attempt tl start deadline.toNat grace arguments body = .ok e →
          e.verdict.status = .failed := by
  intro h
  have hneed : need .steady 0 (.ofPairs []) (commandsOf .body [.cancel, .check]) = some 0 := rfl
  have hfailed := h .steady 0 100 100 (.ofPairs []) (commandsOf .body [.cancel, .check]) 0
    .cancelledAtDeadline _ hneed (Nat.zero_le _) rfl
    (attempt_of_need_le 100 (by decide +kernel) hneed (Nat.zero_le _))
  exact absurd hfailed (by decide)

end Deadline

end Timebox
