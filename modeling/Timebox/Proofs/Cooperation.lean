import Timebox.Proofs.Timeouts

/-!
# Bodies that listen

A body that takes time only where it listens to the signal is done by its deadline, and the watchdog
never leaves it running (`Deadline.attempt_prompt`).  If it is late, the signal wakes the idle that
is under way, and from there on time stands still: where the signal is set, a step that listens
takes no time (`Step.take_at_once`), and the signal stays set.  So the rest of the body happens at
the deadline, all of it, whether or not there is a grace period.
-/

namespace Timebox

/-! ### Steps that find the signal set -/

/-- The step idles for some milliseconds, once or again and again. -/
inductive Step.Idles (a : Arguments) : Step → Nat → Prop
  | once (ms : Int) : Idles a (.idle ms) ms.toNat
  | argument {key : String} {default ms : Int} (h : Arguments.integer a key default = .ok ms) :
    Idles a (.idleArgument key default) ms.toNat
  | again (span : Span) : Idles a (.idleLoop span) span.ms

/-- What an idle answers to a signal that is set: it says so, and a loop of idles stops at the first
one that does. -/
def Step.answerAtOnce : Step → StepValue
  | idleLoop _ => .calls 1
  | _ => .flag true

theorem StepEnd.Holds.and {P Q : Moment → Prop} {stuck stuck' : Prop} {e : StepEnd}
    (hP : e.Holds P stuck) (hQ : e.Holds Q stuck') : e.Holds (fun m => P m ∧ Q m) stuck := by
  cases e with
  | done v m => exact ⟨hP, hQ⟩
  | raised f m => exact ⟨hP, hQ⟩
  | abandoned => exact hP
  | endless => exact hP

section

variable {tl : Timeline} {deadline : Nat} {m : Moment} {step : Step} {ms : Nat}

theorem Moment.idleStep_of_cancelled (around : Surroundings) (hlimit : around.limit = none)
    (hm : m.cancelled = true) (ms : Int) : m.idleStep around ms =
      if isMeasurable ms.toNat then .done (.flag true) m else .raised .immeasurable m := by
  have hidle : m.idle around.signal ms = (true, m) := by
    unfold Moment.idle
    rw [hm]
    split
    · rfl
    · rfl
  unfold Moment.idleStep
  rw [hidle, hlimit]
  rfl

/-- An idle that finds the signal set says so at once; one that is too long for the format is a
fault anyway. -/
theorem Step.Idles.take (h : step.Idles m.arguments ms) (hm : m.cancelled = true) :
    step.take (.patient tl deadline) m =
      if isMeasurable ms then .done step.answerAtOnce m else .raised .immeasurable m := by
  have hidle : ∀ ms, m.idleStep (.patient tl deadline) ms =
      if isMeasurable ms.toNat then .done (.flag true) m else .raised .immeasurable m :=
    Moment.idleStep_of_cancelled _ rfl hm
  cases h with
  | once ms => exact hidle ms
  | argument h =>
    simp only [Step.take, h]
    exact hidle _
  | again span =>
    simp only [Step.take, Moment.loopStep, if_pos hm]
    rfl

/-- A step that listens takes no time where the signal is set. -/
theorem Step.take_at_once (hm : m.cancelled = true) (hstep : step.Cooperative) :
    (step.take (.patient tl deadline) m).Holds
      (fun n => n.now = m.now ∧ n.cancelled = true) False := by
  have hnow : (step.take (.patient tl deadline) m).Holds (fun n => n.now = m.now) False := by
    refine step.take_holds (fun n hn _ => hn) (fun ms => ?_) (fun span => ?_)
      fun ms hbusy => absurd hbusy (hstep ms)
    · rw [Moment.idleStep_of_cancelled _ rfl hm]
      split <;> exact rfl
    · rw [Moment.loopStep, if_pos hm]
      split <;> exact rfl
  exact hnow.and (step.take_cancelled hm)

/-- A step that listens, and is under way at the deadline, is an idle. -/
theorem Step.idles_of_underWay (hm : m.now ≤ deadline) (hstep : step.Cooperative)
    (h : ¬ Deadline.EndsBy tl deadline m step) : ∃ ms, step.Idles m.arguments ms := by
  unfold Deadline.EndsBy at h
  -- a cooperative step that takes time idles; all others end where they start
  cases step with
  | idle ms => exact ⟨ms.toNat, .once ms⟩
  | idleArgument key default =>
    cases hms : Arguments.integer m.arguments key default with
    | ok ms => exact ⟨ms.toNat, .argument hms⟩
    | error f =>
      simp only [Step.take, hms] at h
      exact absurd hm h
  | idleLoop span => exact ⟨span.ms, .again span⟩
  | busy ms => exact absurd rfl (hstep ms)
  | check =>
    refine absurd ?_ h
    simp only [Step.take]
    split <;> exact hm
  | isCancelled => exact absurd hm h
  | cancel => exact absurd hm h
  | clock => exact absurd hm h
  | arguments => exact absurd hm h
  | raise fault => exact absurd hm h
  | operate op =>
    have hreply : ((op.run { arguments := m.arguments }).1.stepEnd m).Holds
        (fun n => n.now ≤ deadline) False := Reply.stepEnd_holds _ fun _ => hm
    exact absurd hreply h

end

/-! ### Logs -/

/-- The instant of an entry. -/
def LogEntry.instant : LogEntry → Nat
  | constructed t => t
  | step _ _ _ t => t

theorem Course.mem_log_noting {c : Course} {command : Command} {o : Outcome} {t : Nat}
    {entry : LogEntry} (h : entry ∈ (c.noting command o t).log) :
    entry.instant = t ∨ entry ∈ c.log := by
  unfold Course.noting at h
  split at h
  · rcases List.mem_cons.mp h with rfl | h
    · exact Or.inl rfl
    · exact Or.inr h
  · exact Or.inr h

/-- What holds of every moment that a body comes to holds of the moments in its log. -/
theorem runCommands_log {around : Surroundings} {P : Moment → Prop} {stuck : Prop}
    {body : List Command}
    (hstep : ∀ c ∈ body, ∀ m, P m → (c.step.take around m).Holds P stuck) {m : Moment}
    (hm : P m) : ∀ entry ∈ (runCommands around body m).log, ∃ n, P n ∧ entry.instant = n.now := by
  induction body generalizing m with
  | nil => exact fun entry hentry => absurd hentry List.not_mem_nil
  | cons c cs ih =>
    have hc := hstep c List.mem_cons_self m hm
    intro entry hentry
    unfold runCommands at hentry
    split at hentry
    · next v n hn =>
      rw [hn] at hc
      -- the entry is that of this step or of a later one
      rcases Course.mem_log_noting hentry with h | h
      · exact ⟨n, hc, h⟩
      · exact ih (fun d hd => hstep d (List.mem_cons_of_mem _ hd)) hc entry h
    · next f n hn =>
      rw [hn] at hc
      rcases Course.mem_log_noting hentry with h | h
      · exact ⟨n, hc, h⟩
      · exact absurd h List.not_mem_nil
    · exact absurd hentry List.not_mem_nil
    · exact absurd hentry List.not_mem_nil

/-! ### Bodies that are caught -/

namespace Deadline

variable {tl : Timeline} {start budget grace deadline : Nat} {arguments : Arguments}
  {body : List Command} {m : Moment} {x : Catch}

/-- Time stands still for a body of steps that listen, once the signal is set. -/
theorem runCommands_at_once (hbody : ∀ c ∈ body, c.step.Cooperative)
    (hnow : m.now = deadline) (hm : m.cancelled = true) :
    ((runCommands (.patient tl deadline) body m).last.now = deadline ∧
        (runCommands (.patient tl deadline) body m).last.cancelled = true) ∧
      ∀ entry ∈ (runCommands (.patient tl deadline) body m).log, entry.instant = deadline := by
  have hstep : ∀ c ∈ body, ∀ n : Moment, n.now = deadline ∧ n.cancelled = true →
      (c.step.take (.patient tl deadline) n).Holds
        (fun k => k.now = deadline ∧ k.cancelled = true) False := by
    intro c hc n hn
    exact (Step.take_at_once hn.2 (hbody c hc)).imp fun k hk => ⟨hk.1.trans hn.1, hk.2⟩
  refine ⟨(runCommands_holds hstep ⟨hnow, hm⟩).1, fun entry hentry => ?_⟩
  obtain ⟨n, hn, hinstant⟩ := runCommands_log hstep ⟨hnow, hm⟩ entry hentry
  exact hinstant.trans hn.1

/-- A step that the body comes to after it has been caught: it is taken at the deadline, with the
signal set, and if it is an idle it says so. -/
structure AtOnce (tl : Timeline) (deadline : Nat) (m : Moment) (step : Step) : Prop where
  now : m.now = deadline
  cancelled : m.cancelled = true
  ends : (step.take (.patient tl deadline) m).Holds (fun n => n.now = deadline) False
  idle : ∀ ms, step.Idles m.arguments ms → isMeasurable ms = true →
    step.take (.patient tl deadline) m = .done step.answerAtOnce m
  tooLong : ∀ ms, step.Idles m.arguments ms → isMeasurable ms = false →
    step.take (.patient tl deadline) m = .raised .immeasurable m

/-- The signal wakes an idle at the deadline, and all the rest of the body happens there. -/
structure Catch.Wakes (x : Catch) (tl : Timeline) (deadline : Nat) (m : Moment) : Prop where
  idles : ∃ ms, x.step.step.Idles (x.alone tl m).last.arguments ms
  answers : x.Answers tl deadline m
  woken : (x.resumed tl deadline m).now = deadline
  /-- The steps before one that the body comes to have come to their ends. -/
  atOnce : ∀ first c rest, x.after = first ++ c :: rest →
    (runCommands (.patient tl deadline) first (x.resumed tl deadline m)).ending = .returned →
      AtOnce tl deadline
        (runCommands (.patient tl deadline) first (x.resumed tl deadline m)).last c.step
  log : ∀ entry ∈ (x.remainder tl deadline m).log, entry.instant = deadline
  last : (x.remainder tl deadline m).last.now = deadline

theorem Step.caughtAt_now {step : Step} (hstep : step.Cooperative) (m : Moment) :
    (step.caughtAt deadline m).now = deadline := by
  cases step with
  | busy ms => exact absurd rfl (hstep ms)
  | _ => rfl

theorem Catch.Splits.wakes {c : Course} (h : x.Splits tl deadline body m c)
    (hanswers : x.Answers tl deadline m) (hbody : ∀ c ∈ body, c.step.Cooperative) :
    x.Wakes tl deadline m := by
  have hcaught : x.step.step.Cooperative := hbody x.step (by simp [h.body])
  have hafter : ∀ c ∈ x.after, c.step.Cooperative := fun c hc => hbody c (by simp [h.body, hc])
  have hnow : (x.resumed tl deadline m).now = deadline := Step.caughtAt_now hcaught _
  have hset : (x.resumed tl deadline m).cancelled = true := x.step.step.caughtAt_cancelled _ _
  -- with the signal set no cooperative step takes time: the rest is done at the deadline
  obtain ⟨⟨hlast, -⟩, hlog⟩ := runCommands_at_once hafter hnow hset
  refine ⟨Step.idles_of_underWay h.inTime hcaught h.underWay, hanswers, hnow, ?_, ?_, ?_⟩
  · intro first c rest hsplit _
    have hfirst : ∀ d ∈ first, d.step.Cooperative := fun d hd => hafter d (by simp [hsplit, hd])
    obtain ⟨⟨hnow', hset'⟩, -⟩ := runCommands_at_once hfirst hnow hset
    exact {
      now := hnow'
      cancelled := hset'
      ends := (Step.take_at_once hset' (hafter c (by simp [hsplit]))).imp
        fun n hn => hn.1.trans hnow'
      idle := fun ms hms hmeasurable => by rw [hms.take hset', if_pos hmeasurable]
      tooLong := fun ms hms hlong => by rw [hms.take hset', hlong, if_neg Bool.false_ne_true] }
  · intro entry hentry
    rcases Course.mem_log_noting hentry with h | h
    · exact h.trans hnow
    · exact hlog entry h
  · rw [Catch.remainder, Course.noting_last]
    exact hlast

/-! ### Bodies under a deadline -/

/-- The worker has ended by itself, and the watchdog returns with all that it has done. -/
structure Ended (c : Course) (e : Enforced) : Prop where
  ends : ¬ c.ending.IsStuck
  now : e.now = c.last.now
  arguments : e.arguments = c.last.arguments
  log : e.log = c.log

/-- What is left of a body that was late and has listened. -/
structure Listened (tl : Timeline) (start budget grace : Nat) (arguments : Arguments)
    (body : List Command) (e : Enforced) : Prop where
  status : e.verdict.status = .timedOut
  fault : e.verdict.fault = some (.timedOut budget)
  now : e.now = start + budget
  elapsed : (∀ j ∈ tl.jumps, j.instant ≤ start ∨ start + budget < j.instant) →
    e.verdict.elapsed = budget
  signal : ∃ x : Catch, x.Splits tl (start + budget) body { now := start, arguments := arguments }
      (course tl start budget grace arguments body) ∧
    x.Wakes tl (start + budget) { now := start, arguments := arguments }

/-- What comes of running a body that listens under a deadline. -/
structure Prompt (tl : Timeline) (start budget grace : Nat) (arguments : Arguments)
    (body : List Command) (r : Except Unenforced Enforced) : Prop where
  returns : isMeasurable budget = true →
    (Overruns tl start budget arguments body → isMeasurable grace = true) → ∃ e, r = .ok e
  ended : ∀ e, r = .ok e → (start ≤ e.now ∧ e.now ≤ start + budget) ∧
    Ended (course tl start budget grace arguments body) e
  listened : Overruns tl start budget arguments body → ∀ e, r = .ok e →
    Listened tl start budget grace arguments body e
  /-- Nothing begins under a deadline that cannot be waited for. -/
  unmeasured : isMeasurable budget = false →
    r = .error { begun := false, now := start, arguments := arguments, log := [] }
  /-- The watchdog gives up at the deadline if it cannot wait for the grace period. -/
  ungraced : isMeasurable budget = true → Overruns tl start budget arguments body →
    isMeasurable grace = false → ∃ u, r = .error u ∧ u.begun = true ∧ u.now = start + budget

/-- A body that listens is never abandoned. -/
theorem course_of_overruns (grace : Nat) (hbody : ∀ c ∈ body, c.step.Cooperative)
    (hover : Overruns tl start budget arguments body) :
    course tl start budget grace arguments body = lingering tl start budget arguments body := by
  obtain ⟨x, hx, hanswers⟩ := exists_catch_answers hover
  have hlast : (lingering tl start budget arguments body).last.now = start + budget := by
    rw [hx.last]
    exact (hx.wakes hanswers hbody).last
  rcases (course_of_lt_need grace hover).2 with ⟨-, hcourse⟩ | ⟨first, next, rest, hcut⟩
  · exact hcourse
  · -- a course that is cut would go on beyond the end of the grace period
    have hlong : start + budget + grace < (lingering tl start budget arguments body).last.now :=
      hcut.lt_last
    omega

theorem course_ends (grace : Nat) (hbody : ∀ c ∈ body, c.step.Cooperative) :
    ¬ (course tl start budget grace arguments body).ending.IsStuck := by
  by_cases hover : Overruns tl start budget arguments body
  · rw [course_of_overruns grace hbody hover]
    exact runCommands_patient_ends tl (start + budget) body _
  · obtain ⟨f, hf, hle⟩ := exists_need_le hover
    rw [(course_of_need_le grace hf hle).1]
    exact (need_eq_some hf).1

theorem enforce_ended (hbody : ∀ c ∈ body, c.step.Cooperative) :
    Ended (course tl start budget grace arguments body)
      (enforce tl start budget grace arguments body) where
  ends := course_ends grace hbody
  now := returnInstant_of_ends (course_ends grace hbody)
  arguments := rfl
  log := rfl

theorem enforce_listened (hbody : ∀ c ∈ body, c.step.Cooperative)
    (hover : Overruns tl start budget arguments body) :
    Listened tl start budget grace arguments body
      (enforce tl start budget grace arguments body) := by
  obtain ⟨x, hx, hanswers⟩ := exists_catch_answers hover
  have hwakes := hx.wakes hanswers hbody
  have hcourse := course_of_overruns grace hbody hover
  have hnow : (enforce tl start budget grace arguments body).now = start + budget := by
    rw [(enforce_ended hbody).now, hcourse, hx.last]
    exact hwakes.last
  have hout : TimedOut tl start budget grace arguments body
      (enforce tl start budget grace arguments body) := enforce_timedOut hover
  refine ⟨hout.status, hout.fault, hnow, fun hjumps => ?_, x, hcourse.symm ▸ hx, hwakes⟩
  show tl.clock (enforce tl start budget grace arguments body).now - tl.clock start = budget
  rw [hnow, tl.clock_sub_clock (Nat.le_add_right start budget) hjumps]
  omega

/-- **Cancellation is prompt for bodies that listen.**  The watchdog of such a body returns by its
deadline, and by then the body has ended.  If it was late, then the idle that is under way is woken
at the deadline, each idle that follows says at once that the signal is set, and all the rest of the
body happens at that instant, whatever the grace period.  Only waits that are too long for the
format keep the watchdog from returning. -/
theorem attempt_prompt (tl : Timeline) (start budget grace : Nat) (arguments : Arguments)
    (body : List Command) (hbody : ∀ c ∈ body, c.step.Cooperative) :
    Prompt tl start budget grace arguments body
      (attempt tl start budget grace arguments body) where
  returns hbudget hgrace := by
    by_cases hover : Overruns tl start budget arguments body
    · exact ⟨_, attempt_of_measurable hbudget (hgrace hover)⟩
    · obtain ⟨f, hf, hle⟩ := exists_need_le hover
      exact ⟨_, attempt_of_need_le grace hbudget hf hle⟩
  ended e he := by
    refine ⟨attempt_cooperative he hbody, ?_⟩
    rw [attempt_ok he]
    exact enforce_ended hbody
  listened hover e he := by
    rw [attempt_ok he]
    exact enforce_listened hbody hover
  unmeasured := attempt_of_not_measurable grace
  ungraced := attempt_of_lt_need

/-- An idle that ends just at the deadline has not seen the signal, and the next one is woken there;
a loop that follows and a look at the signal take no time, even without a grace period. -/
theorem attempt_prompt_of_tie :
    let body := commandsOf .body [.idle 10, .idle 5, .idleLoop ⟨60, by decide⟩, .check]
    (∀ c ∈ body, c.step.Cooperative) ∧ Overruns .steady 3 10 (.ofPairs []) body ∧
      ∃ e, attempt .steady 3 10 0 (.ofPairs []) body = .ok e ∧
        Listened .steady 3 10 0 (.ofPairs []) body e ∧ e.now = 13 ∧ e.verdict.elapsed = 10 := by
  intro body
  have hbody : ∀ c ∈ body, c.step.Cooperative := by simp [body, commandsOf, Step.Cooperative]
  have hneed : need .steady 3 (.ofPairs []) body = none := by decide +kernel
  have hover : Overruns .steady 3 10 (.ofPairs []) body := fun f hf => nomatch hneed.symm.trans hf
  have hprompt := attempt_prompt .steady 3 10 0 (.ofPairs []) body hbody
  obtain ⟨e, he⟩ := hprompt.returns (by decide +kernel) fun _ => by decide +kernel
  have hlistened := hprompt.listened hover e he
  exact ⟨hbody, hover, e, he, hlistened, hlistened.now,
    hlistened.elapsed fun j hj => absurd hj List.not_mem_nil⟩

/-- A body that idles for a moment does not come back from a deadline that is too far away to be
waited for: cancellation is not prompt under every deadline. -/
theorem not_forall_attempt_prompt : ¬ ∀ (tl : Timeline) (start budget grace : Nat)
    (arguments : Arguments) (body : List Command), (∀ c ∈ body, c.step.Cooperative) →
      ∃ e, attempt tl start budget grace arguments body = .ok e ∧ e.now ≤ start + budget := by
  intro h
  have hbody : ∀ c ∈ commandsOf .body [.idle 5], c.step.Cooperative := by
    simp [commandsOf, Step.Cooperative]
  obtain ⟨e, he, -⟩ := h .steady 0 (Nat.pow 10 309) 100 (.ofPairs []) _ hbody
  have hlong : isMeasurable (Nat.pow 10 309) = false := by decide +kernel
  rw [attempt_of_not_measurable 100 hlong] at he
  cases he

end Deadline

end Timebox
