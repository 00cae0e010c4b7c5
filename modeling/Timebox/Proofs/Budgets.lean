import Timebox.Proofs.Itinerary
import Timebox.Proofs.Release
import Timebox.Proofs.Timeouts

/-!
# Larger budgets

A body that is not timed out has ended by its deadline, and then it does not matter how much later
the deadline is (`Deadline.attempt_of_le`): what the watchdog leaves is the same, down to the log.
So a journey that passes in a window passes in a larger one too, as long as its deadline can be
waited for (`Plan.passes_withWindow`).

What a run does up to the verdict has nothing to do with its window.  It gets there if no fault
comes back from the observers of its first deeds, and then it enters the stage of the verdict on the
body (`Plan.mem_entered_iff`).
-/

namespace Timebox

/-! ### Bodies -/

namespace Deadline

variable {tl : Timeline} {start budget budget' grace : Nat} {arguments : Arguments}
  {body : List Command}

/-- The budget shows in a verdict of timeout only. -/
theorem classify_eq_of_ne {c : Course} (h : (classify budget c).1 ≠ .timedOut) (budget' : Nat) :
    classify budget' c = classify budget c := by
  unfold classify at h ⊢
  split at h
  · exact absurd rfl h
  · next hlate =>
    rw [if_neg hlate, if_neg hlate]
    cases hc : c.ending with
    | raised f =>
      rw [hc] at h
      dsimp only at h ⊢
      split at h
      · exact absurd rfl h
      · next hcancelled => rw [if_neg hcancelled, if_neg hcancelled]
    | _ => rfl

/-- A body that has ended by two deadlines, and is not timed out under one of them, fares alike
under both. -/
theorem enforce_eq_of_need_le {f : Nat} (hf : need tl start arguments body = some f)
    (hle : f ≤ budget) (hle' : f ≤ budget')
    (h : (enforce tl start budget grace arguments body).verdict.status ≠ .timedOut) :
    enforce tl start budget' grace arguments body =
      enforce tl start budget grace arguments body := by
  have hcourse := (course_of_need_le grace hf hle).1
  have hcourse' := (course_of_need_le grace hf hle').1
  have hends := (need_eq_some hf).1
  have hinstant : returnInstant start budget' grace (undisturbed tl start arguments body) =
      returnInstant start budget grace (undisturbed tl start arguments body) := by
    rw [returnInstant_of_ends hends, returnInstant_of_ends hends]
  have hclassify : classify budget' (undisturbed tl start arguments body) =
      classify budget (undisturbed tl start arguments body) := by
    refine classify_eq_of_ne ?_ budget'
    rw [← hcourse]
    exact h
  unfold enforce
  simp only [hcourse, hcourse', hinstant, hclassify]

/-- A larger budget does not change what is left of a body that is not timed out. -/
theorem attempt_of_le (hle : budget ≤ budget') {e : Enforced}
    (he : attempt tl start budget grace arguments body = .ok e)
    (hstatus : e.verdict.status ≠ .timedOut) (hmeasurable : isMeasurable budget' = true) :
    attempt tl start budget' grace arguments body = .ok e := by
  obtain rfl := attempt_ok he
  have hover : ¬ Overruns tl start budget arguments body :=
    fun hover => hstatus (enforce_timedOut_iff.mpr (Or.inl hover))
  obtain ⟨f, hf, hfle⟩ := exists_need_le hover
  have hfle' : f ≤ budget' := Nat.le_trans hfle hle
  rw [attempt_of_need_le grace hmeasurable hf hfle', enforce_eq_of_need_le hf hfle hfle' hstatus]

end Deadline

/-! ### Verdicts on journeys -/

/-- The stage is that of a verdict on a journey. -/
def Stage.IsVerdict : Stage → Prop
  | passed | failed | timedOut => True
  | _ => False

namespace Plan

variable {p : Plan} {c : Conditions} {s : Session} {body : Enforced} {stage : Stage}

/-- The stages that a run enters. -/
def entered (p : Plan) (c : Conditions) (s : Session) : List Stage :=
  (p.run c s).session.stages.drop s.stages.length

/-- A verdict is entered by the deeds of the plot. -/
theorem mem_entered_iff_mem_done (hstage : stage.IsVerdict) : stage ∈ p.entered c s ↔
    stage ∈ (s.records.done (p.plot c s.core).deeds).flatMap Deed.stages := by
  obtain ⟨rest, stop, hrest, hfollows⟩ := p.run_does c s
  have hclosing : stage ∉ rest.flatMap Deed.stages := by
    intro h
    have hmem : stage ∈ (closingDeeds stop).flatMap Deed.stages :=
      (Deed.prefix_flatMap hrest Deed.stages).subset h
    have hcases : stage = .argumentsRestored ∨ stage = .done := by
      simpa [closingDeeds, Deed.stages] using hmem
    rcases hcases with rfl | rfl
    · exact hstage
    · exact hstage
  unfold entered
  rw [hfollows.stages, List.drop_left, List.flatMap_append, List.mem_append,
    or_iff_left hclosing]

/-- None of the stages is that of a verdict. -/
def WithoutVerdict (stages : List Stage) : Prop :=
  ∀ stage ∈ stages, ¬ stage.IsVerdict

theorem WithoutVerdict.append {xs ys : List Stage} (hx : WithoutVerdict xs)
    (hy : WithoutVerdict ys) : WithoutVerdict (xs ++ ys) := by
  intro stage h
  rcases List.mem_append.mp h with h | h
  · exact hx stage h
  · exact hy stage h

theorem withoutVerdict_ite (b : Bool) (h : ¬ stage.IsVerdict) :
    WithoutVerdict (if b then [stage] else []) := by
  intro st hst
  cases b with
  | false => exact absurd hst List.not_mem_nil
  | true =>
    obtain rfl := List.mem_singleton.mp hst
    exact h

theorem withoutVerdict_pause (i : Interlude) (pause : Option Int) :
    WithoutVerdict (if pause.isSome then [i.stage] else []) :=
  withoutVerdict_ite _ (by cases i <;> exact id)

theorem withoutVerdict_start :
    WithoutVerdict ((p.openingDeeds c s ++ p.startDeeds s).flatMap Deed.stages) := by
  simp [WithoutVerdict, openingDeeds, startDeeds, Deed.stages, Stage.IsVerdict]

/-- What a run does until it enters the stage of the verdict on the body. -/
def deedsToVerdict (p : Plan) (c : Conditions) (s : Session) (body : Enforced) : List Deed :=
  p.openingDeeds c s ++ p.startDeeds s ++
    [.logged (p.journey.constructionLog s.now), .logged body.log,
      .entered (.ofStatus body.verdict.status) body.now]

/-- The verdict on the body is entered, and after it no other one. -/
def Judges (p : Plan) (c : Conditions) (s : Session) (body : Enforced) (ds : List Deed) : Prop :=
  ∃ more, ds = p.deedsToVerdict c s body ++ more ∧ WithoutVerdict (more.flatMap Deed.stages)

theorem Judges.append {ds rest : List Deed} (h : p.Judges c s body ds)
    (hrest : WithoutVerdict (rest.flatMap Deed.stages)) : p.Judges c s body (ds ++ rest) := by
  obtain ⟨more, rfl, hmore⟩ := h
  refine ⟨more ++ rest, List.append_assoc _ _ _, ?_⟩
  rw [List.flatMap_append]
  exact hmore.append hrest

theorem judges_verdictDeeds : p.Judges c s body (p.openingDeeds c s ++ p.startDeeds s ++
    [.logged (p.journey.constructionLog s.now), .logged body.log] ++
      p.verdictDeeds c body.now body.verdict) := by
  refine ⟨.emitted (p.finishedEvent c body.verdict) ::
    (p.failures body.verdict.fault).map .announced, ?_, ?_⟩
  · simp only [deedsToVerdict, verdictDeeds, List.append_assoc, List.cons_append, List.nil_append]
  · show WithoutVerdict (((p.failures body.verdict.fault).map Deed.announced).flatMap Deed.stages)
    rw [stages_failures]
    exact fun stage h => absurd h List.not_mem_nil

theorem judges_deedsToDue : p.Judges c s body (p.deedsToDue c s body) := by
  unfold deedsToDue waitingDeeds
  rw [← List.append_assoc]
  refine judges_verdictDeeds.append ?_
  rw [stages_pauseDeeds]
  exact withoutVerdict_pause _ _

theorem Develops.judges {a : Plot} (h : p.Develops c s a) (hi : p.isIgnored = false)
    (hbody : p.attemptBody c (p.opened s) = .ok body) : p.Judges c s body a.deeds := by
  cases h with
  | skipped hskipped => cases hi.symm.trans hskipped
  | unenforced _ hu => cases hu.symm.trans hbody
  | refused _ hbody' =>
    obtain rfl := Except.ok.inj (hbody'.symm.trans hbody)
    rw [← List.append_assoc]
    -- after a verdict no stage of a verdict is entered any more
    refine judges_verdictDeeds.append ?_
    exact withoutVerdict_ite true id
  | stuck _ hbody' =>
    obtain rfl := Except.ok.inj (hbody'.symm.trans hbody)
    refine judges_deedsToDue.append ?_
    exact withoutVerdict_ite true id
  | executed _ x =>
    obtain rfl := Except.ok.inj (x.body_eq.symm.trans hbody)
    rw [Plot.doing_deeds, Execution.deeds, Execution.deedsToTeardown]
    -- the verdict on the teardown has an event, but no stage
    refine ((judges_deedsToDue.append ?_).append ?_).append ?_
    · rw [x.stages_tearDownDeeds]
      exact withoutVerdict_ite _ id
    · rw [x.stages_reportDeeds]
      exact fun stage h => absurd h List.not_mem_nil
    · exact fun stage h => absurd h List.not_mem_nil

/-- There is no verdict if the journey is excluded, or its deadline cannot be enforced. -/
theorem Develops.withoutVerdict {a : Plot} (h : p.Develops c s a)
    (hnone : ∀ body, p.isIgnored = false → p.attemptBody c (p.opened s) ≠ .ok body) :
    WithoutVerdict (a.deeds.flatMap Deed.stages) := by
  cases h with
  | skipped =>
    simp [WithoutVerdict, openingDeeds, skipDeeds, Deed.stages, Stage.IsVerdict]
  | unenforced =>
    rw [List.flatMap_append]
    exact withoutVerdict_start.append fun stage h => absurd h List.not_mem_nil
  | refused hi hbody => exact absurd hbody (hnone _ hi)
  | stuck hi hbody => exact absurd hbody (hnone _ hi)
  | executed hi x => exact absurd x.body_eq (hnone _ hi)

theorem plot_judges (hi : p.isIgnored = false)
    (hbody : p.attemptBody c (p.opened s) = .ok body) :
    p.Judges c s body (p.plot c s.core).deeds := by
  obtain ⟨a, hdevelops, ⟨f, -, hplot⟩ | ⟨-, b, hpauses, hplot⟩⟩ := p.plot_develops c s
  · rw [hplot]
    exact hdevelops.judges hi hbody
  · rw [hplot, Plot.after_deeds]
    refine (hdevelops.judges hi hbody).append ?_
    rw [hpauses.stages]
    exact withoutVerdict_pause _ _

theorem plot_withoutVerdict
    (hnone : ∀ body, p.isIgnored = false → p.attemptBody c (p.opened s) ≠ .ok body) :
    WithoutVerdict ((p.plot c s.core).deeds.flatMap Deed.stages) := by
  obtain ⟨a, hdevelops, ⟨f, -, hplot⟩ | ⟨-, b, hpauses, hplot⟩⟩ := p.plot_develops c s
  · rw [hplot]
    exact hdevelops.withoutVerdict hnone
  · rw [hplot, Plot.after_deeds, List.flatMap_append, hpauses.stages]
    exact (hdevelops.withoutVerdict hnone).append (withoutVerdict_pause _ _)

/-- A run comes to a verdict on its journey if the journey is not excluded, no fault comes back from
the observers of what comes before, and the deadline of the body can be enforced.  Then it enters
the stage of the verdict on the body. -/
theorem mem_entered_iff (hstage : stage.IsVerdict) : stage ∈ p.entered c s ↔
    p.isIgnored = false ∧ s.records.Unbroken (p.openingDeeds c s ++ p.startDeeds s) ∧
      ∃ body, p.attemptBody c (p.opened s) = .ok body ∧
        stage = .ofStatus body.verdict.status := by
  rw [mem_entered_iff_mem_done hstage]
  by_cases hjudged : ∃ body, p.isIgnored = false ∧ p.attemptBody c (p.opened s) = .ok body
  · obtain ⟨body, hi, hbody⟩ := hjudged
    obtain ⟨more, hdeeds, hmore⟩ := plot_judges hi hbody
    rw [hdeeds]
    by_cases hunbroken : s.records.Unbroken (p.openingDeeds c s ++ p.startDeeds s)
    · -- what comes between the start and the verdict is not observed
      have hverdict : s.records.Unbroken (p.deedsToVerdict c s body) :=
        (Records.unbroken_append _ _).mpr ⟨hunbroken, rfl, rfl, rfl, trivial⟩
      have hrest : stage ∉ ((s.records.addAll (p.deedsToVerdict c s body)).done more).flatMap
          Deed.stages := fun h =>
        hmore stage ((Deed.prefix_flatMap (Records.done_prefix _ _) Deed.stages).subset h) hstage
      have hstart : stage ∉ (p.openingDeeds c s ++ p.startDeeds s).flatMap Deed.stages :=
        fun h => withoutVerdict_start stage h hstage
      rw [Records.done_append_of_unbroken hverdict, List.flatMap_append, List.mem_append,
        or_iff_left hrest, deedsToVerdict, List.flatMap_append, List.mem_append,
        or_iff_right hstart]
      have hmem : stage ∈ [Deed.logged (p.journey.constructionLog s.now), .logged body.log,
          .entered (.ofStatus body.verdict.status) body.now].flatMap Deed.stages ↔
            stage = .ofStatus body.verdict.status := by
        simp [Deed.stages]
      rw [hmem]
      constructor
      · intro h
        exact ⟨hi, hunbroken, body, hbody, h⟩
      · rintro ⟨-, -, body', hbody', h⟩
        obtain rfl := Except.ok.inj (hbody.symm.trans hbody')
        exact h
    · refine iff_of_false (fun h => ?_) fun h => hunbroken h.2.1
      rw [deedsToVerdict, List.append_assoc, Records.done_append_of_broken hunbroken] at h
      exact withoutVerdict_start stage
        ((Deed.prefix_flatMap (Records.done_prefix _ _) Deed.stages).subset h) hstage
  · refine iff_of_false (fun h => ?_) fun ⟨hi, _, body, hbody, _⟩ => hjudged ⟨body, hi, hbody⟩
    exact plot_withoutVerdict (fun body hi hbody => hjudged ⟨body, hi, hbody⟩) stage
      ((Deed.prefix_flatMap (Records.done_prefix _ _) Deed.stages).subset h) hstage

/-- The plan of the same run in another window. -/
def withWindow (p : Plan) (window : Int) : Plan :=
  { p with window := window }

/-- A journey that passes in a window passes in a larger one, if its deadline can be waited for, and
otherwise it gets no verdict. -/
theorem passes_withWindow {window : Int} (hle : p.window ≤ window)
    (h : .passed ∈ p.entered c s) :
    .failed ∉ (p.withWindow window).entered c s ∧ .timedOut ∉ (p.withWindow window).entered c s ∧
      (isMeasurable (p.withWindow window).budget = true →
        .passed ∈ (p.withWindow window).entered c s) := by
  have hverdict : Stage.passed.IsVerdict := trivial
  obtain ⟨hi, hunbroken, body, hbody, hstatus⟩ := (mem_entered_iff hverdict).mp h
  have hpassed : body.verdict.status = .passed := by
    cases hs : body.verdict.status with
    | passed => rfl
    | _ => rw [hs] at hstatus; cases hstatus
  have hbudget : p.budget ≤ (p.withWindow window).budget := by
    show (p.window - p.leeway).toNat ≤ (window - p.leeway).toNat
    omega
  have hlarger : isMeasurable (p.withWindow window).budget = true →
      (p.withWindow window).attemptBody c ((p.withWindow window).opened s) = .ok body :=
    Deadline.attempt_of_le hbudget hbody (by rw [hpassed]; nofun)
  -- whatever verdict there is in the larger window, it is that of the same body
  have hothers : ∀ stage : Stage, stage.IsVerdict → stage ∈ (p.withWindow window).entered c s →
      stage = .passed := by
    intro stage hverdict hmem
    obtain ⟨-, -, body', hbody', rfl⟩ := (mem_entered_iff hverdict).mp hmem
    have hmeasurable : isMeasurable (p.withWindow window).budget = true :=
      Deadline.isMeasurable_of_attempt hbody'
    obtain rfl := Except.ok.inj ((hlarger hmeasurable).symm.trans hbody')
    rw [hpassed]
    rfl
  refine ⟨fun hmem => ?_, fun hmem => ?_, fun hmeasurable => ?_⟩
  · cases hothers .failed trivial hmem
  · cases hothers .timedOut trivial hmem
  · exact (mem_entered_iff hverdict).mpr ⟨hi, hunbroken, body, hlarger hmeasurable, hstatus⟩

/-- **A larger budget never changes a finished outcome.**  If a body is not timed out under a
deadline, then what is left of it is the same under any later deadline that can be waited for: the
verdict with its fault and its time, the instant, the arguments and the log.  And for a fixed
leeway, a journey that passes in a window passes in a larger one, unless its deadline is too far
away to be waited for; in no case does it fail or time out. -/
theorem outcome_of_larger_budget :
    (∀ (tl : Timeline) (start : Nat) (deadline deadline' : Int) (grace : Nat)
        (arguments : Arguments) (body : List Command) (e : Enforced), deadline ≤ deadline' →
      Deadline.attempt tl start deadline.toNat grace arguments body = .ok e →
        e.verdict.status ≠ .timedOut →
          Deadline.attempt tl start deadline'.toNat grace arguments body =
            if isMeasurable deadline'.toNat then .ok e
            else .error { begun := false, now := start, arguments := arguments, log := [] }) ∧
    ∀ (p : Plan) (c : Conditions) (s : Session) (window : Int), p.window ≤ window →
      .passed ∈ p.entered c s →
        .failed ∉ (p.withWindow window).entered c s ∧
          .timedOut ∉ (p.withWindow window).entered c s ∧
            (isMeasurable (p.withWindow window).budget = true →
              .passed ∈ (p.withWindow window).entered c s) := by
  refine ⟨fun tl start deadline deadline' grace arguments body e hle he hstatus => ?_,
    fun p c s window hle h => passes_withWindow hle h⟩
  have hbudget : deadline.toNat ≤ deadline'.toNat := by omega
  cases hmeasurable : isMeasurable deadline'.toNat with
  | true => exact Deadline.attempt_of_le hbudget he hstatus hmeasurable
  | false => exact Deadline.attempt_of_not_measurable grace hmeasurable

/-- A body that fails before its deadline fails in the same way with twice the time, and a journey
that passes in five seconds passes in nine. -/
theorem outcome_of_larger_budget_of_seconds :
    let body := commandsOf .body [.idle 5, .raise (.timedOut 3)]
    let p := fiveSeconds [.idle 300] [.busy 20]
    let s := Session.unobserved (.ofPairs []) (.waiter .silent)
    (∃ e, Deadline.attempt .steady 0 10 100 (.ofPairs []) body = .ok e ∧
        e.verdict.status = .failed ∧
          Deadline.attempt .steady 0 20 100 (.ofPairs []) body = .ok e) ∧
      .passed ∈ p.entered (.steady 100) s ∧
        .passed ∈ (p.withWindow 9000).entered (.steady 100) s := by
  intro body p s
  obtain ⟨hbodies, hruns⟩ := outcome_of_larger_budget
  have hten : Deadline.attempt .steady 0 10 100 (.ofPairs []) body =
      .ok (Deadline.enforce .steady 0 10 100 (.ofPairs []) body) :=
    Deadline.attempt_of_measurable (by decide +kernel) (by decide +kernel)
  have hfailed : (Deadline.enforce .steady 0 10 100 (.ofPairs []) body).verdict.status =
      .failed := by decide +kernel
  have htwenty := hbodies .steady 0 10 20 100 (.ofPairs []) body _ (by decide) hten
    (by rw [hfailed]; decide)
  have hpassed : .passed ∈ p.entered (.steady 100) s := by decide +kernel
  obtain ⟨-, -, hlarger⟩ := hruns p (.steady 100) s 9000 (by decide) hpassed
  refine ⟨⟨_, hten, hfailed, ?_⟩, hpassed, hlarger (by decide +kernel)⟩
  have hmeasurable : isMeasurable (Int.toNat 20) = true := by decide +kernel
  rwa [hmeasurable] at htwenty

/-- A body that takes no time passes under a deadline of a moment, and does not come back from one
that is too far away to be waited for: a larger budget may change a finished outcome. -/
theorem not_forall_outcome_of_larger_budget : ¬ ∀ (tl : Timeline) (start : Nat)
    (deadline deadline' : Int) (grace : Nat) (arguments : Arguments) (body : List Command)
    (e : Enforced), deadline ≤ deadline' →
      Deadline.attempt tl start deadline.toNat grace arguments body = .ok e →
        e.verdict.status ≠ .timedOut →
          Deadline.attempt tl start deadline'.toNat grace arguments body = .ok e := by
  intro h
  have hmoment : Deadline.attempt .steady 0 100 100 (.ofPairs []) [] =
      .ok (Deadline.enforce .steady 0 100 100 (.ofPairs []) []) :=
    Deadline.attempt_of_measurable (by decide +kernel) (by decide +kernel)
  have hlong : isMeasurable (Int.ofNat (Nat.pow 10 309)).toNat = false := by decide +kernel
  have hle : (100 : Int) ≤ Int.ofNat (Nat.pow 10 309) := by decide +kernel
  have hsame := h .steady 0 100 (Int.ofNat (Nat.pow 10 309)) 100 (.ofPairs []) [] _ hle hmoment
    (by decide)
  rw [Deadline.attempt_of_not_measurable 100 hlong] at hsame
  cases hsame

end Plan

end Timebox
