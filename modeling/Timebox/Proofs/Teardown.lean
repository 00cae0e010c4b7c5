import Timebox.Proofs.Account
import Timebox.Proofs.Release
import Timebox.Proofs.Undisturbed

/-!
# The teardown has time of its own

A journey that has been constructed and knows how to clean up does so exactly once, whatever its
preparation and its run have done: they may have passed, raised a fault, set the signal themselves,
run into their deadline, or been abandoned.  The teardown starts when the verdict on the body has
been recorded and the pause after it is over, from the arguments that the body has left, with a new
signal and under a deadline of its own, which is the leeway (`TornDown`).  A teardown that takes no
longer than that takes all of its steps (`TornDown.reserve`).

Only a fault that ends the run early keeps it from its teardown (`run_tornDown`).  Without observers
that raise faults which are not ordinary, this is a fault of the idler, or a wait that is too long.

Nothing of this concerns a journey that has not been constructed: such a run does not depend on what
the preparation, the run and the teardown of its journey are (`run_withHooks`).
-/

namespace Timebox

/-- A session whose idler refuses the first request. -/
def Session.refusing : Session :=
  .unobserved .empty (.script [.failing (.general .runtime (some "waiter down"))])

namespace Plan

variable {p : Plan} {c : Conditions} {s t : Session}

/-! ### The reserve -/

/-- The course that a teardown takes if it starts at an instant: the signal is not set, and its
deadline is over when the leeway has passed from then on. -/
def tearDownCourse (p : Plan) (c : Conditions) (due : Nat) (arguments : Arguments)
    (commands : List Command) : Course :=
  runCommands (Deadline.surroundings c.timeline due p.leeway c.grace) commands
    { now := due, cancelled := false, arguments := arguments }

/-- A run has torn down its journey at an instant, after the body, and has done some more
afterwards. -/
structure TornDown (p : Plan) (c : Conditions) (s : Session) (commands : List Command)
    (body : Enforced) (due : Nat) (rest : List Deed) (t : Session) : Prop where
  body_eq : p.attemptBody c (p.opened s) = .ok body
  le_due : body.now ≤ due
  /-- The verdict is recorded before, and there may be a pause; the teardown starts from the
  arguments that the body has left. -/
  follows : t.Follows s (p.deedsToDue c s body ++
    [.entered .teardown due, .logged (p.tearDownCourse c due body.arguments commands).log] ++ rest)
  once : ∀ d ∈ p.deedsToDue c s body ++ rest, ¬ d.Enters .teardown
  entries : rest.flatMap Deed.entries = []
  /-- A failure that is announced afterwards is the teardown's own. -/
  failure : ∀ f, .failure f ∈ rest.flatMap Deed.notices →
    (Deadline.classify p.leeway (p.tearDownCourse c due body.arguments commands)).2 = some f.fault
  /-- If the leeway is enough for the teardown, it is as if it were left alone; then it adds a
  failure only if it raises a fault. -/
  reserve : ¬ (Deadline.undisturbed c.timeline due body.arguments commands).ending.IsStuck →
    (Deadline.undisturbed c.timeline due body.arguments commands).last.now ≤ due + p.leeway →
    p.tearDownCourse c due body.arguments commands =
        Deadline.undisturbed c.timeline due body.arguments commands ∧
      ((Deadline.undisturbed c.timeline due body.arguments commands).ending = .returned →
        ∀ f, .failure f ∉ rest.flatMap Deed.notices)

/-- Everything that follows the teardown of an execution leaves it at that. -/
theorem Execution.tornDown (x : p.Execution c s) {commands : List Command} {rest : List Deed}
    (hconstructs : p.constructs c (p.opened s) = true)
    (hcommands : p.journey.tearDown = some commands)
    (ht : t.Follows s (x.deedsToTeardown ++ rest)) (hrest : ∀ d ∈ rest, x.Trails d) :
    p.TornDown c s commands x.body x.due rest t := by
  obtain ⟨e, hx⟩ : ∃ e, x.tearDown = some e := by
    rw [← Option.isSome_iff_exists, x.tearDown_isSome, hconstructs, hcommands]
    rfl
  obtain ⟨commands', hcommands', hattempt⟩ := x.tearDown_eq e hx
  obtain rfl := Option.some.inj (hcommands.symm.trans hcommands')
  have he := Deadline.attempt_ok hattempt
  have hfailure : ∀ f, Notice.failure f ∈ rest.flatMap Deed.notices →
      e.verdict.fault = some f.fault := by
    intro f hf
    obtain ⟨d, hd, hfd⟩ := List.mem_flatMap.mp hf
    obtain ⟨e', he', hfault⟩ := (hrest d hd).failure f hfd
    obtain rfl := Option.some.inj (hx.symm.trans he')
    exact hfault
  refine ⟨x.body_eq, x.due_le, ?_, ?_, ?_, ?_, ?_⟩
  · -- the entries that the teardown leaves are those of its course, whatever the verdict on it
    have hdeeds : x.deedsToTeardown = p.deedsToDue c s x.body ++
        [.entered .teardown x.due, .logged e.log] := by
      unfold Execution.deedsToTeardown Execution.tearDownDeeds
      rw [hx, hconstructs]
      rfl
    rw [hdeeds, he] at ht
    exact ht
  · intro d hd
    rcases List.mem_append.mp hd with hd | hd
    · exact not_enters_deedsToDue x.body d hd
    · exact (hrest d hd).not_enters
  · rw [List.flatMap_eq_nil_iff]
    exact fun d hd => (hrest d hd).entries
  · intro f hf
    have hfault := hfailure f hf
    rw [he] at hfault
    exact hfault
  · intro hend hlast
    refine ⟨Deadline.course_eq_undisturbed hend hlast, fun hreturned f hf => ?_⟩
    have hpassed : e.verdict.fault = none := by
      rw [he]
      exact ((Deadline.enforce_of_undisturbed hend hlast).2 hreturned).2
    cases hpassed.symm.trans (hfailure f hf)

/-! ### Journeys that are not constructed -/

/-- The plan with other hooks: another preparation, another run and another teardown. -/
def withHooks (p : Plan) (setUp : Option (List Command)) (run : List Command)
    (tearDown : Option (List Command)) : Plan :=
  { p with journey := { p.journey with setUp := setUp, run := run, tearDown := tearDown } }

section

variable (h : p.constructs c (p.opened s) = false) (setUp : Option (List Command))
  (run : List Command) (tearDown : Option (List Command))

include h

/-- The body does not get beyond the construction. -/
theorem attemptBody_withHooks :
    (p.withHooks setUp run tearDown).attemptBody c (p.opened s) =
      p.attemptBody c (p.opened s) := by
  have hhooks := Deadline.attempt_append h (p.withHooks setUp run tearDown).journey.body
  have hown := Deadline.attempt_append h p.journey.body
  exact hhooks.trans hown.symm

theorem execute_withHooks (origin : Int) (ht : t.core = (p.opened s).core) :
    (p.withHooks setUp run tearDown).execute c origin t = p.execute c origin t := by
  have hcore : ((t.announce (.started p.description)).session.enter .running).core =
      (p.opened s).core := ht
  have hattempt := p.attemptBody_congr (c := c) hcore
  have hattempt' := ((p.withHooks setUp run tearDown).attemptBody_congr (c := c) hcore).trans
    (attemptBody_withHooks h setUp run tearDown)
  have hconstructs := (p.constructs_congr (c := c) hcore).trans h
  have hconstructs' := ((p.withHooks setUp run tearDown).constructs_congr (c := c) hcore).trans h
  have hdescription : (p.withHooks setUp run tearDown).description = p.description := rfl
  unfold execute
  rw [hdescription]
  refine Progress.andThen_congr ?_
  -- what is left reads the hooks only in the attempt at the body, and in the teardown, which is
  -- passed over
  dsimp only
  rw [hattempt, hattempt', hconstructs, hconstructs']
  split
  · rfl
  · rfl

/-- The run of a journey that is not constructed does not depend on its hooks: none of them is ever
called. -/
theorem run_withHooks : (p.withHooks setUp run tearDown).run c s = p.run c s := by
  have hcore : ((p.opened s).emit (p.overriddenEvent c)).session.core = (p.opened s).core := rfl
  have hexecute := execute_withHooks h setUp run tearDown (c.timeline.clock s.now) hcore
  have hbody : (p.withHooks setUp run tearDown).body c (c.timeline.clock s.now)
      ((p.opened s).emit (p.overriddenEvent c)).session =
        p.body c (c.timeline.clock s.now) ((p.opened s).emit (p.overriddenEvent c)).session := by
    unfold body
    rw [hexecute]
    rfl
  unfold Plan.run
  refine Progress.andThen_congr ?_
  exact congrArg (fun q : Progress => (q.always (restore s.arguments.save)).andThen
    fun s => { session := s.enter .done }) hbody

end

/-! ### Runs -/

/-- The journey of a run is torn down once it has been constructed, if it knows how to clean up,
unless a fault ends the run before, or the deadline of the teardown cannot be enforced.  None of its
hooks is called if it is not constructed.  With tame observers, a fault is the idler's own, or there
is a wait that is too long. -/
theorem run_tornDown (hi : p.isIgnored = false) :
    (∀ commands, p.constructs c (p.opened s) = true → p.journey.tearDown = some commands →
      (∃ body due rest, p.TornDown c s commands body due rest (p.run c s).session) ∨
        ∃ f, (p.run c s).fault = some f ∧
          ((∃ ds, (p.run c s).session.Follows s ds ∧ ∀ d ∈ ds, ¬ d.Enters .teardown) ∨
            f = .immeasurable ∧ (isMeasurable p.leeway = false ∨ isMeasurable c.grace = false))) ∧
    (p.constructs c (p.opened s) = false → ∀ setUp run tearDown,
      (p.withHooks setUp run tearDown).run c s = p.run c s) ∧
    (s.Tame → ∀ f, (p.run c s).fault = some f →
      s.idler.Raises f ∨ f = .immeasurable ∧ ¬ p.Measurable c) := by
  have haccount := p.run_account c s
  refine ⟨fun commands hconstructs hcommands => ?_, run_withHooks, fun ht f hf => ?_⟩
  · cases hfault : (p.run c s).fault with
    | none =>
      obtain ⟨ds, spent, stop, hds, -, hdid⟩ := haccount.of_fault_eq_none hfault
      cases hds with
      | skipped hskipped => cases hskipped.symm.trans hi
      | executed _ x =>
        have hquiet : ∀ d ∈ p.pauseDeeds c .beforeNext x.spent (p.pauseBeforeNext c s x.spent) ++
            closingDeeds stop, d.Quiet := by
          intro d hd
          rcases List.mem_append.mp hd with hd | hd
          · exact quiet_pauseDeeds _ d hd
          · exact quiet_closingDeeds stop d hd
        have hfollows := hdid.follows
        unfold Execution.deeds at hfollows
        simp only [List.append_assoc] at hfollows
        exact Or.inl ⟨x.body, x.due, _,
          x.tornDown hconstructs hcommands hfollows (x.trails_of_finished hquiet)⟩
    | some f =>
      obtain ⟨ds, hfollows, hcut⟩ := haccount.of_fault_eq_some hfault
      -- the teardown has not begun, it could not be put under its deadline, or it is over
      cases hcut with
      | early h => exact Or.inr ⟨f, rfl, Or.inl ⟨ds, hfollows, h⟩⟩
      | stuck h => exact Or.inr ⟨_, rfl, Or.inr ⟨rfl, h⟩⟩
      | late x h => exact Or.inl ⟨x.body, x.due, _, x.tornDown hconstructs hcommands hfollows h⟩
  · exact ((p.run_returns ht).of_fault_eq_some hf).2.1

/-- A journey sets its signal and is abandoned; its teardown finds the signal not set, and takes all
of its leeway. -/
theorem run_tornDown_of_abandoned :
    let p := fiveSeconds [.cancel, .busy 9000] [.isCancelled, .idle 1000]
    let progress := p.run (.steady 500) .polled
    progress.fault = none ∧ ∃ body due rest, p.TornDown (.steady 500) .polled
      (commandsOf .tearDown [.isCancelled, .idle 1000]) body due rest progress.session := by
  intro p progress
  have hfault : progress.fault = none :=
    fault_eq_none_of_measurable (Session.unobserved_tame _ _) Session.polled_punctual.not_raises
      (fiveSeconds_measurable (Timeline.forward_of_eq_steady rfl) (by decide +kernel) _ _)
  have hi : p.isIgnored = false := by decide +kernel
  obtain ⟨htorn, -, -⟩ := run_tornDown (c := .steady 500) (s := .polled) hi
  rcases htorn _ (by decide +kernel) rfl with htorn | ⟨f, hf, -⟩
  · exact ⟨hfault, htorn⟩
  · cases hfault.symm.trans hf

/-- A run need not come to the teardown of its journey: its idler may raise a fault before. -/
theorem not_forall_tornDown : ¬ ∀ (p : Plan) (c : Conditions) (s : Session)
    (commands : List Command), p.isIgnored = false → s.Tame → p.constructs c (p.opened s) = true →
    p.journey.tearDown = some commands →
    ∃ body due rest, p.TornDown c s commands body due rest (p.run c s).session := by
  intro h
  obtain ⟨body, due, rest, htorn⟩ := h (fiveSeconds [] [.clock]) (.steady 500) .refusing _
    (by decide +kernel) (Session.unobserved_tame _ _) (by decide +kernel) rfl
  have hshown : ((fiveSeconds [] [.clock]).run (.steady 500) .refusing).session.trace =
      [.entered .argumentsOverridden 0, .entered .running 0, .entered .passed 0,
        .entered .idleBeforeTeardown 0, .idling .beforeTeardown 3000,
        .entered .argumentsRestored 0] := by
    decide +kernel
  have hentered : TraceEntry.entered .teardown due ∈
      ((fiveSeconds [] [.clock]).run (.steady 500) .refusing).session.trace := by
    rw [htorn.follows.trace]
    simp [Deed.marks]
  rw [hshown] at hentered
  simp at hentered

end Plan

end Timebox
