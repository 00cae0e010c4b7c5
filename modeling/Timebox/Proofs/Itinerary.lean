import Timebox.Proofs.Account
import Timebox.Proofs.Undisturbed

/-!
# The stages of a run

A run overrides the arguments, passes over its journey or takes it from the start over the verdict
to its teardown, and puts the arguments back; on either side of the teardown it may idle.  These are
all the ways there are (`Itinerary`), and what is fixed for a run leaves few of them
(`Plan.Allows`): whether the journey is passed over, what the verdict is, and whether there is a
teardown.

`Plan.run_stages` says that the stages which a run enters are those of an itinerary that is allowed
to it, from the first to the last one if it returns, and else some of the first ones.
-/

namespace Timebox

/-! ### Itineraries -/

/-- The choices that are made in the course of a run. -/
structure Itinerary where
  /-- The verdict on the body, unless the journey is passed over. -/
  verdict : Option Status
  idlesBeforeTeardown : Bool
  tearsDown : Bool
  idlesBeforeNext : Bool

namespace Itinerary

/-- The stages in which the run is concerned with its journey. -/
def passage (i : Itinerary) : List Stage :=
  match i.verdict with
  | none => [.skipped]
  | some status =>
    [.running, .ofStatus status] ++
      (if i.idlesBeforeTeardown then [.idleBeforeTeardown] else []) ++
      (if i.tearsDown then [.teardown] else [])

/-- The stages until the arguments are put back. -/
def stages (i : Itinerary) : List Stage :=
  .argumentsOverridden :: i.passage ++ if i.idlesBeforeNext then [.idleBeforeNext] else []

theorem prefix_stages {i : Itinerary} {stages : List Stage}
    (h : stages <+: .argumentsOverridden :: i.passage) : stages <+: i.stages :=
  h.trans (List.prefix_append _ _)

end Itinerary

/-- The stages that have been entered in a session. -/
def Session.stages (s : Session) : List Stage :=
  s.trace.filterMap fun
    | .entered stage _ => some stage
    | .idling .. => none

theorem Session.Follows.stages {s t : Session} {ds : List Deed} (h : t.Follows s ds) :
    t.stages = s.stages ++ ds.flatMap Deed.stages := by
  unfold Session.stages
  rw [h.trace, List.filterMap_append, List.filterMap_flatMap]
  congr 2
  funext d
  cases d <;> rfl

namespace Plan

/-- What is fixed for a run about its itinerary. -/
structure Allows (p : Plan) (c : Conditions) (s : Session) (i : Itinerary) : Prop where
  /-- The journey is passed over if it is excluded, and only then. -/
  verdict_eq_none_iff : i.verdict = none ↔ p.isIgnored = true
  verdict_cases : ∀ status, i.verdict = some status →
    status = .passed ∨ status = .failed ∨ status = .timedOut
  /-- The verdict is that of the body under its deadline. -/
  status_eq : ∀ status body, i.verdict = some status → p.attemptBody c (p.opened s) = .ok body →
    status = body.verdict.status
  idlesBeforeTeardown : i.idlesBeforeTeardown = true →
    i.verdict = some .passed ∧ p.idles = true ∧ p.scenario.afterTest = .stayInApp
  /-- There is a teardown if the journey has been constructed, and only then. -/
  tearsDown_eq : i.tearsDown = p.constructs c (p.opened s)
  idlesBeforeNext : i.idlesBeforeNext = true → p.idles = true

variable {p : Plan} {c : Conditions} {s : Session} {body : Enforced} {next : Bool}

/-- The itinerary of a run that passes over its journey. -/
def skippedItinerary (p : Plan) (c : Conditions) (s : Session) (next : Bool) : Itinerary :=
  { verdict := none, idlesBeforeTeardown := false, tearsDown := p.constructs c (p.opened s)
    idlesBeforeNext := next }

/-- The itinerary of a run whose journey gets a verdict. -/
def executedItinerary (p : Plan) (c : Conditions) (s : Session) (body : Enforced) (next : Bool) :
    Itinerary :=
  { verdict := some body.verdict.status
    idlesBeforeTeardown := (p.pauseBeforeTeardown c s body).isSome
    tearsDown := p.constructs c (p.opened s), idlesBeforeNext := next }

/-- The itinerary of a run whose journey might have passed. -/
def expectedItinerary (p : Plan) (c : Conditions) (s : Session) : Itinerary :=
  { verdict := some .passed, idlesBeforeTeardown := false
    tearsDown := p.constructs c (p.opened s), idlesBeforeNext := false }

theorem allows_skippedItinerary (hi : p.isIgnored = true) (hnext : next = true → p.idles = true) :
    p.Allows c s (p.skippedItinerary c s next) where
  verdict_eq_none_iff := ⟨fun _ => hi, fun _ => rfl⟩
  verdict_cases := nofun
  status_eq _ _ h := nomatch h
  idlesBeforeTeardown := nofun
  tearsDown_eq := rfl
  idlesBeforeNext := hnext

/-- The verdict on a body under its deadline. -/
theorem status_cases (hbody : p.attemptBody c (p.opened s) = .ok body) :
    body.verdict.status = .passed ∨ body.verdict.status = .failed ∨
      body.verdict.status = .timedOut := by
  rcases Deadline.attempt_verdict hbody with ⟨h, -⟩ | ⟨f, h, -⟩ | ⟨h, -⟩
  · exact Or.inl h
  · exact Or.inr (Or.inl h)
  · exact Or.inr (Or.inr h)

theorem isSome_pauseOf {wanted : Bool} {duration : Int}
    (h : (pauseOf wanted duration).isSome = true) : wanted = true := by
  obtain ⟨d, hd⟩ := Option.isSome_iff_exists.mp h
  exact (pauseOf_eq_some hd).1

theorem allows_executedItinerary (hi : p.isIgnored = false)
    (hbody : p.attemptBody c (p.opened s) = .ok body) (hnext : next = true → p.idles = true) :
    p.Allows c s (p.executedItinerary c s body next) where
  verdict_eq_none_iff := ⟨nofun, fun h => by cases hi.symm.trans h⟩
  verdict_cases := by
    rintro _ ⟨⟩
    exact status_cases hbody
  status_eq := by
    rintro _ body' ⟨⟩ hbody'
    obtain rfl := Except.ok.inj (hbody.symm.trans hbody')
    rfl
  idlesBeforeTeardown h := by
    have hwanted := isSome_pauseOf h
    simp only [idlesBeforeTeardown, Bool.and_eq_true, decide_eq_true_eq] at hwanted
    obtain ⟨⟨hidles, hstays⟩, hpassed⟩ := hwanted
    exact ⟨congrArg some hpassed, hidles, hstays⟩
  tearsDown_eq := rfl
  idlesBeforeNext := hnext

theorem allows_expectedItinerary (hi : p.isIgnored = false) {u : Unenforced}
    (hu : p.attemptBody c (p.opened s) = .error u) :
    p.Allows c s (p.expectedItinerary c s) where
  verdict_eq_none_iff := ⟨nofun, fun h => by cases hi.symm.trans h⟩
  verdict_cases := by
    rintro _ ⟨⟩
    exact Or.inl rfl
  -- the body has got no verdict that this one could differ from
  status_eq _ _ _ hbody := by cases hu.symm.trans hbody
  idlesBeforeTeardown := nofun
  tearsDown_eq := rfl
  idlesBeforeNext := nofun

/-! ### The stages of the deeds -/

theorem stages_failures (fault : Option Fault) :
    ((p.failures fault).map Deed.announced).flatMap Deed.stages = [] := by
  cases fault <;> rfl

theorem stages_pauseDeeds (i : Interlude) (now : Nat) (pause : Option Int) :
    (p.pauseDeeds c i now pause).flatMap Deed.stages =
      if pause.isSome then [i.stage] else [] := by
  cases pause <;> rfl

theorem stages_verdictDeeds (now : Nat) (v : Verdict) :
    (p.verdictDeeds c now v).flatMap Deed.stages = [.ofStatus v.status] := by
  unfold verdictDeeds
  rw [List.flatMap_append, stages_failures]
  rfl

theorem stages_deedsToDue : (p.deedsToDue c s body).flatMap Deed.stages =
    [.argumentsOverridden, .running, .ofStatus body.verdict.status] ++
      if (p.pauseBeforeTeardown c s body).isSome then [.idleBeforeTeardown] else [] := by
  unfold deedsToDue waitingDeeds
  simp only [List.flatMap_append, stages_verdictDeeds, stages_pauseDeeds]
  rfl

theorem Execution.stages_tearDownDeeds (x : p.Execution c s) :
    x.tearDownDeeds.flatMap Deed.stages =
      if p.constructs c (p.opened s) then [.teardown] else [] := by
  unfold tearDownDeeds
  cases p.constructs c (p.opened s) <;> cases x.tearDown <;> rfl

theorem Execution.stages_reportDeeds (x : p.Execution c s) :
    x.reportDeeds.flatMap Deed.stages = [] := by
  unfold reportDeeds
  cases x.tearDown with
  | none => rfl
  | some e => exact stages_failures e.verdict.fault

theorem Execution.stages_deeds (x : p.Execution c s) (next : Bool) : x.deeds.flatMap Deed.stages =
    .argumentsOverridden :: (p.executedItinerary c s x.body next).passage := by
  have hfinished : [Deed.announced (.finished p.description)].flatMap Deed.stages = [] := rfl
  unfold deeds deedsToTeardown
  rw [List.flatMap_append, List.flatMap_append, List.flatMap_append, stages_deedsToDue,
    x.stages_tearDownDeeds, x.stages_reportDeeds, hfinished, List.append_nil, List.append_nil]
  rfl

theorem Pauses.stages {i : Interlude} {pause : Option Int} {k : Core} {b : Plot}
    (h : p.Pauses c i pause k b) :
    b.deeds.flatMap Deed.stages = if pause.isSome then [i.stage] else [] := by
  cases h with
  | rested => exact stages_pauseDeeds i k.now pause
  | refused hpause => rw [hpause]; rfl

namespace Develops

variable {a : Plot}

/-- A run that does not get to its last pause has entered the first stages of an itinerary that is
allowed. -/
theorem stages_of_fault {f : Fault} (h : p.Develops c s a) (hf : a.fault = some f) :
    ∃ i, p.Allows c s i ∧ a.deeds.flatMap Deed.stages <+: i.stages := by
  cases h with
  | skipped => cases hf
  | unenforced hi hu =>
    -- without a verdict, all that has been entered comes before that of any verdict
    exact ⟨_, allows_expectedItinerary hi hu, Itinerary.prefix_stages ⟨_, rfl⟩⟩
  | @refused body _ _ _ hi hbody hpause =>
    refine ⟨p.executedItinerary c s body false, allows_executedItinerary hi hbody nofun,
      Itinerary.prefix_stages ?_⟩
    -- the pause has been entered before it was refused
    have hstages : [Stage.argumentsOverridden, .running, .ofStatus body.verdict.status,
        .idleBeforeTeardown] <+:
          .argumentsOverridden :: (p.executedItinerary c s body false).passage := by
      unfold executedItinerary
      rw [hpause]
      exact ⟨_, rfl⟩
    simp only [List.flatMap_append, stages_verdictDeeds]
    exact hstages
  | @stuck body _ _ _ _ hi hbody _ hconstructs =>
    refine ⟨p.executedItinerary c s body false, allows_executedItinerary hi hbody nofun,
      Itinerary.prefix_stages ?_⟩
    unfold executedItinerary
    rw [List.flatMap_append, stages_deedsToDue, hconstructs]
    exact List.prefix_refl _
  | executed => cases hf

/-- A run that gets to its last pause has entered all stages before it. -/
theorem stages_of_none (h : p.Develops c s a) (hnone : a.fault = none)
    (hnext : next = true → p.idles = true) : ∃ i, p.Allows c s i ∧
      a.deeds.flatMap Deed.stages ++ (if next then [.idleBeforeNext] else []) = i.stages ∧
      (p.isIgnored = false → ∃ body, p.attemptBody c (p.opened s) = .ok body) := by
  cases h with
  | skipped hi =>
    refine ⟨_, allows_skippedItinerary hi hnext, rfl, fun hexecuted => ?_⟩
    cases hexecuted.symm.trans hi
  | unenforced => cases hnone
  | refused => cases hnone
  | stuck => cases hnone
  | executed hi x =>
    refine ⟨_, allows_executedItinerary hi x.body_eq hnext, ?_, fun _ => ⟨_, x.body_eq⟩⟩
    rw [Plot.doing_deeds, x.stages_deeds next]
    rfl

end Develops

/-- The plot of a run enters the stages of an itinerary that is allowed, or the first of them if it
ends with a fault. -/
theorem plot_stages (p : Plan) (c : Conditions) (s : Session) : ∃ i, p.Allows c s i ∧
    (p.plot c s.core).deeds.flatMap Deed.stages <+: i.stages ∧
    ((p.plot c s.core).fault = none →
      (p.plot c s.core).deeds.flatMap Deed.stages = i.stages ∧
        (p.isIgnored = false → ∃ body, p.attemptBody c (p.opened s) = .ok body)) := by
  obtain ⟨a, hdevelops, ⟨f, hf, hplot⟩ | ⟨hnone, b, hpauses, hplot⟩⟩ := p.plot_develops c s
  · obtain ⟨i, hi, hstages⟩ := hdevelops.stages_of_fault hf
    rw [hplot, hf]
    exact ⟨i, hi, hstages, nofun⟩
  -- the stage of the last pause is entered whether the pause comes back or is refused
  · have hnext : (p.pauseBeforeNext c s a.core.now).isSome = true → p.idles = true := isSome_pauseOf
    obtain ⟨i, hi, hstages, hbody⟩ := hdevelops.stages_of_none hnone hnext
    have hdeeds : (p.plot c s.core).deeds.flatMap Deed.stages = i.stages := by
      rw [hplot, Plot.after_deeds, List.flatMap_append, hpauses.stages]
      exact hstages
    rw [hdeeds]
    exact ⟨i, hi, List.prefix_refl _, fun _ => ⟨rfl, hbody⟩⟩

/-- The stages which a run enters are those of an itinerary that is allowed to it, first to last,
if it returns; then its body has got its verdict, unless its journey is excluded.  If it ends with a
fault they are the first ones of such an itinerary, and then the arguments may be put back. -/
theorem run_stages (p : Plan) (c : Conditions) (s : Session) : (p.run c s).Ends
    (fun t => t.stage = .done ∧
      (p.isIgnored = false → ∃ body, p.attemptBody c (p.opened s) = .ok body) ∧
      ∃ i, p.Allows c s i ∧ t.stages = s.stages ++ i.stages ++ [.argumentsRestored, .done])
    (fun _ t => ∃ i xs ys, p.Allows c s i ∧ xs <+: i.stages ∧ ys <+: [.argumentsRestored] ∧
      t.stages = s.stages ++ xs ++ ys) := by
  obtain ⟨i, hallows, hprefix, hreturns⟩ := p.plot_stages c s
  refine (p.run_follows c s).mono ?_ ?_
  · rintro t ⟨hnone, hstage, hfollows⟩
    obtain ⟨hstages, hbody⟩ := hreturns hnone
    refine ⟨hstage, hbody, i, hallows, ?_⟩
    rw [hfollows.stages, List.flatMap_append, hstages, List.append_assoc]
    rfl
  · rintro f t ⟨ds, rest, hds, hrest, hfollows⟩
    refine ⟨i, _, _, hallows, (Deed.prefix_flatMap hds Deed.stages).trans hprefix,
      Deed.prefix_flatMap hrest Deed.stages, ?_⟩
    rw [hfollows.stages, List.flatMap_append, List.append_assoc]

end Plan

end Timebox
