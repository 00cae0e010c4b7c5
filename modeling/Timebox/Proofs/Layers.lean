import Timebox.Proofs.Decimals
import Timebox.Proofs.Exclusions
import Timebox.Proofs.Printout
import Timebox.Proofs.Settings
import Timebox.Proofs.Spellings

/-!
# The layers of options

The options of an invocation come in layers: the flags, the arguments of the command line, those of
the profile, and what else the profile states. The leeway is decided by the first layer that says
something about it (`CommandLine.Invocation.leeway_of_first_layer`). What is excluded is decided by
the first layer below the flags, and the flags add to it
(`CommandLine.Invocation.run_ignores_iff`).

Each step that makes options out of layers is followed by what it does to a look-up of the leeway,
and to the names that are excluded. That a run passes over its journey just if the options exclude
it has been said of all runs (`Plan.mem_entered_gate`).
-/

namespace Timebox

open Exclusion

/-! ### Leeways -/

/-- What a text, or none, states about the leeway. -/
inductive StatesLeeway : Option String → Nat → Prop
  | unsaid : StatesLeeway none 3000
  | blank {text : String} (h : Text.isAllBlank text = true) : StatesLeeway (some text) 3000
  | integer {text : String} {n : Nat} (h : Text.readBlankedInteger text = some (n : Int)) :
    StatesLeeway (some text) n

/-- A text states the leeway that is read off it. -/
theorem statesLeeway_of_leewayOfText {text : String} {n : Nat} (h : leewayOfText text = .ok n) :
    StatesLeeway (some text) n := by
  unfold leewayOfText at h
  split at h
  · next hblank =>
    obtain rfl := Except.ok.inj h
    exact .blank hblank
  · split at h
    · cases h
    · next m hread =>
      split at h
      · cases h
      · next hpos =>
        obtain rfl := Except.ok.inj h
        exact .integer (by rw [hread, Int.toNat_of_nonneg (Int.not_lt.mp hpos)])

/-- The leeway that a text states is read off it. -/
theorem leewayOfText_of_statesLeeway {text : String} {n : Nat} (h : StatesLeeway (some text) n) :
    leewayOfText text = .ok n := by
  unfold leewayOfText
  cases h with
  | blank hblank => exact if_pos hblank
  | integer hread =>
    have hblank : ¬ Text.isAllBlank text = true := fun hblank =>
      nomatch hread.symm.trans (Text.readBlankedInteger_of_isAllBlank hblank)
    rw [if_neg hblank, hread]
    rfl

/-- Options have the leeway that their text states, and no other one. -/
theorem leewayOf_eq_ok_iff {options : Bindings} {n : Nat} :
    leewayOf options = .ok n ↔ StatesLeeway (options.get? leewayOption) n := by
  unfold leewayOf
  cases options.get? leewayOption with
  | none =>
    constructor
    · intro h
      obtain rfl := Except.ok.inj h
      exact .unsaid
    · intro h
      cases h
      rfl
  | some text => exact ⟨statesLeeway_of_leewayOfText, leewayOfText_of_statesLeeway⟩

/-! ### Bodies that time out -/

namespace Plan

variable {p : Plan} {c : Conditions} {s : Session} {body : Enforced}

theorem fault_of_timedOut (hbody : p.attemptBody c (p.opened s) = .ok body)
    (h : body.verdict.status = .timedOut) : body.verdict.fault = some (.timedOut p.budget) := by
  rcases Deadline.attempt_verdict hbody with ⟨hpassed, -⟩ | ⟨f, hfailed, -⟩ | ⟨-, hfault⟩
  · cases h.symm.trans hpassed
  · cases h.symm.trans hfailed
  · exact hfault

/-- The verdict on the body is recorded, whatever follows. -/
theorem verdictDeeds_subset_plot (hi : p.isIgnored = false)
    (hbody : p.attemptBody c (p.opened s) = .ok body) :
    p.verdictDeeds c body.now body.verdict ⊆ (p.plot c s.core).deeds := by
  have hdue : p.verdictDeeds c body.now body.verdict ⊆ p.deedsToDue c s body := by
    unfold deedsToDue waitingDeeds
    exact List.subset_append_of_subset_right _ (List.subset_append_left _ _)
  obtain ⟨a, ha, hprefix⟩ := p.exists_develops_prefix c s
  refine List.Subset.trans ?_ hprefix.subset
  -- there is one body in all of the ways in which a run can develop
  cases ha with
  | skipped hskipped => cases hi.symm.trans hskipped
  | unenforced _ hu => cases hu.symm.trans hbody
  | refused _ hbody' =>
    obtain rfl := Except.ok.inj (hbody'.symm.trans hbody)
    exact List.subset_append_of_subset_right _ (List.subset_append_left _ _)
  | stuck _ hbody' =>
    obtain rfl := Except.ok.inj (hbody'.symm.trans hbody)
    exact List.subset_append_of_subset_left _ hdue
  | executed _ x =>
    obtain rfl := Except.ok.inj (x.body_eq.symm.trans hbody)
    exact List.Subset.trans hdue x.deedsToDue_prefix.subset

/-- Listeners are told of a body that times out, and of its deadline. -/
theorem notice_of_timedOut {id : Nat} (ht : s.Tame) (hk : s.panel.Keeps id)
    (h : .timedOut ∈ p.entered c s) :
    .failure ⟨p.description, .timedOut p.budget⟩ ∈ (p.run c s).session.panel.kept id := by
  have hverdict : Stage.timedOut.IsVerdict := trivial
  obtain ⟨hi, -, body, hbody, hstage⟩ := (mem_entered_iff hverdict).mp h
  have hstatus : body.verdict.status = .timedOut := by
    cases hs : body.verdict.status <;> rw [hs] at hstage <;> cases hstage
  have hannounced : .announced (.failure ⟨p.description, .timedOut p.budget⟩) ∈
      p.verdictDeeds c body.now body.verdict := by
    unfold verdictDeeds
    rw [fault_of_timedOut hbody hstatus]
    simp [failures]
  obtain ⟨rest, hdid, hrest⟩ := p.did_of_tame c ht
  rw [hdid.kept hk, List.flatMap_append, hrest, List.append_nil]
  exact List.mem_append_right _ (List.mem_flatMap.mpr
    ⟨_, verdictDeeds_subset_plot hi hbody hannounced, List.mem_singleton_self _⟩)

end Plan

/-! ### Options of profiles -/

theorem excludeOption_ne_leewayOption : excludeOption ≠ leewayOption := by decide

namespace Profile

variable {p : Profile} {options : Bindings}

theorem options?_eq_some (h : p.isLeewayWritable = true) : ∃ options, p.options? = some options :=
  ⟨_, if_pos h⟩

theorem options?_eq_none (h : p.isLeewayWritable = false) : p.options? = none :=
  if_neg (Bool.eq_false_iff.mp h)

/-- What a profile states of an option in a field of its own. -/
def stated? (p : Profile) (key : String) : Option String :=
  if key = leewayOption then p.statedLeeway.map toString
  else if key = excludeOption then
    if p.exclude.isEmpty then none else some (",".intercalate p.exclude)
  else none

/-- What is stated in a field hides the argument of that key. -/
theorem get?_of_options? (h : p.options? = some options) (key : String) :
    options.get? key = (p.stated? key).or (p.arguments.get? key) := by
  have hleeway : p.optionsWithLeeway.get? key =
      (if key = leewayOption then p.statedLeeway.map toString else none).or
        (p.arguments.get? key) := by
    unfold optionsWithLeeway
    cases p.statedLeeway with
    | none =>
      rw [Option.map_none, ite_self]
      rfl
    | some n =>
      rw [Bindings.get?_set]
      split <;> rfl
  unfold options? at h
  split at h
  · obtain rfl := Option.some.inj h
    unfold stated?
    split
    · rw [ite_self, hleeway]
    · rw [Bindings.get?_set, hleeway]
      -- the two fields state different options
      by_cases hkey : key = excludeOption
      · rw [if_pos hkey, if_pos hkey, if_neg (hkey ▸ excludeOption_ne_leewayOption)]
        rfl
      · rw [if_neg hkey, if_neg hkey]
  · cases h

end Profile

namespace CommandLine

/-! ### Options of flags -/

variable {options : Bindings}

theorem get?_withTeardownWindow (options : Bindings) (window : Option Int) (key : String) :
    (withTeardownWindow options window).get? key =
      if key = leewayOption then (window.map toString).or (options.get? key)
      else options.get? key := by
  cases window with
  | none => exact (ite_self _).symm
  | some n => exact Bindings.get?_set options leewayOption (toString n) key

theorem get?_leeway_withExclusions (options : Bindings) (more : List String) :
    (withExclusions options more).get? leewayOption = options.get? leewayOption := by
  unfold withExclusions
  dsimp only
  split
  · rfl
  · rw [Bindings.get?_set, if_neg excludeOption_ne_leewayOption.symm]

/-- The entries that options exclude name what the options exclude. -/
theorem flatMap_namesIn_excludedBy (options : Bindings) :
    (excludedBy options).flatMap namesIn =
      namesIn ((options.get? excludeOption).getD "") := by
  generalize hspec : (options.get? excludeOption).getD "" = spec
  -- what stands between commas is an entry, with or without the blank ones
  have hentries : ∀ e ∈ excludedBy options, ',' ∉ e.toList := by
    unfold excludedBy
    rw [hspec]
    intro e he
    obtain ⟨cs, hcs, rfl⟩ := List.mem_map.mp (List.mem_of_mem_filter he)
    rw [String.toList_ofList]
    exact Text.not_mem_of_mem_pieces hcs
  rw [← namesIn_intercalate, namesIn_intercalate_of_not_mem hentries]
  unfold excludedBy namesIn namesOf
  rw [hspec, List.filter_filter]
  simp only [Bool.and_self]

/-- Further exclusions add the names in them. -/
theorem namesIn_withExclusions (options : Bindings) (more : List String) :
    namesIn (((withExclusions options more).get? excludeOption).getD "") =
      namesIn ((options.get? excludeOption).getD "") ++ more.flatMap namesIn := by
  rw [← flatMap_namesIn_excludedBy options, ← List.flatMap_append]
  unfold withExclusions
  dsimp only
  split
  · next hempty =>
    obtain ⟨hnone, rfl⟩ := List.append_eq_nil_iff.mp (List.isEmpty_iff.mp hempty)
    rw [← flatMap_namesIn_excludedBy options, List.append_nil]
  · rw [Bindings.get?_set, if_pos rfl, Option.getD_some, namesIn_intercalate]

namespace Invocation

/-! ### Layers of an invocation -/

variable {i : Invocation} {p : Profile} {s : Scenario} {cat : Catalogue} {plan : Plan}

/-- The text of an argument: the last one of its key on the command line, or that of the
profile. -/
def argument? (i : Invocation) (p : Profile) (key : String) : Option String :=
  (i.arguments.reverse.lookup key).or (p.arguments.get? key)

/-- What is excluded without the flags: what the arguments say if they say anything, or else what
the profile says. -/
def exclusion (i : Invocation) (p : Profile) : String :=
  (i.argument? p excludeOption).getD (",".intercalate p.exclude)

/-- The journey of a name is excluded, with or without the flags. -/
def Excludes (i : Invocation) (p : Profile) (name : String) : Prop :=
  normalize name ∈ namesIn (i.exclusion p) ∨ ∃ x ∈ i.exclude, normalize name ∈ namesIn x

/-- What the first layer says that says something about the leeway: the flag, the arguments, or the
leeway that the profile states. -/
def leewayText? (i : Invocation) (p : Profile) : Option String :=
  (i.teardownWindow.map toString).or
    ((i.argument? p leewayOption).or (p.statedLeeway.map toString))

/-- There are options if the leeway that the profile states has a text. -/
theorem optionsOf_of_writable (h : p.isLeewayWritable = true) (arguments : Arguments)
    (window : Option Int) (exclude : List String) :
    ∃ options, optionsOf p arguments window exclude = some options := by
  obtain ⟨below, hbelow⟩ := Profile.options?_eq_some h
  unfold optionsOf
  rw [hbelow]
  exact ⟨_, rfl⟩

/-- The arguments lie over the options of the profile. -/
theorem get?_arguments_over (i : Invocation) (p : Profile) (options : Bindings) (key : String) :
    (options.overlay (i.argumentsWith p).entries).get? key =
      (i.argument? p key).or (options.get? key) := by
  rw [Bindings.get?_overlay_entries]
  exact congrArg (·.or (options.get? key)) (p.arguments.get?_overlay i.arguments key)

/-- What the options of an invocation say. -/
theorem optionsOf_eq_some
    (h : optionsOf p (i.argumentsWith p) i.teardownWindow i.exclude = some options) :
    options.get? leewayOption = i.leewayText? p ∧
      namesIn ((options.get? excludeOption).getD "") =
        namesIn (i.exclusion p) ++ i.exclude.flatMap namesIn := by
  obtain ⟨below, hbelow, rfl⟩ := Option.map_eq_some_iff.mp h
  constructor
  · rw [get?_leeway_withExclusions, get?_withTeardownWindow, if_pos rfl, get?_arguments_over,
      Profile.get?_of_options? hbelow, Profile.stated?, if_pos rfl]
    unfold leewayText? argument?
    -- the arguments of the profile are looked at twice, and the second time in vain
    cases i.arguments.reverse.lookup leewayOption <;>
      cases p.arguments.get? leewayOption <;> simp
  · rw [namesIn_withExclusions, get?_withTeardownWindow, if_neg excludeOption_ne_leewayOption,
      get?_arguments_over, Profile.get?_of_options? hbelow, Profile.stated?,
      if_neg excludeOption_ne_leewayOption, if_pos rfl]
    unfold exclusion argument?
    cases i.arguments.reverse.lookup excludeOption with
    | some x => rfl
    | none =>
      cases p.arguments.get? excludeOption with
      | some x => rfl
      | none =>
        cases p.exclude with
        | nil => rfl
        | cons x xs => rfl

/-! ### Plans of an invocation -/

/-- A plan is made of the options of the invocation. -/
theorem options_of_planWith (h : i.planWith cat p s = .ok plan) :
    optionsOf p (i.argumentsWith p) i.teardownWindow i.exclude = some plan.options := by
  unfold planWith at h
  dsimp only at h
  split at h
  · cases h
  next options hoptions =>
  split at h
  · cases h
  next plan' hplan =>
  obtain rfl := Except.ok.inj h
  rw [hoptions, (Plan.options_of_prepare hplan).1]
  rfl

/-- The plan of an invocation for a journey. -/
def planFor (i : Invocation) (s : Scenario) (j : Journey) (options : Bindings) (leeway : Nat) :
    Plan :=
  { journey := j, scenario := s, window := i.window, idles := i.hasNext, options, leeway }

section

variable {j : Journey} (hj : Target.resolve cat (.identifier (.text (i.journeyFor s))) = .ok j)
  (hoptions : optionsOf p (i.argumentsWith p) i.teardownWindow i.exclude = some options)

include hj hoptions

/-- Whether there is a plan depends on the leeway only. -/
theorem planWith_eq : i.planWith cat p s =
    ((leewayOf options).map (i.planFor s j options)).mapError fun e => .plan (.leeway e) := by
  have hprepare : Plan.prepare cat (.identifier (.text (i.journeyFor s))) s (.int i.window)
      (.bool i.hasNext) (some options) (i.argumentsWith p) =
        ((leewayOf options).map (i.planFor s j options)).mapError .leeway := by
    rw [Plan.prepare_eq hj rfl]
    simp only [Option.getD_some, Value.isEmptyish, Bool.not_not]
    rfl
  unfold planWith
  simp only [hoptions, hprepare]
  cases leewayOf options <;> rfl

end

/-! ### What is excluded -/

/-- The plan of an invocation passes over its journey just if that is excluded. -/
theorem isIgnored_iff_excludes (h : i.planWith cat p s = .ok plan) :
    plan.isIgnored = true ↔ i.Excludes p plan.journey.name := by
  unfold Plan.isIgnored Excludes
  rw [excludes_iff, (optionsOf_eq_some (options_of_planWith h)).2, List.mem_append,
    List.mem_flatMap]

/-- The listener and the sinks of an invocation are tame. -/
theorem session_tame (i : Invocation) (p : Profile) : (i.session p).Tame where
  panel := by
    intro seat hseat calls n f hf
    obtain rfl := List.mem_singleton.mp hseat
    cases hf
  outlet := by
    intro sink hsink emitted e f hf
    rcases List.mem_append.mp hsink with hsink | hsink
    · obtain rfl := List.mem_singleton.mp hsink
      cases hf
    · split at hsink
      · obtain rfl := List.mem_singleton.mp hsink
        cases hf
      · cases hsink

/-- **What is excluded is a union.** An invocation passes over its journey just if the name of that,
in normal form, is among the names in the text that the arguments or the profile exclude, or among
those in some flag. Its run enters the stage that tells so, and otherwise that of a journey which
runs; and if it comes to a report, nothing is noticed but that the journey is ignored. -/
theorem run_ignores_iff (h : i.planWith cat p s = .ok plan) :
    (plan.isIgnored = true ↔ i.Excludes p plan.journey.name) ∧
      ∀ (tl : Timeline) (stamp : String),
        (.skipped ∈ plan.entered (conditions tl stamp p) (i.session p) ↔
          i.Excludes p plan.journey.name) ∧
        (.running ∈ plan.entered (conditions tl stamp p) (i.session p) ↔
          ¬ i.Excludes p plan.journey.name) ∧
        ∀ r, i.runWith cat tl stamp p s = .ok r →
          r.plan = plan ∧
            (r.notices = [.ignored plan.description] ↔ i.Excludes p plan.journey.name) := by
  have hi := isIgnored_iff_excludes h
  refine ⟨hi, fun tl stamp => ?_⟩
  rw [← hi, Bool.not_eq_true]
  obtain ⟨hskipped, hrunning⟩ := plan.mem_entered_gate (conditions tl stamp p) (i.session_tame p)
  refine ⟨hskipped, hrunning, fun r hr => ?_⟩
  obtain ⟨hplan, hfault, hsession⟩ := runWith_eq_ok hr
  obtain rfl := Except.ok.inj (hplan.symm.trans h)
  obtain ⟨ds, spent, hds, -, -, hkept⟩ := Plan.run_emissions hfault
  have hnotices : r.notices = ds.flatMap Deed.notices := by
    show r.session.panel.kept recorder = _
    rw [hsession, hkept recorder (i.keeps_recorder p)]
    rfl
  rw [hnotices]
  -- a journey that is not passed over is announced first
  refine ⟨rfl, fun htold => ?_, hds.protocol.2⟩
  cases hds with
  | skipped hi => exact hi
  | executed hi x =>
    rw [x.notices_deeds] at htold
    cases htold

/-- The profile excludes some other journey, one flag is blank, and one lists the journey between
blanks and with a colon. -/
theorem run_ignores_iff_of_flags :
    let i : Invocation :=
      { scenario := "s", window := 5000, journey := some "m.J", exclude := [" ", "x.Y , m:J "] }
    let p : Profile := { exclude := ["a.B"] }
    ∃ plan, i.planWith failing p {} = .ok plan ∧ plan.isIgnored = true ∧
      i.Excludes p plan.journey.name ∧
      .skipped ∈ plan.entered (conditions .steady "" p) (i.session p) ∧
      ∃ r, i.runWith failing .steady "" p {} = .ok r ∧
        r.notices = [.ignored plan.description] := by
  intro i p
  -- the run is evaluated for this one fact, and the rest follows from the theorem
  have hignored : (i.runWith failing .steady "" p {}).toOption.map
      (fun r => r.plan.isIgnored) = some true := by decide +kernel
  cases hr : i.runWith failing .steady "" p {} with
  | error e =>
    rw [hr] at hignored
    cases hignored
  | ok r =>
    rw [hr] at hignored
    have hi : r.plan.isIgnored = true := Option.some.inj hignored
    have hplan := (runWith_eq_ok hr).1
    obtain ⟨hexcludes, hruns⟩ := run_ignores_iff hplan
    obtain ⟨hskipped, -, hnotices⟩ := hruns .steady ""
    have hx := hexcludes.mp hi
    exact ⟨_, hplan, hi, hx, hskipped.mpr hx, r, rfl, ((hnotices r hr).2).mpr hx⟩

/-! ### What the leeway is -/

/-- **The leeway is that of the first layer which says something about it.** If that states one, the
invocation has a plan with this leeway, whose journey may take the rest of the window, and that is
what is reported of a body that times out. If not, there is no plan, and the fault is that of a bad
argument. The layers below are not looked at, but a leeway that the profile states has to have a
text, because the profile is turned into options first. The text of an integer states the integer
itself. -/
theorem leeway_of_first_layer {j : Journey}
    (hj : Target.resolve cat (.identifier (.text (i.journeyFor s))) = .ok j) :
    (p.isLeewayWritable = true →
      (∀ n, StatesLeeway (i.leewayText? p) n → ∃ plan, i.planWith cat p s = .ok plan ∧
        plan.journey = j ∧ plan.leeway = n ∧ (plan.budget : Int) = max (i.window - n) 0 ∧
        ∀ (tl : Timeline) (stamp : String),
          .timedOut ∈ plan.entered (conditions tl stamp p) (i.session p) →
            .failure ⟨plan.description, .timedOut plan.budget⟩ ∈
              (plan.run (conditions tl stamp p) (i.session p)).session.panel.kept recorder) ∧
      ((∀ n, ¬ StatesLeeway (i.leewayText? p) n) → ∃ e,
        i.planWith cat p s = .error (.plan (.leeway e)) ∧ e.fault.className = "ArgumentError")) ∧
    (p.isLeewayWritable = false → i.planWith cat p s = .error .noOptions) ∧
    ∀ n, Value.isWritableInteger n = true → Text.readBlankedInteger (toString n) = some n := by
  refine ⟨fun hp => ?_, fun hp => ?_, fun n => Text.readBlankedInteger_toString⟩
  · obtain ⟨options, hoptions⟩ := optionsOf_of_writable hp (i.argumentsWith p) i.teardownWindow
      i.exclude
    have hplan := planWith_eq hj hoptions
    -- the options have the leeway of the first layer, so there is a plan just if that states one
    have hstates (n : Nat) : leewayOf options = .ok n ↔ StatesLeeway (i.leewayText? p) n := by
      rw [leewayOf_eq_ok_iff, (optionsOf_eq_some hoptions).1]
    refine ⟨fun n hn => ?_, fun hnone => ?_⟩
    · rw [(hstates n).mpr hn] at hplan
      refine ⟨_, hplan, rfl, rfl, ?_, fun tl stamp htimedOut => ?_⟩
      · show ((i.window - n).toNat : Int) = max (i.window - n) 0
        omega
      · exact Plan.notice_of_timedOut (i.session_tame p) (i.keeps_recorder p) htimedOut
    · cases hleeway : leewayOf options with
      | ok n => exact absurd ((hstates n).mp hleeway) (hnone n)
      | error e =>
        rw [hleeway] at hplan
        refine ⟨e, hplan, ?_⟩
        cases e <;> rfl
  · -- the profile is turned into options before anything else
    unfold planWith optionsOf
    rw [Profile.options?_eq_none hp]
    rfl

theorem exists_resolve_failing :
    ∃ j, Target.resolve failing (.identifier (.text "m.J")) = .ok j := by
  have hsome : (Target.resolve failing (.identifier (.text "m.J"))).toOption.isSome = true := by
    decide +kernel
  cases h : Target.resolve failing (.identifier (.text "m.J")) with
  | error e =>
    rw [h] at hsome
    cases hsome
  | ok j => exact ⟨j, rfl⟩

/-- The last argument of the command line goes before the first one, before that of the profile, and
before the leeway that the profile states; and a flag that is negative goes before it. -/
theorem leeway_of_first_layer_of_arguments :
    let i : Invocation :=
      { scenario := "s", window := 5000, journey := some "m.J"
        arguments := [(leewayOption, "never"), (leewayOption, " 1_00 ")] }
    let p : Profile :=
      { statedLeeway := some 7, arguments := .ofPairs [(leewayOption, "9")] }
    (∃ j, Target.resolve failing (.identifier (.text (i.journeyFor {}))) = .ok j) ∧
      p.isLeewayWritable = true ∧ StatesLeeway (i.leewayText? p) 100 ∧
      (∃ plan, i.planWith failing p {} = .ok plan ∧ plan.leeway = 100 ∧
        (plan.budget : Int) = max (5000 - (100 : Nat)) 0) ∧
      ∃ e, { i with teardownWindow := some (-1) }.planWith failing p {} =
        .error (.plan (.leeway e)) ∧ e.fault.className = "ArgumentError" := by
  intro i p
  have hj : ∃ j, Target.resolve failing (.identifier (.text (i.journeyFor {}))) = .ok j :=
    exists_resolve_failing
  have hseven : Value.isWritableInteger 7 = true :=
    Value.isWritableInteger_of_lt (by decide : 1 ≤ Text.maxDigits) (by decide)
  have hp : p.isLeewayWritable = true := by
    simp only [p, Profile.isLeewayWritable, Option.all_some, hseven]
  have htext : i.leewayText? p = some " 1_00 " := by decide
  have hstates : StatesLeeway (i.leewayText? p) 100 := by
    rw [htext]
    exact .integer (by decide)
  -- the flag comes first, and no layer below makes up for one that states no leeway
  have hnegative :
      ∀ n, ¬ StatesLeeway ({ i with teardownWindow := some (-1) }.leewayText? p) n := by
    intro n h
    have htext : { i with teardownWindow := some (-1) }.leewayText? p = some "-1" := by decide
    rw [htext] at h
    cases h with
    | blank h => cases h
    | integer h =>
      have hread : Text.readBlankedInteger "-1" = some (-1) := by decide
      cases hread.symm.trans h
  obtain ⟨j, hj'⟩ := hj
  obtain ⟨plan, hplan, -, hleeway, hbudget, -⟩ :=
    ((leeway_of_first_layer (i := i) hj').1 hp).1 100 hstates
  exact ⟨⟨j, hj'⟩, hp, hstates, ⟨plan, hplan, hleeway, hbudget⟩,
    ((leeway_of_first_layer (i := { i with teardownWindow := some (-1) }) hj').1 hp).2 hnegative⟩

/-- A leeway that the profile states and that has no text is in the way of a plan, although a flag
goes before it. -/
theorem not_forall_leeway_of_first_layer :
    ¬ ∀ (i : Invocation) (cat : Catalogue) (p : Profile) (s : Scenario) (j : Journey),
      Target.resolve cat (.identifier (.text (i.journeyFor s))) = .ok j →
        ∀ n, StatesLeeway (i.leewayText? p) n →
          ∃ plan, i.planWith cat p s = .ok plan ∧ plan.leeway = n := by
  intro h
  let i : Invocation :=
    { scenario := "s", window := 5000, journey := some "m.J", teardownWindow := some 100 }
  let p : Profile := { statedLeeway := some (Nat.pow 10 Text.maxDigits) }
  have hp : p.isLeewayWritable = false := by
    simp only [p, Profile.isLeewayWritable, Option.all_some, Value.isWritableInteger_limit]
  have hstates : StatesLeeway (i.leewayText? p) 100 := by
    have hflag (below : Option String) : (some (toString (100 : Int))).or below = some "100" := by
      rw [Option.some_or]
      decide
    unfold leewayText?
    rw [Option.map_some, hflag]
    exact .integer (by decide)
  obtain ⟨j, hj⟩ := exists_resolve_failing
  obtain ⟨plan, hplan, -⟩ := h i failing p {} j hj 100 hstates
  -- the profile's leeway is overruled, but it has to be written all the same
  have hnone := options_of_planWith hplan
  unfold optionsOf at hnone
  rw [Profile.options?_eq_none hp] at hnone
  cases hnone

end Invocation

end CommandLine

end Timebox
