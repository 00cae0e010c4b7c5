import Timebox.Proofs.Return

/-!
# Scenarios do not affect each other

A suite is a list of turns, which are runs that share the arguments: each turn finds them as the one
before has left them.  With tame observers every turn leaves the arguments as the suite found them,
whatever its journey does.  So its journey sees these arguments, overlaid with the extra ones of its
own scenario, and nothing of any scenario before (`Turn.isolated_of_chained`).
-/

namespace Timebox

/-- A turn of a suite: a run, the conditions in which it takes place, and the session it finds. -/
structure Turn where
  plan : Plan
  conditions : Conditions
  start : Session

namespace Turn

/-- How the turn ends. -/
def result (r : Turn) : Progress :=
  r.plan.run r.conditions r.start

/-- The first turn finds these arguments, and every other turn finds those that the turn before it
has left.  Whatever else sessions consist of may change between turns. -/
def Chained : Arguments → List Turn → Prop
  | _, [] => True
  | a, r :: rs => r.start.arguments = a ∧ Chained r.result.session.arguments rs

/-- The turn does what it would do as the only one of a suite that finds the arguments `a`. -/
structure Isolated (a : Arguments) (r : Turn) : Prop where
  arguments : r.result.session.arguments = a
  done : r.result.fault = none → r.result.session.stage = .done
  /-- A fault is the idler's own, or there is a wait that is too long to be asked for. -/
  fault : ∀ f, r.result.fault = some f →
    r.start.idler.Raises f ∨ f = .immeasurable ∧ ¬ r.plan.Measurable r.conditions
  /-- The journey, if it can begin, starts from `a` overlaid with the extra arguments of the
  scenario, of which the last text of a repeated key counts.  The log goes on with what the journey
  leaves in it when it starts so. -/
  journey : r.plan.isIgnored = false → isMeasurable r.plan.budget = true → ∃ seen,
    (∀ key, Bindings.get? seen key = (r.plan.scenario.pairs.reverse.lookup key).or (a.get? key)) ∧
      (r.start.log ++ r.plan.journeyLog (r.plan.watched r.conditions r.start) r.start.now seen <+:
          r.result.session.log ∨
        r.result.fault ≠ none ∧
          r.start.log ++ r.plan.journeyLog (r.plan.unwatched r.conditions r.start) r.start.now seen
            <+: r.result.session.log)

/-- A single turn is isolated. -/
theorem isolated_of_tame {r : Turn} (ht : r.start.Tame) : Isolated r.start.arguments r := by
  have hrun : r.result.Ends _ _ := Plan.run_returns (p := r.plan) (c := r.conditions) ht
  have hseen (key : String) := r.start.arguments.get?_overlay r.plan.scenario.pairs key
  -- the run returns, or else a fault that the theorem allows for has left it
  cases hfault : r.result.fault with
  | none =>
    obtain ⟨hstage, harguments, hlogged⟩ := hrun.of_fault_eq_none hfault
    exact
      { arguments := harguments
        done := fun _ => hstage
        fault := by rw [hfault]; nofun
        journey := fun hi _ => ⟨_, hseen, Or.inl (hlogged hi)⟩ }
  | some f =>
    obtain ⟨harguments, hcause, hlogged⟩ := hrun.of_fault_eq_some hfault
    exact
      { arguments := harguments
        done := by rw [hfault]; nofun
        fault := by
          intro g hg
          obtain rfl := Option.some.inj (hfault.symm.trans hg)
          exact hcause
        journey := by
          intro hi hb
          refine ⟨_, hseen, (hlogged hi hb).imp id fun hl => ⟨?_, hl⟩⟩
          rw [hfault]
          nofun }

/-- All turns of a suite with tame observers are isolated from each other. -/
theorem isolated_of_chained {a : Arguments} {turns : List Turn} (hc : Chained a turns)
    (ht : ∀ r ∈ turns, r.start.Tame) : ∀ r ∈ turns, Isolated a r := by
  induction turns generalizing a with
  | nil => exact fun _ h => absurd h List.not_mem_nil
  | cons r rs ih =>
    obtain ⟨hstart, hrest⟩ := hc
    have hr := isolated_of_tame (ht r List.mem_cons_self)
    rw [hstart] at hr
    -- the turn hands on the arguments that it found, so the rest is chained from the same ones
    rw [hr.arguments] at hrest
    intro t hmem
    rcases List.mem_cons.mp hmem with rfl | hmem
    · exact hr
    · exact ih hrest (fun u hu => ht u (List.mem_cons_of_mem _ hu)) t hmem

/-! ### A journey that leaves its mark -/

/-- A journey overrides an argument and then asks for an exit, without putting anything back. -/
def spoiling : Turn where
  plan :=
    { journey :=
        { name := "spoiling"
          run := commandsOf .run
            [.operate (.override (.items [.loose (.list [.text "k", .text "spoilt"])]) "token"),
              .raise (.general .exitRequest none)] }
      scenario := {}
      window := 5000
      idles := true
      options := .empty
      leeway := 3000 }
  conditions := .steady 1000
  start := .unobserved (.ofPairs [("k", "v")]) (.waiter .silent)

/-- Another journey looks at the arguments that are left, overlaid with an extra one. -/
def inspecting : Turn where
  plan :=
    { journey := { name := "inspecting", run := commandsOf .run [.arguments] }
      scenario := { extras := [⟨"extra", "first"⟩, ⟨"extra", "last"⟩] }
      window := 4000
      idles := true
      options := .empty
      leeway := 3000 }
  conditions := .steady 1000
  start := .unobserved spoiling.result.session.arguments (.waiter .silent)

/-- The one that looks finds nothing of the mark. -/
theorem isolated_of_spoiling :
    Chained (.ofPairs [("k", "v")]) [spoiling, inspecting] ∧
      (∀ r ∈ [spoiling, inspecting], r.start.Tame) ∧
      ∀ r ∈ [spoiling, inspecting], Isolated (.ofPairs [("k", "v")]) r := by
  have hchained : Chained (.ofPairs [("k", "v")]) [spoiling, inspecting] := ⟨rfl, rfl, trivial⟩
  have htame : ∀ r ∈ [spoiling, inspecting], r.start.Tame := by
    intro r hr
    simp only [List.mem_cons, List.not_mem_nil, or_false] at hr
    rcases hr with rfl | rfl
    · exact Session.unobserved_tame _ _
    · exact Session.unobserved_tame _ _
  exact ⟨hchained, htame, isolated_of_chained hchained htame⟩

/-! ### A window that is too long -/

/-- The only turn of a suite, with a window that is too long to be waited for. -/
def boundless : Turn where
  plan := .boundless
  conditions := .steady 1000
  start := .unobserved (.ofPairs [("k", "v")]) (.waiter .silent)

/-- Not every turn of a suite with tame observers gets to its last stage, even if no idler raises a
fault of its own. -/
theorem not_forall_done : ¬ ∀ (a : Arguments) (turns : List Turn), Chained a turns →
    (∀ r ∈ turns, r.start.Tame ∧ ∀ f, ¬ r.start.idler.Raises f) →
    ∀ r ∈ turns, r.result.fault = none ∧ r.result.session.stage = .done := by
  intro h
  have hfault : boundless.result.fault.isNone = false := Plan.run_boundless
  have htame : ∀ r ∈ [boundless], r.start.Tame ∧ ∀ f, ¬ r.start.idler.Raises f := by
    intro r hr
    obtain rfl := List.mem_singleton.mp hr
    exact ⟨Session.unobserved_tame _ _, fun _ => id⟩
  obtain ⟨hnone, -⟩ := h _ [boundless] ⟨rfl, trivial⟩ htame boundless List.mem_cons_self
  rw [hnone] at hfault
  cases hfault

end Turn

end Timebox
