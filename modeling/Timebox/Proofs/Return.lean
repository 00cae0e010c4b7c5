import Timebox.Proofs.Course
import Timebox.Proofs.Outline
import Timebox.Proofs.Waiting

/-!
# Runs return

Whatever its journey does, a run with tame observers puts the arguments back, and its journey has
started from the arguments as the run found them, overlaid with the scenario's own (`run_returns`).

It ends in its last stage unless its idler raises a fault, or a wait is too long to be asked for.
`Plan.Measurable` says that there is no wait of that kind.
-/

namespace Timebox

/-- A clock that does not jump, and some grace period. -/
def Conditions.steady (grace : Nat) : Conditions :=
  { timeline := .steady, grace := grace, stamp := "" }

namespace Plan

/-! ### Waits that are not too long -/

/-- No wait of the run is too long to be asked for, however the clock goes meanwhile. -/
structure Measurable (p : Plan) (c : Conditions) : Prop where
  budget : isMeasurable p.budget = true
  leeway : isMeasurable p.leeway = true
  grace : isMeasurable c.grace = true
  /-- What may be left of the window when the run idles. -/
  remaining : ∀ start now, start ≤ now →
    isMeasurable (p.window - (c.timeline.clock now - c.timeline.clock start)).toNat = true

/-- If the clock never falls back, it is enough that the window, the leeway and the grace period are
measurable. -/
theorem Measurable.of_forward {p : Plan} {c : Conditions} (hf : c.timeline.Forward)
    (hwindow : isMeasurable p.window.toNat = true) (hleeway : isMeasurable p.leeway = true)
    (hgrace : isMeasurable c.grace = true) : p.Measurable c where
  budget := by
    refine isMeasurable_of_le (n := p.window.toNat) ?_ hwindow
    show (p.window - p.leeway).toNat ≤ p.window.toNat
    omega
  leeway := hleeway
  grace := hgrace
  remaining start now h := by
    have := c.timeline.le_clock_sub_clock hf h
    exact isMeasurable_of_le (by omega) hwindow

/-- A plan whose journey is excluded, and whose window is too long to be waited for. -/
def boundless : Plan :=
  { journey := { name := "pkg.journeys.Scripted" }
    scenario := { extras := [⟨"k", "w"⟩] }
    window := Nat.pow 10 400
    idles := true
    options := .ofPairs [(excludeOption, "pkg.journeys.Scripted")]
    leeway := 3000 }

/-- Such a run ends with a fault though nobody raises one. -/
theorem run_boundless : (boundless.run (.steady 1000)
    (.unobserved (.ofPairs [("k", "v")]) (.waiter .silent))).fault.isNone = false := by
  decide +kernel

/-! ### What the journey leaves in the log -/

/-- What a journey leaves in the log if it starts in some surroundings, at an instant, from some
arguments: the note on its construction, and the log of its course. -/
def journeyLog (p : Plan) (around : Surroundings) (start : Nat) (a : Arguments) : List LogEntry :=
  p.journey.constructionLog start ++
    (runCommands around p.journey.opening { now := start, arguments := a }).log

/-- The surroundings of the journey of a run: a watchdog, and a grace period after the deadline. -/
def watched (p : Plan) (c : Conditions) (s : Session) : Surroundings :=
  Deadline.surroundings c.timeline s.now p.budget c.grace

/-- The surroundings of a journey whose grace period cannot be waited for: it is left just at its
deadline. -/
def unwatched (p : Plan) (c : Conditions) (s : Session) : Surroundings :=
  { timeline := c.timeline, signal := none, limit := some (s.now + p.budget) }

variable {p : Plan} {c : Conditions} {s : Session}

/-- The log of a run goes on from where the run found it with what the journey leaves when it starts
from the arguments that the run found, overlaid with the scenario's own. -/
def Logged (p : Plan) (s : Session) (around : Surroundings) (log : List LogEntry) : Prop :=
  s.log ++ p.journeyLog around s.now (s.arguments.overlay p.scenario.pairs) <+: log

/-! ### The outline -/

/-- The journey is about to start: it finds what the run found, and the arguments overlaid. -/
structure AtStart (p : Plan) (s : Session) (k : Core) : Prop where
  raises : ∀ f, k.idler.Raises f → s.idler.Raises f
  now : k.now = s.now
  log : k.log = s.log
  arguments : k.arguments = s.arguments.overlay p.scenario.pairs

/-- The journey has got its verdict, unless it is ignored. -/
structure Afterwards (p : Plan) (c : Conditions) (s : Session) (k : Core) : Prop where
  raises : ∀ f, k.idler.Raises f → s.idler.Raises f
  now : s.now ≤ k.now
  log : p.isIgnored = false → p.Logged s (p.watched c s) k.log

/-- What a fault says about the run that it ends: the idler has raised it, or there is a wait that
is too long.  A journey that could begin has started all the same. -/
def Failure (p : Plan) (c : Conditions) (s : Session) (f : Fault) (log : List LogEntry) : Prop :=
  (s.idler.Raises f ∨ f = .immeasurable ∧ ¬ p.Measurable c) ∧
    (p.isIgnored = false → isMeasurable p.budget = true →
      p.Logged s (p.watched c s) log ∨ p.Logged s (p.unwatched c s) log)

/-- Idling keeps what holds afterwards. -/
theorem Afterwards.await {t : Session} {duration : Int} (ht : t.Tame) (h : p.Afterwards c s t.core)
    (hduration : duration ≤ p.window - (c.timeline.clock t.now - c.timeline.clock s.now)) :
    (t.await c.timeline duration).Ends (fun u => u.Tame ∧ p.Afterwards c s u.core)
      fun f u => p.Failure c s f u.log := by
  obtain ⟨hpanel, houtlet, -, hlog⟩ := t.await_frame c.timeline duration
  obtain ⟨hraises, hfault⟩ := t.await_raises c.timeline duration
  have hlogged (hi : p.isIgnored = false) :
      p.Logged s (p.watched c s) (t.await c.timeline duration).session.log := by
    rw [hlog]
    exact h.log hi
  unfold Progress.Ends
  split
  · refine ⟨⟨hpanel ▸ ht.panel, houtlet ▸ ht.outlet⟩, ?_, ?_, hlogged⟩
    · exact fun f hf => h.raises f (hraises f hf)
    · exact Nat.le_trans h.now (t.le_await_now c.timeline duration)
  · next f hf =>
    refine ⟨(hfault f hf).imp (h.raises f) fun ⟨hf, hlong⟩ => ⟨hf, fun hm => ?_⟩,
      fun hi _ => Or.inl (hlogged hi)⟩
    -- the idler is asked for what is left of the window at most, which is not too long
    have hshort := isMeasurable_of_le (m := duration.toNat) (by omega)
      (hm.remaining s.now t.now h.now)
    rw [hshort] at hlong
    cases hlong

/-- The outline of a run with tame observers. -/
def tameOutline (p : Plan) (c : Conditions) (s : Session) :
    p.Outline c (c.timeline.clock s.now) fun f t => p.Failure c s f t.log where
  begun t := t.Tame ∧ p.AtStart s t.core
  judged t := t.Tame ∧ p.Afterwards c s t.core
  due t := t.Tame ∧ p.Afterwards c s t.core
  spent t := t.Tame ∧ p.Afterwards c s t.core
  finished t := t.Tame ∧ p.Afterwards c s t.core
  begun_observed := .of_tame
  judged_observed := .of_tame
  due_observed := .of_tame
  spent_observed := .of_tame
  finished_observed := .of_tame
  judged_of_attempt t e := by
    rintro ⟨ht, h⟩ he
    obtain rfl := Deadline.attempt_ok he
    have hnow : t.now = s.now := h.now
    have hlog : t.log = s.log := h.log
    have ha : t.arguments = s.arguments.overlay p.scenario.pairs := h.arguments
    refine ⟨⟨ht.panel, ht.outlet⟩, h.raises, ?_, fun _ => ?_⟩
    · exact hnow ▸ (Deadline.enforce_between ..).1
    · -- the body starts from what the run found, and the log goes on from there
      show s.log ++ (_ ++ _) <+: (t.log ++ p.journey.constructionLog t.now) ++ _
      rw [hlog, hnow, ha, List.append_assoc]
      exact List.prefix_refl _
  fault_of_attempt t u := by
    rintro ⟨ht, h⟩ hu
    have hnow : t.now = s.now := h.now
    have hlog : t.log = s.log := h.log
    have ha : t.arguments = s.arguments.overlay p.scenario.pairs := h.arguments
    rcases Deadline.attempt_error hu with ⟨hlong, -⟩ | ⟨hlong, hbegun, -, hcourse⟩
    · refine ⟨Or.inr ⟨rfl, fun hm => ?_⟩, fun _ hb => ?_⟩
      · cases hlong.symm.trans hm.budget
      · cases hlong.symm.trans hb
    · refine ⟨Or.inr ⟨rfl, fun hm => ?_⟩, fun _ _ => ?_⟩
      · cases hlong.symm.trans hm.grace
      · refine Or.inr ?_
        rw [hbegun]
        show s.log ++ (_ ++ _) <+: (t.log ++ p.journey.constructionLog t.now) ++ u.log
        rw [hcourse, hlog, hnow, ha, List.append_assoc]
        exact List.prefix_refl _
  due_of_await t := by
    rintro ⟨ht, h⟩ - -
    exact h.await ht (by unfold remaining; omega)
  due_of_judged _ h := h
  spent_of_cleanUp t commands e := by
    rintro ⟨ht, h⟩ - he
    obtain rfl := Deadline.attempt_ok he
    refine ⟨⟨ht.panel, ht.outlet⟩, h.raises, ?_, fun hi => ?_⟩
    · exact Nat.le_trans h.now (Deadline.enforce_between ..).1
    · exact (h.log hi).trans (List.prefix_append _ _)
  fault_of_cleanUp t commands u := by
    rintro ⟨ht, h⟩ - hu
    refine ⟨Or.inr ⟨rfl, fun hm => ?_⟩, fun hi _ => ?_⟩
    · rcases Deadline.attempt_error hu with ⟨hlong, -⟩ | ⟨hlong, -⟩
      · cases hlong.symm.trans hm.leeway
      · cases hlong.symm.trans hm.grace
    · exact Or.inl ((h.log hi).trans (List.prefix_append _ _))
  spent_of_due _ h := h
  spent_of_begun t := by
    rintro ⟨ht, h⟩ hignored
    refine ⟨ht, h.raises, Nat.le_of_eq h.now.symm, fun hi => ?_⟩
    cases hi.symm.trans hignored
  finished_of_await t := by
    rintro ⟨ht, h⟩ - -
    exact h.await ht (Int.le_refl _)
  finished_of_spent _ h _ := h

/-- A run with tame observers puts the arguments back.  It ends in its last stage, or else its idler
has raised a fault or there is a wait that is too long; either way its journey, if it could begin,
has started from the arguments overlaid with the scenario's own. -/
theorem run_returns (ht : s.Tame) : (p.run c s).Ends
    (fun t => t.stage = .done ∧ t.arguments = s.arguments ∧
      (p.isIgnored = false → p.Logged s (p.watched c s) t.log))
    fun f t => t.arguments = s.arguments ∧ p.Failure c s f t.log := by
  refine (p.tameOutline c s).run_ends ?_ ?_ ?_
  · have hbegun : (p.tameOutline c s).begun (p.opened s) :=
      ⟨⟨ht.panel, ht.outlet⟩, fun _ hf => hf, rfl, rfl, rfl⟩
    -- tame sinks raise nothing, so the first event cannot end the run before the arguments are safe
    obtain ⟨-, hfault⟩ := hbegun.1.emit (p.overriddenEvent c)
    have hemit := (p.tameOutline c s).begun_observed.emit (p.overriddenEvent c) hbegun
    unfold Progress.Ends
    rw [hfault]
    exact hemit.of_fault_eq_none hfault
  · rintro t ⟨-, h⟩
    exact ⟨rfl, rfl, h.log⟩
  · intro f t h
    exact ⟨rfl, h⟩

/-- With tame observers, and an idler that raises nothing, a measurable run ends without a fault. -/
theorem fault_eq_none_of_measurable (ht : s.Tame) (hi : ∀ f, ¬ s.idler.Raises f)
    (hm : p.Measurable c) : (p.run c s).fault = none := by
  cases hfault : (p.run c s).fault with
  | none => rfl
  | some f =>
    obtain ⟨-, hcause, -⟩ := (p.run_returns ht).of_fault_eq_some hfault
    rcases hcause with hraises | ⟨-, hlong⟩
    · exact absurd hraises (hi f)
    · exact absurd hm hlong

end Plan

end Timebox
