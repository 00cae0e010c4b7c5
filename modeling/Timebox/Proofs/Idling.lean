import Mathlib.Algebra.Order.BigOperators.Group.List
import Mathlib.Algebra.Order.Ring.Int
import Timebox.Proofs.Reports

/-!
# What runs idle for

A run asks its idler for what is left of the window on the clock: before the teardown, but for twice
the leeway, if its journey has passed and its scenario stays in the application, and before the next
scenario.  It asks for nothing else (`Plan.run_requests`).

The idler and the journey decide how much is left.  If the clock never falls back and the idler is
punctual, the clock gains what is asked for before the teardown, and that is no longer there to be
asked for afterwards: what a run asks for adds up to at most its window, or to nothing if the window
is negative (`Asks.spares`), and a teardown after a pause does not begin before twice the leeway is
all that is left (`Develops.le_clock`).
-/

namespace Timebox

/-- The deed that leaves a mark in the trace. -/
def TraceEntry.deed : TraceEntry → Deed
  | .entered stage now => .entered stage now
  | .idling i d => .asked i d

theorem TraceEntry.deed_mem {mark : TraceEntry} {ds : List Deed}
    (h : mark ∈ ds.flatMap Deed.marks) : mark.deed ∈ ds := by
  obtain ⟨e, he, hmark⟩ := List.mem_flatMap.mp h
  cases e with
  | entered stage now =>
    obtain rfl := List.mem_singleton.mp hmark
    exact he
  | asked i d =>
    obtain rfl := List.mem_singleton.mp hmark
    exact he
  | _ => cases hmark

namespace Plan

variable (p : Plan) (c : Conditions) (s : Session)

/-! ### What is asked for -/

/-- The time on the clock from the start of a run to an instant. -/
def elapsed (now : Nat) : Int :=
  c.timeline.clock now - c.timeline.clock s.now

/-- What a run asks for before the teardown. -/
def waitBeforeTeardown (status : Status) (elapsed : Int) : List Int :=
  if p.idles = true ∧ p.scenario.afterTest = .stayInApp ∧ status = .passed ∧
    0 < p.window - elapsed - 2 * p.leeway
  then [p.window - elapsed - 2 * p.leeway] else []

/-- What a run asks for before the next scenario. -/
def waitBeforeNext (elapsed : Int) : List Int :=
  if p.idles = true ∧ 0 < p.window - elapsed then [p.window - elapsed] else []

/-- What a run may ask for if it is not cut short. -/
inductive Asks : List Int → Prop
  /-- The deadline of the body cannot be enforced. -/
  | nothing : Asks []
  /-- The journey is excluded. -/
  | skipped (hi : p.isIgnored = true) : Asks (p.waitBeforeNext (elapsed c s s.now))
  /-- Nothing is done after the teardown has begun. -/
  | stopped {body : Enforced} (hi : p.isIgnored = false)
    (hbody : p.attemptBody c (p.opened s) = .ok body) :
    Asks (p.waitBeforeTeardown body.verdict.status (elapsed c s body.now))
  /-- The journey is executed to its end. -/
  | executed (hi : p.isIgnored = false) (x : p.Execution c s)
    (hgained : p.Gained c s x.body x.due) :
    Asks (p.waitBeforeTeardown x.body.verdict.status (elapsed c s x.body.now) ++
      p.waitBeforeNext (elapsed c s x.spent))

variable {p c s}
variable {body : Enforced} {a : Plot} {ds : List Int}

theorem toList_pauseBeforeTeardown (body : Enforced) :
    (p.pauseBeforeTeardown c s body).toList =
      p.waitBeforeTeardown body.verdict.status (elapsed c s body.now) := by
  unfold pauseBeforeTeardown pauseOf waitBeforeTeardown idlesBeforeTeardown elapsed
  split
  · next hwanted =>
    simp only [Bool.and_eq_true, decide_eq_true_eq] at hwanted
    split
    · next hd => rw [if_neg (by omega)]; rfl
    · next hd => rw [if_pos ⟨hwanted.1.1, hwanted.1.2, hwanted.2, by omega⟩]; rfl
  · next hwanted =>
    rw [if_neg]
    · rfl
    · rintro ⟨hidles, hstays, hpassed, -⟩
      exact hwanted (by simp [hidles, hstays, hpassed])

theorem toList_pauseBeforeNext (spent : Nat) :
    (p.pauseBeforeNext c s spent).toList = p.waitBeforeNext (elapsed c s spent) := by
  unfold pauseBeforeNext pauseOf waitBeforeNext elapsed
  split
  · next hidles =>
    split
    · next hd => rw [if_neg (by omega)]; rfl
    · next hd => rw [if_pos ⟨hidles, by omega⟩]; rfl
  · next hidles =>
    rw [if_neg fun h => hidles h.1]
    rfl

theorem Pauses.requests {i : Interlude} {pause : Option Int} {k : Core} {b : Plot}
    (h : p.Pauses c i pause k b) : b.deeds.flatMap Deed.requests = pause.toList := by
  cases h with
  | rested => exact requests_pauseDeeds i k.now pause
  | refused hpause => rw [hpause]; rfl

theorem requests_verdictDeeds (now : Nat) (v : Verdict) :
    (p.verdictDeeds c now v).flatMap Deed.requests = [] := by
  unfold verdictDeeds
  rw [List.flatMap_append, requests_failures]
  rfl

theorem requests_deedsToDue (body : Enforced) : (p.deedsToDue c s body).flatMap Deed.requests =
    p.waitBeforeTeardown body.verdict.status (elapsed c s body.now) := by
  rw [← toList_pauseBeforeTeardown]
  unfold deedsToDue waitingDeeds
  simp only [List.flatMap_append, requests_verdictDeeds, requests_pauseDeeds]
  rfl

/-- What the plot of a run asks for. -/
theorem plot_asks (p : Plan) (c : Conditions) (s : Session) :
    p.Asks c s ((p.plot c s.core).deeds.flatMap Deed.requests) := by
  obtain ⟨a, hdevelops, ⟨f, hf, hplot⟩ | ⟨hnone, b, hpauses, hplot⟩⟩ := p.plot_develops c s
  -- the run ends before its last pause, which is not asked for
  · rw [hplot]
    cases hdevelops with
    | skipped => cases hf
    | unenforced => exact .nothing
    | @refused body d _ _ hi hbody hpause =>
      have hstopped := Asks.stopped hi hbody
      rw [← toList_pauseBeforeTeardown, hpause] at hstopped
      simp only [List.flatMap_append, requests_verdictDeeds]
      exact hstopped
    | @stuck body _ _ _ _ hi hbody =>
      rw [List.flatMap_append, requests_deedsToDue]
      exact (List.append_nil _).symm ▸ .stopped hi hbody
    | executed => cases hf
  -- the last pause is asked for whether it comes back or is refused
  · rw [hplot, Plot.after_deeds, List.flatMap_append, hpauses.requests, toList_pauseBeforeNext]
    cases hdevelops with
    | skipped hi hnow =>
      rw [Plot.doing_core, hnow]
      exact .skipped hi
    | unenforced => cases hnone
    | refused => cases hnone
    | stuck => cases hnone
    | executed hi x hgained hnow =>
      rw [Plot.doing_core, Plot.doing_deeds, hnow, x.requests_deeds, toList_pauseBeforeTeardown]
      exact .executed hi x hgained

/-! ### How much is asked for -/

theorem waitBeforeTeardown_cases (p : Plan) (status : Status) (elapsed : Int) :
    p.waitBeforeTeardown status elapsed = [] ∨
      p.waitBeforeTeardown status elapsed = [p.window - elapsed - 2 * p.leeway] ∧
        0 < p.window - elapsed - 2 * p.leeway := by
  unfold waitBeforeTeardown
  split
  · next h => exact Or.inr ⟨rfl, h.2.2.2⟩
  · exact Or.inl rfl

theorem waitBeforeNext_cases (p : Plan) (elapsed : Int) :
    p.waitBeforeNext elapsed = [] ∨
      p.waitBeforeNext elapsed = [p.window - elapsed] ∧ 0 < p.window - elapsed := by
  unfold waitBeforeNext
  split
  · next h => exact Or.inr ⟨rfl, h.2⟩
  · exact Or.inl rfl

theorem elapsed_nonneg (hf : c.timeline.Forward) {now : Nat} (h : s.now ≤ now) :
    0 ≤ elapsed c s now := by
  have := c.timeline.le_clock_sub_clock hf h
  unfold elapsed
  omega

theorem now_le_body (hbody : p.attemptBody c (p.opened s) = .ok body) : s.now ≤ body.now :=
  (Deadline.attempt_between hbody).1

theorem Execution.due_le_spent (x : p.Execution c s) : x.due ≤ x.spent := by
  unfold Execution.spent
  cases hx : x.tearDown with
  | none => exact Nat.le_refl _
  | some e =>
    obtain ⟨commands, -, hattempt⟩ := x.tearDown_eq e hx
    exact (Deadline.attempt_between hattempt).1

/-- The teardown of an execution is entered when it is due. -/
theorem Execution.eq_due_of_mem (x : p.Execution c s) {now : Nat}
    (h : .entered .teardown now ∈ x.tearDownDeeds) : now = x.due := by
  unfold Execution.tearDownDeeds at h
  rcases List.mem_append.mp h with h | h
  · split at h
    · simpa using h
    · cases h
  · split at h
    · cases h
    · simp at h

/-- All durations are positive, and together they are no longer than the window, which is as good as
zero if it is negative. -/
structure Spares (p : Plan) (ds : List Int) : Prop where
  pos : ∀ d ∈ ds, 0 < d
  sum_le : ds.sum ≤ max p.window 0

theorem spares_nil (p : Plan) : p.Spares [] where
  pos := List.forall_mem_nil _
  sum_le := le_max_right p.window 0

theorem spares_singleton {d : Int} (hpos : 0 < d) (hle : d ≤ p.window) : p.Spares [d] where
  pos e he := by
    rw [List.mem_singleton.mp he]
    exact hpos
  sum_le := by
    rw [List.sum_singleton]
    exact le_max_of_le_left hle

theorem spares_waitBeforeTeardown (status : Status) {e : Int} (he : 0 ≤ e) :
    p.Spares (p.waitBeforeTeardown status e) := by
  rcases p.waitBeforeTeardown_cases status e with h | ⟨h, hpos⟩
  · rw [h]
    exact p.spares_nil
  · rw [h]
    exact spares_singleton hpos (by omega)

theorem spares_waitBeforeNext {e : Int} (he : 0 ≤ e) : p.Spares (p.waitBeforeNext e) := by
  rcases p.waitBeforeNext_cases e with h | ⟨h, hpos⟩
  · rw [h]
    exact p.spares_nil
  · rw [h]
    exact spares_singleton hpos (by omega)

/-- What the clock gains before the teardown is not asked for again. -/
theorem spares_append (status : Status) {e e' : Int} (he : 0 ≤ e) (he' : 0 ≤ e')
    (hgained : ∀ d ∈ p.waitBeforeTeardown status e, e + d ≤ e') :
    p.Spares (p.waitBeforeTeardown status e ++ p.waitBeforeNext e') := by
  rcases p.waitBeforeNext_cases e' with hnext | ⟨hnext, hpos'⟩
  · rw [hnext, List.append_nil]
    exact spares_waitBeforeTeardown status he
  · rcases p.waitBeforeTeardown_cases status e with h | ⟨h, hpos⟩
    · rw [h, List.nil_append]
      exact spares_waitBeforeNext he'
    · rw [h] at hgained ⊢
      rw [hnext]
      have hgain := hgained _ List.mem_cons_self
      constructor
      · intro d hd
        simp only [List.cons_append, List.nil_append, List.mem_cons, List.not_mem_nil,
          or_false] at hd
        omega
      · simp only [List.cons_append, List.nil_append, List.sum_cons, List.sum_nil]
        omega

/-- The first of such durations are such durations. -/
theorem Spares.of_append {ds' : List Int} (h : p.Spares (ds ++ ds')) : p.Spares ds where
  pos d hd := h.pos d (List.mem_append_left ds' hd)
  sum_le := by
    have hall := h.sum_le
    have hrest : 0 ≤ ds'.sum :=
      List.sum_nonneg fun d hd => Int.le_of_lt (h.pos d (List.mem_append_right ds hd))
    rw [List.sum_append] at hall
    omega

/-- If the clock never falls back, and the idler is punctual, what a run asks for adds up to at most
its window, or to nothing. -/
theorem Asks.spares (h : p.Asks c s ds) (hf : c.timeline.Forward) (hi : s.idler.Punctual) :
    p.Spares ds := by
  cases h with
  | nothing => exact p.spares_nil
  | skipped => exact spares_waitBeforeNext (elapsed_nonneg hf (Nat.le_refl _))
  | stopped _ hbody =>
    exact spares_waitBeforeTeardown _ (elapsed_nonneg hf (now_le_body hbody))
  | executed _ x hgained =>
    have hbody := now_le_body x.body_eq
    have hspent : s.now ≤ x.spent := Nat.le_trans hbody (Nat.le_trans x.due_le x.due_le_spent)
    refine spares_append _ (elapsed_nonneg hf hbody) (elapsed_nonneg hf hspent) fun d hd => ?_
    rw [← toList_pauseBeforeTeardown, Option.mem_toList] at hd
    have hdue := hgained hf hi d hd
    have hlater := c.timeline.le_clock_sub_clock hf x.due_le_spent
    have hle := x.due_le_spent
    unfold elapsed
    omega

/-! ### When the teardown begins -/

/-- What is asked for before the teardown leaves twice the leeway. -/
theorem le_clock_due (hf : c.timeline.Forward) (hi : s.idler.Punctual) {due : Nat} {d : Int}
    (hgained : p.Gained c s body due)
    (hd : d ∈ p.waitBeforeTeardown body.verdict.status (elapsed c s body.now)) :
    c.timeline.clock s.now + p.window - 2 * p.leeway ≤ c.timeline.clock due := by
  have hpause := hd
  rw [← toList_pauseBeforeTeardown, Option.mem_toList] at hpause
  have hdue := hgained hf hi d hpause
  rcases p.waitBeforeTeardown_cases body.verdict.status (elapsed c s body.now) with h | ⟨h, -⟩
  · rw [h] at hd
    cases hd
  · rw [h, List.mem_singleton] at hd
    unfold elapsed at hd
    omega

theorem mem_requests {ds : List Deed} {i : Interlude} {d : Int} (h : .asked i d ∈ ds) :
    d ∈ ds.flatMap Deed.requests :=
  List.mem_flatMap.mpr ⟨_, h, List.mem_singleton.mpr rfl⟩

/-- A teardown after a pause does not begin before twice the leeway is all that is left of the
window on the clock. -/
theorem Develops.le_clock (h : p.Develops c s a) (hf : c.timeline.Forward) (hi : s.idler.Punctual)
    {d : Int} {now : Nat} (hasked : .asked .beforeTeardown d ∈ a.deeds)
    (hentered : .entered .teardown now ∈ a.deeds) :
    c.timeline.clock s.now + p.window - 2 * p.leeway ≤ c.timeline.clock now := by
  cases h with
  | skipped => exact absurd rfl (not_enters_skipDeeds _ hentered)
  | unenforced => exact absurd rfl (not_enters_unenforced _ _ hentered)
  | refused _ _ hpause => exact absurd rfl (not_enters_refused hpause _ hentered)
  | @stuck body due _ u _ _ hbody hgained =>
    -- the teardown has been entered, although its deadline could not be enforced
    have hrequests := mem_requests hasked
    rw [List.flatMap_append, requests_deedsToDue, List.mem_append] at hrequests
    have hd : d ∈ p.waitBeforeTeardown body.verdict.status (elapsed c s body.now) := by
      simpa [Deed.requests] using hrequests
    have hnow : now = due := by
      rcases List.mem_append.mp hentered with hmem | hmem
      · exact absurd rfl (not_enters_deedsToDue body _ hmem)
      · simpa using hmem
    rw [hnow]
    exact le_clock_due hf hi hgained hd
  | executed _ x hgained =>
    have hd := mem_requests hasked
    rw [Plot.doing_deeds, x.requests_deeds, toList_pauseBeforeTeardown] at hd
    have hnow : now = x.due := by
      rw [Plot.doing_deeds] at hentered
      unfold Execution.deeds Execution.deedsToTeardown at hentered
      rw [List.append_assoc, List.append_assoc, List.mem_append, List.mem_append] at hentered
      -- of all deeds only those of the teardown enter it
      rcases hentered with hmem | hmem | hmem
      · exact absurd rfl (not_enters_deedsToDue x.body _ hmem)
      · exact x.eq_due_of_mem hmem
      · have htrails := x.trails_of_finished (List.forall_mem_nil _)
        exact absurd rfl (htrails _ hmem).not_enters
    rw [hnow]
    exact le_clock_due hf hi hgained hd

theorem Pauses.not_asked {i j : Interlude} {pause : Option Int} {k : Core} {b : Plot} {d : Int}
    (h : p.Pauses c i pause k b) (hij : j ≠ i) : .asked j d ∉ b.deeds := by
  cases h with
  | rested =>
    cases pause with
    | none => exact List.not_mem_nil
    | some e => simp [pauseDeeds, hij]
  | refused => simp [hij]

/-- Nothing is asked for when the arguments are put back. -/
theorem requests_closing {ds : List Deed} {stop : Nat} (h : ds <+: closingDeeds stop) :
    ds.flatMap Deed.requests = [] :=
  List.prefix_nil.mp (Deed.prefix_flatMap h Deed.requests)

theorem plot_le_clock (hf : c.timeline.Forward) (hi : s.idler.Punctual) {d : Int} {now : Nat}
    (hasked : .asked .beforeTeardown d ∈ (p.plot c s.core).deeds)
    (hentered : .entered .teardown now ∈ (p.plot c s.core).deeds) :
    c.timeline.clock s.now + p.window - 2 * p.leeway ≤ c.timeline.clock now := by
  obtain ⟨a, hdevelops, ⟨-, -, hplot⟩ | ⟨-, b, hpauses, hplot⟩⟩ := p.plot_develops c s
  · rw [hplot] at hasked hentered
    exact hdevelops.le_clock hf hi hasked hentered
  · -- the last pause has nothing to do with the teardown
    rw [hplot, Plot.after_deeds, List.mem_append] at hasked hentered
    have hasked := hasked.resolve_right (hpauses.not_asked nofun)
    have hentered := hentered.resolve_right fun hmem => (hpauses.quiet _ hmem).not_enters rfl
    exact hdevelops.le_clock hf hi hasked hentered

/-! ### Runs -/

/-- What a run asks its idler for: if it returns, what is left of the window when its journey has
passed, but for twice the leeway, and what is left when the journey is over; the first of these at
most if it does not.  If the clock never falls back, and the idler is punctual, that adds up to at
most the window, or to nothing if the window is negative, on every ending, and a teardown after a
pause does not begin before twice the leeway is all that is left. -/
theorem run_requests (p : Plan) (c : Conditions) (s : Session) :
    (p.run c s).Ends
      (fun t =>
        (p.isIgnored = true ∧
          t.requests = s.requests ++ p.waitBeforeNext (elapsed c s s.now)) ∨
        p.isIgnored = false ∧ ∃ (x : p.Execution c s) (stop : Nat),
          t.Follows s (x.deeds ++
            p.pauseDeeds c .beforeNext x.spent (p.pauseBeforeNext c s x.spent) ++
            closingDeeds stop) ∧
          t.requests = s.requests ++
            (p.waitBeforeTeardown x.body.verdict.status (elapsed c s x.body.now) ++
              p.waitBeforeNext (elapsed c s x.spent)))
      (fun _ t => ∃ ds ds', p.Asks c s (ds ++ ds') ∧ t.requests = s.requests ++ ds) ∧
    (c.timeline.Forward → s.idler.Punctual → ∃ ds marks,
      (p.run c s).session.requests = s.requests ++ ds ∧
      (p.run c s).session.trace = s.trace ++ marks ∧ p.Spares ds ∧
      ∀ d now, .idling .beforeTeardown d ∈ marks → .entered .teardown now ∈ marks →
        c.timeline.clock s.now + p.window - 2 * p.leeway ≤ c.timeline.clock now) := by
  refine ⟨?_, fun hf hi => ?_⟩
  · unfold Progress.Ends
    cases hfault : (p.run c s).fault with
    | none =>
      obtain ⟨ds, spent, stop, hds, -, hdid⟩ := (p.run_account c s).of_fault_eq_none hfault
      have hrequests := hdid.follows.requests
      rw [List.flatMap_append, requests_closing (List.prefix_refl _), List.append_nil,
        List.flatMap_append, requests_pauseDeeds, toList_pauseBeforeNext] at hrequests
      cases hds with
      | skipped hignored => exact Or.inl ⟨hignored, hrequests⟩
      | executed hexecuted x =>
        rw [x.requests_deeds, toList_pauseBeforeTeardown] at hrequests
        exact Or.inr ⟨hexecuted, x, stop, hdid.follows, hrequests⟩
    | some f =>
      obtain ⟨ds, rest, ⟨ds', hds⟩, hrest, hfollows⟩ :=
        (p.run_follows c s).of_fault_eq_some hfault
      have hasks := p.plot_asks c s
      rw [← hds, List.flatMap_append] at hasks
      refine ⟨_, _, hasks, ?_⟩
      rw [hfollows.requests, List.flatMap_append,
        requests_closing (hrest.trans (List.prefix_append [_] [_])), List.append_nil]
  · obtain ⟨ds, rest, stop, ⟨ds', hds⟩, hrest, hfollows⟩ := p.exists_follows c s
    have hasks := p.plot_asks c s
    rw [← hds, List.flatMap_append] at hasks
    have hrequests := hfollows.requests
    rw [List.flatMap_append, requests_closing hrest, List.append_nil] at hrequests
    refine ⟨_, _, hrequests, hfollows.trace, (hasks.spares hf hi).of_append, ?_⟩
    intro d now hidling hentered
    -- putting the arguments back has nothing to do with either mark
    have hasked := (List.mem_append.mp (TraceEntry.deed_mem hidling)).resolve_right fun hmem => by
      cases requests_closing hrest ▸ mem_requests hmem
    have hbegun := (List.mem_append.mp (TraceEntry.deed_mem hentered)).resolve_right fun hmem =>
      (quiet_closingDeeds stop _ (hrest.subset hmem)).not_enters rfl
    exact plot_le_clock hf hi (hds ▸ List.mem_append_left ds' hasked)
      (hds ▸ List.mem_append_left ds' hbegun)

/-- A run asks for nothing if its window is negative, and that is longer than the window. -/
theorem not_forall_requests_le_window :
    ¬ ∀ (p : Plan) (c : Conditions) (s : Session), c.timeline.Forward → s.idler.Punctual →
      ∃ ds, (p.run c s).session.requests = s.requests ++ ds ∧ ds.sum ≤ p.window := by
  intro hall
  let p : Plan := { fiveSeconds [] [] with window := -1 }
  have hf : (Timeline.steady).Forward := List.forall_mem_nil _
  have hnone : (p.run (.steady 0) .polled).session.requests = [] := by decide +kernel
  obtain ⟨ds, hrequests, hle⟩ := hall p (.steady 0) .polled hf Session.polled_punctual
  obtain rfl : ds = [] := hrequests.symm.trans hnone
  exact absurd hle (by decide)

/-- The clock jumps while the journey works, and again while its run idles for the second time. -/
theorem run_requests_of_jumps :
    let c : Conditions :=
      { timeline := { jumps := [⟨1000, 700⟩, ⟨3500, 1000⟩] }, grace := 500, stamp := "" }
    let p := fiveSeconds [.idle 500, .busy 600] [.idle 300]
    (p.run c .polled).session.requests = [1200, 1700] ∧
      TraceEntry.entered .teardown 2300 ∈ (p.run c .polled).session.trace ∧
      p.Spares [1200, 1700] ∧
      c.timeline.clock 0 + p.window - 2 * p.leeway ≤ c.timeline.clock 2300 := by
  intro c p
  have hf : c.timeline.Forward := by
    unfold Timeline.Forward
    decide
  have hasked : (p.run c .polled).session.requests = [1200, 1700] := by decide +kernel
  have hidling : TraceEntry.idling .beforeTeardown 1200 ∈ (p.run c .polled).session.trace := by
    decide +kernel
  have hentered : TraceEntry.entered .teardown 2300 ∈ (p.run c .polled).session.trace := by
    decide +kernel
  obtain ⟨ds, marks, hrequests, htrace, hspares, hdue⟩ :=
    (run_requests p c .polled).2 hf Session.polled_punctual
  have hds : ds = [1200, 1700] := hrequests.symm.trans hasked
  have hmarks : (p.run c .polled).session.trace = marks := htrace
  rw [hds] at hspares
  exact ⟨hasked, hentered, hspares, hdue 1200 2300 (hmarks ▸ hidling) (hmarks ▸ hentered)⟩

end Plan

end Timebox
