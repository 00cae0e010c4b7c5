import Timebox.Proofs.Budgets
import Timebox.Proofs.Reports

/-!
# What is settled before a run

The options of a run settle whether its journey is passed over, the deadline of its body and the
leeway, which is the deadline of its teardown and is kept free when the run idles before it
(`Settings`). They are read once. Main statement: every run of a plan goes as the settings say that
the options gave when it was planned (`Plan.run_governed`), whatever the arguments are when it
starts, whatever the scenario overrides, and whatever the journey does to them.

A stage that a run enters leads to the next few deeds (`Settings.Leads`). That holds of the parts of
a plot one by one, and of the deeds that are played before the observers, because none of the deeds
of a block is observed but the last one (`Records.infix_done`).
-/

namespace Timebox

/-! ### Blocks of deeds -/

/-- The stages of deeds are those that are entered. -/
theorem Deed.mem_stages_iff {ds : List Deed} {stage : Stage} :
    stage ∈ ds.flatMap Deed.stages ↔ ∃ t, .entered stage t ∈ ds := by
  rw [List.mem_flatMap]
  constructor
  · rintro ⟨d, hd, hstage⟩
    cases d with
    | entered stage' t =>
      obtain rfl := List.mem_singleton.mp hstage
      exact ⟨t, hd⟩
    | _ => cases hstage
  · rintro ⟨t, ht⟩
    exact ⟨_, ht, List.mem_singleton_self stage⟩

namespace Records

variable {r : Records} {xs block ys : List Deed} {d : Deed}

/-- A block of deeds of which only the last one is observed is done as a whole. -/
theorem prefix_done (hquiet : ∀ e ∈ block.dropLast, ¬ e.Observed) (ys : List Deed) :
    block <+: r.done (block ++ ys) := by
  induction block generalizing r with
  | nil => exact List.nil_prefix
  | cons d block ih =>
    cases block with
    | nil => exact ⟨_, rfl⟩
    | cons e block =>
      have hd : r.fault d = none := by
        cases hf : r.fault d with
        | none => rfl
        | some f => exact absurd (Deed.observed_of_fault hf) (hquiet d List.mem_cons_self)
      rw [List.cons_append, done, hd]
      exact List.cons_prefix_cons.mpr
        ⟨rfl, ih fun e he => hquiet e (List.mem_cons_of_mem d he)⟩

/-- So it is done as a whole if its first deed is done. -/
theorem infix_done (hd : d ∉ xs) (hquiet : ∀ e ∈ (d :: block).dropLast, ¬ e.Observed)
    (hdone : d ∈ r.done (xs ++ (d :: block) ++ ys)) :
    d :: block <:+: r.done (xs ++ (d :: block) ++ ys) := by
  rw [List.append_assoc] at hdone ⊢
  -- if what comes before were broken off, the first deed would not be done
  by_cases hxs : r.Unbroken xs
  · rw [done_append_of_unbroken hxs]
    exact (prefix_done hquiet ys).isInfix.trans (List.suffix_append _ _).isInfix
  · rw [done_append_of_broken hxs] at hdone
    exact absurd ((Records.done_prefix r xs).subset hdone) hd

/-- Deeds that are not broken are all done. -/
theorem done_of_unbroken {ds : List Deed} (h : r.Unbroken ds) : r.done ds = ds := by
  simpa only [List.append_nil, done] using done_append_of_unbroken h []

/-- Tame observers break nothing off. -/
theorem unbroken_of_tame (hp : r.panel.Tame) (ho : r.outlet.Tame) (ds : List Deed) :
    r.Unbroken ds := by
  induction ds generalizing r with
  | nil => trivial
  | cons d ds ih =>
    cases d with
    | emitted e => exact ⟨ho.emit e, ih hp ho⟩
    | announced n =>
      obtain ⟨htame, hnone⟩ := Panel.announce_tame hp n
      exact ⟨hnone, ih htame ho⟩
    | entered stage t => exact ⟨rfl, ih hp ho⟩
    | asked i duration => exact ⟨rfl, ih hp ho⟩
    | logged es => exact ⟨rfl, ih hp ho⟩

end Records

/-! ### Settings -/

/-- The entries that a body leaves, whether its deadline can be enforced or not. -/
def Deadline.entries : Except Unenforced Enforced → List LogEntry
  | .ok e => e.log
  | .error u => u.log

/-- What options settle for a run. -/
structure Settings where
  /-- The journey is passed over. -/
  ignored : Bool
  /-- The deadline of the body. -/
  budget : Nat
  /-- The deadline of the teardown. -/
  leeway : Nat

namespace Settings

/-- What options settle for a journey with a name and for a window. -/
def ofOptions (options : Bindings) (name : String) (window : Int) :
    Except LeewayError Settings :=
  (leewayOf options).map fun leeway : Nat =>
    { ignored := Exclusion.excludes (options.get? excludeOption) name
      budget := (window - leeway).toNat
      leeway := leeway }

variable (g : Settings) (p : Plan) (c : Conditions) (s : Session)

/-- The body under the deadline that is settled. -/
def body : Except Unenforced Enforced :=
  Deadline.attempt c.timeline s.now g.budget c.grace (s.arguments.overlay p.scenario.pairs)
    p.journey.opening

/-- What a stage that is entered leads to. -/
inductive Leads : Stage → Nat → List Deed → Prop
  | overridden : Leads .argumentsOverridden s.now [.emitted (p.overriddenEvent c)]
  /-- The journey is passed over only if the settings say so. -/
  | skipped (h : g.ignored = true) : Leads .skipped s.now [.emitted (p.ignoredEvent c)]
  /-- It runs under the deadline of the settings, and only if it is not passed over. -/
  | running (h : g.ignored = false) (construction : List LogEntry) : Leads .running s.now
    [.logged construction, .logged (Deadline.entries (g.body p c s))]
  /-- The verdict is that on the body, and reported with its deadline. -/
  | verdict {body : Enforced} {e : Telemetry.Event} (h : g.body p c s = .ok body)
    (hkind : e.kind = "JOURNEY_FINISHED")
    (hdeadline : e.details.lookup "deadline_ms" = some (.int g.budget)) :
    Leads (.ofStatus body.verdict.status) body.now [.emitted e]
  /-- Twice the leeway is kept free. -/
  | idleBeforeTeardown {body : Enforced} (h : g.body p c s = .ok body) :
    Leads .idleBeforeTeardown body.now [.asked .beforeTeardown
      (p.window - (c.timeline.clock body.now - c.timeline.clock s.now) - 2 * g.leeway)]
  /-- The journey is torn down within the leeway. -/
  | tearDown {body : Enforced} {commands : List Command} (t : Nat) (h : g.body p c s = .ok body)
    (hcommands : p.journey.tearDown = some commands) :
    Leads .teardown t [.logged (Deadline.entries
      (Deadline.attempt c.timeline t g.leeway c.grace body.arguments commands))]
  | noTearDown (t : Nat) (h : p.journey.tearDown = none) : Leads .teardown t []
  /-- Nothing is kept free any more. -/
  | idleBeforeNext (t : Nat) : Leads .idleBeforeNext t [.asked .beforeNext
      (p.window - (c.timeline.clock t - c.timeline.clock s.now))]
  | restored (t : Nat) : Leads .argumentsRestored t []
  | done (t : Nat) : Leads .done t []

/-- The deeds of a run go as the settings say: at once after a stage comes what it leads to. -/
def Governs (ds : List Deed) : Prop :=
  ∀ stage t, .entered stage t ∈ ds →
    ∃ next, g.Leads p c s stage t next ∧ .entered stage t :: next <:+: ds

/-- The same of deeds that are planned, with the first time that a stage is entered. -/
def Orders (ds : List Deed) : Prop :=
  ∀ stage t, .entered stage t ∈ ds → ∃ xs next ys, g.Leads p c s stage t next ∧
    .entered stage t ∉ xs ∧ ds = xs ++ (.entered stage t :: next) ++ ys

variable {g p c s} {ds ds' next : List Deed} {stage : Stage} {t : Nat}

theorem ofStatus_ne_skipped {body : Enforced} (h : g.body p c s = .ok body) :
    Stage.ofStatus body.verdict.status ≠ .skipped := by
  rcases Deadline.attempt_verdict h with ⟨hstatus, -⟩ | ⟨f, hstatus, -⟩ | ⟨hstatus, -⟩ <;>
    rw [hstatus] <;> exact nofun

theorem Leads.quiet (h : g.Leads p c s stage t next) :
    ∀ d ∈ (.entered stage t :: next).dropLast, ¬ d.Observed := by
  cases h <;> simp [Deed.Observed]

theorem Leads.not_entered (h : g.Leads p c s stage t next) (stage' : Stage) (t' : Nat) :
    .entered stage' t' ∉ next := by
  cases h <;> simp

namespace Orders

theorem append (h : g.Orders p c s ds) (h' : g.Orders p c s ds') :
    g.Orders p c s (ds ++ ds') := by
  intro stage t hmem
  -- the first time is the one in the first part, if there is one
  by_cases hds : .entered stage t ∈ ds
  · obtain ⟨xs, next, ys, hleads, hxs, rfl⟩ := h stage t hds
    exact ⟨xs, next, ys ++ ds', hleads, hxs, by simp only [List.append_assoc]⟩
  · obtain ⟨xs, next, ys, hleads, hxs, rfl⟩ :=
      h' stage t ((List.mem_append.mp hmem).resolve_left hds)
    refine ⟨ds ++ xs, next, ys, hleads, ?_, by simp only [List.append_assoc]⟩
    rw [List.mem_append, not_or]
    exact ⟨hds, hxs⟩

theorem of_stages (ds : List Deed) (h : ds.flatMap Deed.stages = []) : g.Orders p c s ds := by
  intro stage t hmem
  have hstage : stage ∈ ds.flatMap Deed.stages := Deed.mem_stages_iff.mpr ⟨t, hmem⟩
  rw [h] at hstage
  cases hstage

theorem of_leads (h : g.Leads p c s stage t next) : g.Orders p c s (.entered stage t :: next) := by
  intro stage' t' hmem
  obtain ⟨rfl, rfl⟩ := Deed.entered.inj
    ((List.mem_cons.mp hmem).resolve_right (h.not_entered stage' t'))
  exact ⟨[], next, [], h, List.not_mem_nil, by simp⟩

/-- What is planned is done, as far as the observers let it. -/
theorem governs_done (h : g.Orders p c s ds) (r : Records) : g.Governs p c s (r.done ds) := by
  intro stage t hmem
  obtain ⟨xs, next, ys, hleads, hxs, rfl⟩ := h stage t ((Records.done_prefix r ds).subset hmem)
  exact ⟨next, hleads, Records.infix_done hxs hleads.quiet hmem⟩

end Orders

namespace Governs

theorem append (h : g.Governs p c s ds) (h' : g.Governs p c s ds') :
    g.Governs p c s (ds ++ ds') := by
  intro stage t hmem
  rcases List.mem_append.mp hmem with hmem | hmem
  · obtain ⟨next, hleads, hinfix⟩ := h stage t hmem
    exact ⟨next, hleads, hinfix.trans (List.prefix_append _ _).isInfix⟩
  · obtain ⟨next, hleads, hinfix⟩ := h' stage t hmem
    exact ⟨next, hleads, hinfix.trans (List.suffix_append _ _).isInfix⟩

theorem of_prefix_closingDeeds {stop : Nat} (h : ds <+: Plan.closingDeeds stop) :
    g.Governs p c s ds := by
  intro stage t hmem
  have hclosing := h.subset hmem
  simp only [Plan.closingDeeds, List.mem_cons, Deed.entered.injEq, List.not_mem_nil,
    or_false] at hclosing
  have hsingle : [Deed.entered stage t] <:+: ds := by
    obtain ⟨xs, ys, rfl⟩ := List.append_of_mem hmem
    exact ⟨xs, ys, by simp⟩
  rcases hclosing with ⟨rfl, rfl⟩ | ⟨rfl, rfl⟩
  · exact ⟨[], .restored t, hsingle⟩
  · exact ⟨[], .done t, hsingle⟩

theorem ignored_of_skipped (h : g.Governs p c s ds) (hmem : .entered .skipped t ∈ ds) :
    g.ignored = true := by
  obtain ⟨next, hleads, -⟩ := h _ _ hmem
  -- the stage of a verdict is computed, and no case can be told apart by it
  generalize hstage : Stage.skipped = stage at hleads
  cases hleads with
  | skipped hi => exact hi
  | verdict hbody => exact absurd hstage.symm (ofStatus_ne_skipped hbody)
  | _ => cases hstage

theorem not_ignored_of_running (h : g.Governs p c s ds) (hmem : .entered .running t ∈ ds) :
    g.ignored = false := by
  obtain ⟨next, hleads, -⟩ := h _ _ hmem
  generalize hstage : Stage.running = stage at hleads
  cases hleads with
  | running hi => exact hi
  | @verdict body =>
    unfold Stage.ofStatus at hstage
    cases hstatus : body.verdict.status <;> rw [hstatus] at hstage <;> cases hstage
  | _ => cases hstage

end Governs

end Settings

namespace Plan

variable {p : Plan} {c : Conditions} {s : Session} {body : Enforced}

/-- The settings of a plan. -/
def settings (p : Plan) : Settings :=
  { ignored := p.isIgnored, budget := p.budget, leeway := p.leeway }

section

variable {cat : Catalogue} {target : Target} {scenario : Scenario} {window idles : Value}
  {options : Option Bindings} {arguments : Arguments}

/-- With a journey and a window, whether there is a plan depends on the leeway only. -/
theorem prepare_eq {j : Journey} {w : Int} (hj : target.resolve cat = .ok j)
    (hw : window.wholeNumber = .ok w) :
    prepare cat target scenario window idles options arguments =
      ((leewayOf (options.getD arguments)).map fun leeway : Nat =>
        { journey := j, scenario, window := w, idles := !idles.isEmptyish
          options := options.getD arguments, leeway }).mapError .leeway := by
  unfold prepare
  rw [hj, hw]
  dsimp only
  cases leewayOf (options.getD arguments) <;> rfl

variable (h : prepare cat target scenario window idles options arguments = .ok p)

include h

/-- A plan has the options that it is made with, and reads the leeway from them. -/
theorem options_of_prepare :
    p.options = options.getD arguments ∧ leewayOf (options.getD arguments) = .ok p.leeway := by
  unfold prepare at h
  split at h
  · cases h
  split at h
  · cases h
  dsimp only at h
  split at h
  · cases h
  next leeway hleeway =>
    obtain rfl := Except.ok.inj h
    exact ⟨rfl, hleeway⟩

/-- So it takes its settings from the options as they are when it is made. -/
theorem settings_of_prepare :
    Settings.ofOptions (options.getD arguments) p.journey.name p.window = .ok p.settings := by
  obtain ⟨hoptions, hleeway⟩ := options_of_prepare h
  unfold Settings.ofOptions
  rw [hleeway, ← hoptions]
  rfl

end

/-! ### Parts of a plot -/

theorem orders_openingDeeds : p.settings.Orders p c s (p.openingDeeds c s) :=
  .of_leads .overridden

theorem orders_skipDeeds (hi : p.isIgnored = true) :
    p.settings.Orders p c s (p.skipDeeds c s) :=
  (Settings.Orders.of_leads (.skipped hi)).append (.of_stages [.announced _] rfl)

/-- A run starts its journey, and the body goes as far as its deadline lets it. -/
theorem orders_startDeeds (hi : p.isIgnored = false) (construction : List LogEntry)
    {attempt : Except Unenforced Enforced} (hattempt : p.attemptBody c (p.opened s) = attempt) :
    p.settings.Orders p c s (p.startDeeds s ++
      [.logged construction, .logged (Deadline.entries attempt)]) := by
  obtain rfl := hattempt
  exact (Settings.Orders.of_stages [.announced _] rfl).append
    (.of_leads (.running hi construction))

section

variable (hbody : p.attemptBody c (p.opened s) = .ok body)

include hbody

theorem orders_verdictDeeds :
    p.settings.Orders p c s (p.verdictDeeds c body.now body.verdict) := by
  have hleads : p.settings.Leads p c s (.ofStatus body.verdict.status) body.now
      [.emitted (p.finishedEvent c body.verdict)] := .verdict hbody rfl rfl
  exact (Settings.Orders.of_leads hleads).append (.of_stages _ (stages_failures _))

/-- A run asks its idler to idle before the teardown. -/
theorem orders_asked {d : Int} (hpause : p.pauseBeforeTeardown c s body = some d) :
    p.settings.Orders p c s
      [.entered .idleBeforeTeardown body.now, .asked .beforeTeardown d] := by
  obtain ⟨-, rfl⟩ := pauseOf_eq_some hpause
  exact .of_leads (.idleBeforeTeardown hbody)

theorem orders_waitingDeeds : p.settings.Orders p c s (p.waitingDeeds c s body) := by
  unfold waitingDeeds
  refine (orders_verdictDeeds hbody).append ?_
  cases hpause : p.pauseBeforeTeardown c s body with
  | none => exact .of_stages _ rfl
  | some d => exact (orders_asked hbody hpause).append (.of_stages [.emitted _] rfl)

/-- A run tears its journey down as far as the leeway lets it. -/
theorem orders_tearDown {commands : List Command} {t : Nat} {attempt : Except Unenforced Enforced}
    (hcommands : p.journey.tearDown = some commands)
    (hattempt : Deadline.attempt c.timeline t p.leeway c.grace body.arguments commands = attempt) :
    p.settings.Orders p c s [.entered .teardown t, .logged (Deadline.entries attempt)] := by
  obtain rfl := hattempt
  exact .of_leads (.tearDown (g := p.settings) t hbody hcommands)

theorem orders_deedsToDue (hi : p.isIgnored = false) :
    p.settings.Orders p c s (p.deedsToDue c s body) := by
  unfold deedsToDue
  rw [List.append_assoc (p.openingDeeds c s)]
  exact (orders_openingDeeds.append (orders_startDeeds hi _ hbody)).append
    (orders_waitingDeeds hbody)

end

namespace Execution

variable (x : p.Execution c s)

theorem orders_tearDownDeeds : p.settings.Orders p c s x.tearDownDeeds := by
  unfold tearDownDeeds
  cases hconstructs : p.constructs c (p.opened s) with
  | false =>
    cases hx : x.tearDown with
    | none => exact .of_stages _ rfl
    | some e => exact .of_stages _ rfl
  | true =>
    cases hx : x.tearDown with
    | none =>
      -- there is nothing to tear it down with, because it was constructed
      refine .of_leads (.noTearDown x.due (Option.isNone_iff_eq_none.mp ?_))
      have hsome := x.tearDown_isSome
      rw [hx, hconstructs, Bool.true_and] at hsome
      rw [← Option.not_isSome, ← hsome]
      rfl
    | some e =>
      obtain ⟨commands, hcommands, hattempt⟩ := x.tearDown_eq e hx
      exact orders_tearDown x.body_eq hcommands hattempt

theorem deedsToDue_prefix : p.deedsToDue c s x.body <+: x.deeds :=
  ((List.prefix_append _ _).trans (List.prefix_append _ _)).trans (List.prefix_append _ _)

theorem orders_deeds (hi : p.isIgnored = false) : p.settings.Orders p c s x.deeds :=
  (((orders_deedsToDue x.body_eq hi).append x.orders_tearDownDeeds).append
    (.of_stages _ x.stages_reportDeeds)).append (.of_stages _ rfl)

end Execution

theorem Develops.orders {a : Plot} (h : p.Develops c s a) :
    p.settings.Orders p c s a.deeds := by
  cases h with
  | skipped hi => exact orders_openingDeeds.append (orders_skipDeeds hi)
  | unenforced hi hu =>
    rw [List.append_assoc]
    exact orders_openingDeeds.append (orders_startDeeds hi _ hu)
  | refused hi hbody hpause =>
    rw [List.append_assoc (p.openingDeeds c s)]
    exact (orders_openingDeeds.append (orders_startDeeds hi _ hbody)).append
      ((orders_verdictDeeds hbody).append (orders_asked hbody hpause))
  | stuck hi hbody _ _ hcommands hu =>
    exact (orders_deedsToDue hbody hi).append (orders_tearDown hbody hcommands hu)
  | executed hi x => exact x.orders_deeds hi

theorem Pauses.orders {k : Core} {b : Plot}
    (h : p.Pauses c .beforeNext (p.pauseBeforeNext c s k.now) k b) :
    p.settings.Orders p c s b.deeds := by
  have hasked {d : Int} (hd : p.pauseBeforeNext c s k.now = some d) : p.settings.Orders p c s
      [.entered .idleBeforeNext k.now, .asked .beforeNext d] := by
    obtain ⟨-, rfl⟩ := pauseOf_eq_some hd
    exact .of_leads (.idleBeforeNext k.now)
  generalize hpause : p.pauseBeforeNext c s k.now = pause at h
  cases h with
  | rested =>
    cases pause with
    | none => exact .of_stages _ rfl
    | some d => exact (hasked hpause).append (.of_stages [.emitted _] rfl)
  | refused hd => exact hasked (hpause.trans hd)

/-- A plot goes as the settings say. -/
theorem plot_orders (p : Plan) (c : Conditions) (s : Session) :
    p.settings.Orders p c s (p.plot c s.core).deeds := by
  obtain ⟨a, hdevelops, ⟨f, -, hplot⟩ | ⟨-, b, hpauses, hplot⟩⟩ := p.plot_develops c s
  · rw [hplot]
    exact hdevelops.orders
  · rw [hplot, Plot.after_deeds]
    exact hdevelops.orders.append hpauses.orders

/-! ### Runs -/

/-- A plot begins with what happens up to the last pause. -/
theorem exists_develops_prefix (p : Plan) (c : Conditions) (s : Session) :
    ∃ a, p.Develops c s a ∧ a.deeds <+: (p.plot c s.core).deeds := by
  obtain ⟨a, ha, ⟨f, -, hplot⟩ | ⟨-, b, -, hplot⟩⟩ := p.plot_develops c s
  · exact ⟨a, ha, hplot ▸ List.prefix_refl _⟩
  · refine ⟨a, ha, ?_⟩
    rw [hplot, Plot.after_deeds]
    exact List.prefix_append _ _

/-- What a run enters at its gate. -/
theorem mem_plot_gate (p : Plan) (c : Conditions) (s : Session) :
    .entered (if p.isIgnored then .skipped else .running) s.now ∈ (p.plot c s.core).deeds := by
  have hdue (body : Enforced) : .entered .running s.now ∈ p.deedsToDue c s body := by
    simp [deedsToDue, startDeeds]
  obtain ⟨a, ha, hprefix⟩ := p.exists_develops_prefix c s
  refine hprefix.subset ?_
  cases ha with
  | skipped hi => simp [hi, skipDeeds]
  | unenforced hi => simp [hi, startDeeds]
  | refused hi => simp [hi, startDeeds]
  | stuck hi =>
    rw [hi]
    exact List.mem_append_left _ (hdue _)
  | executed hi x =>
    rw [hi]
    exact x.deedsToDue_prefix.subset (hdue x.body)

/-- Tame observers do not break off a plot. -/
theorem unbroken_plot (p : Plan) (c : Conditions) (ht : s.Tame) :
    s.records.Unbroken (p.plot c s.core).deeds :=
  Records.unbroken_of_tame ht.panel ht.outlet _

/-- What a run does goes as the settings of its plan say, and it gets to its gate unless a fault
comes back from an observer. -/
theorem run_governed_by_settings (p : Plan) (c : Conditions) (s : Session) : ∃ ds,
    (p.run c s).session.Follows s ds ∧ p.settings.Governs p c s ds ∧
      (s.Tame → .entered (if p.isIgnored then .skipped else .running) s.now ∈ ds) := by
  obtain ⟨rest, stop, hrest, hfollows⟩ := p.run_does c s
  refine ⟨_, hfollows, ?_, fun htame => List.mem_append_left _ ?_⟩
  · exact ((p.plot_orders c s).governs_done s.records).append (.of_prefix_closingDeeds hrest)
  · rw [Records.done_of_unbroken (p.unbroken_plot c htame)]
    exact p.mem_plot_gate c s

/-- Tame observers let a run do all of its deeds. -/
theorem did_of_tame (p : Plan) (c : Conditions) (ht : s.Tame) : ∃ rest,
    s.Did ((p.plot c s.core).deeds ++ rest) (p.run c s).session ∧
      rest.flatMap Deed.notices = [] := by
  refine ⟨_, (run_of_unbroken (p.unbroken_plot c ht)).2.1, ?_⟩
  cases (p.plot c s.core).fault <;> rfl

/-- A run with tame observers enters what its gate leads to, and nothing else that a gate leads
to. -/
theorem mem_entered_gate (p : Plan) (c : Conditions) (ht : s.Tame) :
    (.skipped ∈ p.entered c s ↔ p.isIgnored = true) ∧
      (.running ∈ p.entered c s ↔ p.isIgnored = false) := by
  obtain ⟨ds, hfollows, hgoverns, hgate⟩ := p.run_governed_by_settings c s
  have hmem {stage : Stage} : stage ∈ p.entered c s ↔ ∃ t, .entered stage t ∈ ds := by
    unfold entered
    rw [hfollows.stages, List.drop_left, Deed.mem_stages_iff]
  have hgate := hgate ht
  constructor
  · refine hmem.trans ⟨fun ⟨t, ht⟩ => hgoverns.ignored_of_skipped ht, fun hi => ⟨s.now, ?_⟩⟩
    rwa [hi] at hgate
  · refine hmem.trans ⟨fun ⟨t, ht⟩ => hgoverns.not_ignored_of_running ht, fun hi => ⟨s.now, ?_⟩⟩
    rwa [hi] at hgate

/-- The plan with other extra arguments in its scenario, and with another journey. -/
def varied (p : Plan) (extras : List ExtraArgument) (journey : Journey) : Plan :=
  { p with scenario := { p.scenario with extras := extras }, journey := journey }

theorem settings_varied {extras : List ExtraArgument} {journey : Journey}
    (h : journey.name = p.journey.name) : (p.varied extras journey).settings = p.settings := by
  unfold settings isIgnored varied budget
  rw [h]

/-- **What a run does is settled when it is planned.** A plan takes its settings from its options,
or from the arguments as they are then if there are no options. All of its runs go as these say:
whether the journey is passed over, the deadline of the body, that of the teardown, and what is kept
free when the run idles do not depend on the extra arguments of the scenario, on the arguments in
the session, or on what the journey does to them. -/
theorem run_governed {cat : Catalogue} {target : Target} {scenario : Scenario}
    {window idles : Value} {options : Option Bindings} {arguments : Arguments}
    (h : prepare cat target scenario window idles options arguments = .ok p) :
    ∃ g, Settings.ofOptions (options.getD arguments) p.journey.name p.window = .ok g ∧
      ∀ (extras : List ExtraArgument) (journey : Journey), journey.name = p.journey.name →
        ∀ (c : Conditions) (s : Session), ∃ ds,
          ((p.varied extras journey).run c s).session.Follows s ds ∧
          g.Governs (p.varied extras journey) c s ds ∧
          (∀ t, .entered .skipped t ∈ ds → g.ignored = true) ∧
          (∀ t, .entered .running t ∈ ds → g.ignored = false) ∧
          (s.Tame → .entered (if g.ignored then .skipped else .running) s.now ∈ ds) := by
  refine ⟨p.settings, settings_of_prepare h, fun extras journey hname c s => ?_⟩
  -- the run of the varied plan goes as the settings of that plan say, and those are the same
  obtain ⟨ds, hfollows, hgoverns, hgate⟩ := (p.varied extras journey).run_governed_by_settings c s
  have hsettings : (p.varied extras journey).settings = p.settings := settings_varied hname
  have hignored : (p.varied extras journey).isIgnored = p.settings.ignored :=
    congrArg Settings.ignored hsettings
  rw [hsettings] at hgoverns
  rw [hignored] at hgate
  exact ⟨ds, hfollows, hgoverns, fun t => hgoverns.ignored_of_skipped,
    fun t => hgoverns.not_ignored_of_running, hgate⟩

/-- Options that are not given, a scenario that excludes its journey and spoils the leeway, and a
journey that does so as well. -/
theorem run_governed_of_spoilers :
    let arguments := Bindings.ofPairs [(leewayOption, "100")]
    let extras : List ExtraArgument := [⟨excludeOption, "m.J"⟩, ⟨leewayOption, "never"⟩]
    let override := Step.operate
      (.override (.items [.loose (.list [.text leewayOption, .text "0"])]) "token")
    let journey : Journey := { name := "m.J", setUp := some (commandsOf .setUp [override]) }
    ∃ p, prepare { modules := [] } (.blueprint { name := "J", module := "m", run := .steps [] }) {}
        (.int 5000) (.bool true) none arguments = .ok p ∧ journey.name = p.journey.name ∧
      ∃ g : Settings, g.ignored = false ∧ g.budget = 4900 ∧ g.leeway = 100 ∧
        ∃ ds, ((p.varied extras journey).run (.steady 1000)
            (.unobserved .empty (.waiter .silent))).session.Follows
              (.unobserved .empty (.waiter .silent)) ds ∧
          g.Governs (p.varied extras journey) (.steady 1000)
            (.unobserved .empty (.waiter .silent)) ds ∧
          .entered .running 0 ∈ ds := by
  intro arguments extras override journey
  have hp : prepare { modules := [] } (.blueprint { name := "J", module := "m", run := .steps [] })
      {} (.int 5000) (.bool true) none arguments = .ok {
        journey := { name := "m.J", announced := true }, scenario := {}, window := 5000
        idles := true, options := arguments, leeway := 100 } := by
    rfl
  obtain ⟨g, hg, hruns⟩ := run_governed hp
  -- the settings have been fixed when the run was prepared
  obtain rfl : (⟨false, 4900, 100⟩ : Settings) = g := Except.ok.inj (Eq.trans rfl hg)
  obtain ⟨ds, hfollows, hgoverns, -, -, hgate⟩ := hruns extras journey rfl (.steady 1000)
    (.unobserved .empty (.waiter .silent))
  exact ⟨_, hp, rfl, _, rfl, rfl, rfl, ds, hfollows, hgoverns,
    hgate (Session.unobserved_tame _ _)⟩

end Plan

end Timebox
