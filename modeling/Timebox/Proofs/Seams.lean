import Timebox.Proofs.Reports

/-!
# Where preparation ends

Nothing that is done under a deadline depends on the phase to which a command belongs; phases are
copied into the log, and that is all.  So if the phases of a journey's commands are relabelled, a
run of it is relabelled in its log and is otherwise the same (`Plan.run_relabel`).

Preparation and run are one body under one deadline.  If the label of the one is replaced by that of
the other, moving steps from the end of the preparation to the beginning of the run does not change
the body at all, and so it changes nothing in a run but labels (`Plan.run_seamless`).  There are no
cases for where the deadline, a fault or the end of the grace period falls: the body is never cut in
two.
-/

namespace Timebox

/-! ### Relabelling -/

/-- The label of preparation is replaced by that of the run. -/
def Phase.merged : Phase → Phase
  | setUp => run
  | phase => phase

/-- The command with a relabelled phase. -/
def Command.relabel (r : Phase → Phase) (c : Command) : Command :=
  { c with phase := r c.phase }

/-- The entry with a relabelled phase, if it has one. -/
def LogEntry.relabel (r : Phase → Phase) : LogEntry → LogEntry
  | constructed t => constructed t
  | step phase word o t => step (r phase) word o t

/-- The course with a relabelled log. -/
def Course.relabel (r : Phase → Phase) (c : Course) : Course :=
  { c with log := c.log.map (LogEntry.relabel r) }

/-- The same is left, with a relabelled log. -/
def Enforced.relabel (r : Phase → Phase) (e : Enforced) : Enforced :=
  { e with log := e.log.map (LogEntry.relabel r) }

/-- The same is left, with a relabelled log. -/
def Unenforced.relabel (r : Phase → Phase) (u : Unenforced) : Unenforced :=
  { u with log := u.log.map (LogEntry.relabel r) }

/-- The session with a relabelled log. -/
def Session.relabel (r : Phase → Phase) (s : Session) : Session :=
  { s with log := s.log.map (LogEntry.relabel r) }

/-- The same progress, with a relabelled log. -/
def Progress.relabel (r : Phase → Phase) (p : Progress) : Progress :=
  { p with session := p.session.relabel r }

/-- What a deadline leaves, with a relabelled log. -/
def Deadline.relabel (r : Phase → Phase) :
    Except Unenforced Enforced → Except Unenforced Enforced
  | .error u => .error (u.relabel r)
  | .ok e => .ok (e.relabel r)

variable {r : Phase → Phase}

theorem commandsOf_relabel (r : Phase → Phase) (phase : Phase) (steps : List Step) :
    (commandsOf phase steps).map (Command.relabel r) = commandsOf (r phase) steps := by
  unfold commandsOf
  rw [List.map_map]
  rfl

theorem commandsOf_append (phase : Phase) (xs ys : List Step) :
    commandsOf phase (xs ++ ys) = commandsOf phase xs ++ commandsOf phase ys :=
  List.map_append

/-! ### Bodies -/

theorem Course.noting_relabel (c : Course) (command : Command) (o : Outcome) (t : Nat) :
    (c.relabel r).noting (command.relabel r) o t = (c.noting command o t).relabel r := by
  cases command with
  | mk phase step recorded => cases recorded <;> rfl

/-- A relabelled body takes the same course, with a relabelled log: which step is taken, and from
where, has nothing to do with labels. -/
theorem runCommands_relabel (around : Surroundings) (body : List Command) (m : Moment) :
    runCommands around (body.map (Command.relabel r)) m =
      (runCommands around body m).relabel r := by
  induction body generalizing m with
  | nil => rfl
  | cons c cs ih =>
    have hstep : (c.relabel r).step = c.step := rfl
    rw [List.map_cons, runCommands, runCommands, hstep]
    cases c.step.take around m with
    | done v n =>
      dsimp only
      rw [ih, Course.noting_relabel]
    | raised f n =>
      exact Course.noting_relabel { ending := .raised f, last := n, log := [] } c _ _
    | abandoned => rfl
    | endless => rfl

namespace Deadline

variable {tl : Timeline} {start budget grace : Nat} {arguments : Arguments} {body : List Command}

theorem course_relabel : course tl start budget grace arguments (body.map (Command.relabel r)) =
    (course tl start budget grace arguments body).relabel r :=
  runCommands_relabel _ _ _

theorem completes_relabel :
    completes tl start budget grace arguments (body.map (Command.relabel r)) =
      completes tl start budget grace arguments body := by
  unfold completes
  rw [course_relabel]
  rfl

theorem enforce_relabel : enforce tl start budget grace arguments (body.map (Command.relabel r)) =
    (enforce tl start budget grace arguments body).relabel r := by
  unfold enforce
  rw [course_relabel]
  rfl

theorem attempt_relabel : attempt tl start budget grace arguments (body.map (Command.relabel r)) =
    relabel r (attempt tl start budget grace arguments body) := by
  have hbefore : courseBefore tl start budget arguments (body.map (Command.relabel r)) =
      (courseBefore tl start budget arguments body).relabel r := runCommands_relabel _ _ _
  -- whether a body is late depends on what it does and when, and not on labels
  have hlate : isLate (course tl start budget grace arguments (body.map (Command.relabel r))) =
      isLate (course tl start budget grace arguments body) := by
    rw [course_relabel]
    rfl
  unfold attempt
  rw [hlate, hbefore, enforce_relabel]
  split
  · rfl
  · split <;> rfl

end Deadline

/-! ### Sessions -/

namespace Progress

variable {a : Progress}

/-- The rule of sequence. -/
theorem andThen_relabel {b : Progress} {next next' : Session → Progress} (hb : b = a.relabel r)
    (h : ∀ s, next' (s.relabel r) = (next s).relabel r) :
    b.andThen next' = (a.andThen next).relabel r := by
  have hsame : b.fault = a.fault := by
    rw [hb]
    rfl
  cases hfault : a.fault with
  | none =>
    rw [andThen_of_none hfault, andThen_of_none (hsame.trans hfault), hb]
    exact h a.session
  | some f => rw [andThen_of_fault hfault, andThen_of_fault (hsame.trans hfault), hb]

theorem always_relabel {b : Progress} {last : Session → Session} (hb : b = a.relabel r)
    (h : ∀ s, last (s.relabel r) = (last s).relabel r) :
    b.always last = (a.always last).relabel r := by
  rw [hb]
  unfold always relabel
  rw [h]

end Progress

namespace Session

variable {s : Session}

theorem announceFault_relabel (d : Description) (fault : Option Fault) :
    (s.relabel r).announceFault d fault = (s.announceFault d fault).relabel r := by
  cases fault <;> rfl

theorem await_relabel (tl : Timeline) (duration : Int) :
    (s.relabel r).await tl duration = (s.await tl duration).relabel r := by
  unfold await
  have hidler : (s.relabel r).idler = s.idler := rfl
  dsimp only
  rw [hidler]
  cases s.idler with
  | waiter alarm => rfl
  | other answer asked =>
    dsimp only
    cases answer asked duration <;> rfl

theorem absorb_relabel (e : Enforced) :
    (s.relabel r).absorb (e.relabel r) = (s.absorb e).relabel r := by
  simp only [absorb, relabel, Enforced.relabel, List.map_append]

theorem giveUp_relabel (u : Unenforced) :
    (s.relabel r).giveUp (u.relabel r) = (s.giveUp u).relabel r := by
  simp only [giveUp, relabel, Progress.relabel, Unenforced.relabel, List.map_append]

end Session

/-! ### Runs -/

/-- A journey that does what another one does, with relabelled phases.  Where its preparation ends
is left open. -/
structure Journey.Relabels (r : Phase → Phase) (k j : Journey) : Prop where
  name : k.name = j.name
  announced : k.announced = j.announced
  construction : k.construction = j.construction.map (Command.relabel r)
  opening : k.opening = j.opening.map (Command.relabel r)
  tearDown : k.tearDown = j.tearDown.map (List.map (Command.relabel r))

theorem Journey.constructionLog_relabel (j : Journey) (t : Nat) :
    (j.constructionLog t).map (LogEntry.relabel r) = j.constructionLog t := by
  unfold constructionLog
  split <;> rfl

namespace Plan

variable {p : Plan} {k : Journey} {c : Conditions} {s : Session}

section

variable (h : k.Relabels r p.journey)

include h

theorem description_relabel : (p.withJourney k).description = p.description := by
  unfold description withJourney
  rw [h.name]

theorem event_relabel (kind : String) (phase : Telemetry.Phase) (outcome : Telemetry.Outcome)
    (details : List (String × Json)) :
    (p.withJourney k).event c kind phase outcome details =
      p.event c kind phase outcome details := by
  unfold event withJourney
  rw [h.name]

theorem isIgnored_relabel : (p.withJourney k).isIgnored = p.isIgnored := by
  unfold isIgnored withJourney
  rw [h.name]

theorem attemptBody_relabel :
    (p.withJourney k).attemptBody c (s.relabel r) = Deadline.relabel r (p.attemptBody c s) := by
  have hopening : (p.withJourney k).journey.opening =
      p.journey.opening.map (Command.relabel r) := h.opening
  unfold attemptBody
  rw [hopening]
  exact Deadline.attempt_relabel

theorem constructs_relabel :
    (p.withJourney k).constructs c (s.relabel r) = p.constructs c s := by
  have hconstruction : (p.withJourney k).journey.construction =
      p.journey.construction.map (Command.relabel r) := h.construction
  unfold constructs
  rw [hconstruction]
  exact Deadline.completes_relabel

theorem construct_relabel (begun : Bool) :
    (p.withJourney k).construct begun (s.relabel r) = (p.construct begun s).relabel r := by
  have hlog : (p.withJourney k).journey.constructionLog (s.relabel r).now =
      (p.journey.constructionLog s.now).map (LogEntry.relabel r) := by
    rw [Journey.constructionLog_relabel]
    unfold Journey.constructionLog withJourney
    rw [h.announced]
    rfl
  unfold construct
  rw [hlog]
  cases begun with
  | false => rfl
  | true => simp only [Session.relabel, if_true, List.map_append]

theorem idle_relabel (i : Interlude) (duration : Int) :
    (p.withJourney k).idle c i duration (s.relabel r) = (p.idle c i duration s).relabel r := by
  unfold idle
  split
  · rfl
  · have hevent : (p.withJourney k).idleEvent c i duration = p.idleEvent c i duration :=
      event_relabel h _ _ _ _
    let asking : Session :=
      { s.enter i.stage with trace := (s.enter i.stage).trace ++ [.idling i duration] }
    have hawait : (asking.relabel r).await c.timeline duration =
        (asking.await c.timeline duration).relabel r := Session.await_relabel _ _
    rw [hevent]
    exact Progress.andThen_relabel hawait fun t => rfl

theorem idleBeforeTeardown_relabel (origin : Int) (status : Status) :
    (p.withJourney k).idleBeforeTeardown c origin status (s.relabel r) =
      (p.idleBeforeTeardown c origin status s).relabel r := by
  have hidles : (p.withJourney k).idlesBeforeTeardown status = p.idlesBeforeTeardown status := rfl
  unfold idleBeforeTeardown
  rw [hidles]
  split
  · exact idle_relabel h _ _
  · rfl

theorem idleBeforeNext_relabel (origin : Int) :
    (p.withJourney k).idleBeforeNext c origin (s.relabel r) =
      (p.idleBeforeNext c origin s).relabel r := by
  have hidles : (p.withJourney k).idles = p.idles := rfl
  unfold idleBeforeNext
  rw [hidles]
  split
  · exact idle_relabel h _ _
  · rfl

theorem record_relabel (v : Verdict) :
    (p.withJourney k).record c v (s.relabel r) = (p.record c v s).relabel r := by
  have hevent : (p.withJourney k).finishedEvent c v = p.finishedEvent c v := by
    unfold finishedEvent
    rw [event_relabel h]
    rfl
  unfold record
  rw [hevent, description_relabel h]
  exact Progress.andThen_relabel rfl fun t => Session.announceFault_relabel _ _

theorem cleanUp_relabel :
    (p.withJourney k).cleanUp c (s.relabel r) = (p.cleanUp c s).relabel r := by
  have hcommands : (p.withJourney k).journey.tearDown =
      p.journey.tearDown.map (List.map (Command.relabel r)) := h.tearDown
  unfold cleanUp
  rw [hcommands]
  cases p.journey.tearDown with
  | none => rfl
  | some commands =>
    -- the same deadline is enforced on the same steps under other labels
    have hattempt : Deadline.attempt c.timeline (s.relabel r).now (p.withJourney k).leeway c.grace
        (s.relabel r).arguments (commands.map (Command.relabel r)) =
          Deadline.relabel r
            (Deadline.attempt c.timeline s.now p.leeway c.grace s.arguments commands) :=
      Deadline.attempt_relabel
    simp only [Option.map_some, hattempt]
    cases Deadline.attempt c.timeline s.now p.leeway c.grace s.arguments commands with
    | error u => exact Session.giveUp_relabel u
    | ok e =>
      have hevent : (p.withJourney k).teardownEvent c e.verdict =
          p.teardownEvent c e.verdict := event_relabel h _ _ _ _
      show (((s.relabel r).absorb (e.relabel r)).emit
        ((p.withJourney k).teardownEvent c e.verdict)).andThen _ = _
      rw [hevent, description_relabel h, Session.absorb_relabel]
      exact Progress.andThen_relabel rfl fun t => Session.announceFault_relabel _ _

theorem tearDown_relabel (constructed : Bool) :
    (p.withJourney k).tearDown c constructed (s.relabel r) =
      (p.tearDown c constructed s).relabel r := by
  cases constructed with
  | false => rfl
  | true => exact cleanUp_relabel (s := s.enter .teardown) h

theorem conclude_relabel (origin : Int) (constructed : Bool) (v : Verdict) :
    (p.withJourney k).conclude c origin constructed v (s.relabel r) =
      (p.conclude c origin constructed v s).relabel r := by
  unfold conclude
  rw [description_relabel h]
  refine Progress.andThen_relabel ?_ fun t => rfl
  refine Progress.andThen_relabel ?_ fun t => tearDown_relabel h constructed
  exact Progress.andThen_relabel (record_relabel h v) fun t =>
    idleBeforeTeardown_relabel h origin v.status

theorem execute_relabel (origin : Int) :
    (p.withJourney k).execute c origin (s.relabel r) = (p.execute c origin s).relabel r := by
  unfold execute
  rw [description_relabel h]
  refine Progress.andThen_relabel rfl fun t => ?_
  have hattempt : (p.withJourney k).attemptBody c ((t.relabel r).enter .running) =
      Deadline.relabel r (p.attemptBody c (t.enter .running)) :=
    attemptBody_relabel (s := t.enter .running) h
  have hconstructs : (p.withJourney k).constructs c ((t.relabel r).enter .running) =
      p.constructs c (t.enter .running) := constructs_relabel (s := t.enter .running) h
  have hconstruct (begun : Bool) : (p.withJourney k).construct begun
      ((t.relabel r).enter .running) = (p.construct begun (t.enter .running)).relabel r :=
    construct_relabel (s := t.enter .running) h begun
  -- every part commutes with the relabelling, and a fault ends both runs at one place
  dsimp only
  rw [hattempt, hconstructs, hconstruct]
  cases p.attemptBody c (t.enter .running) with
  | error u =>
    show ((p.withJourney k).construct u.begun _).giveUp (u.relabel r) = _
    rw [hconstruct]
    exact Session.giveUp_relabel u
  | ok e =>
    show (p.withJourney k).conclude c origin _ e.verdict
      (((p.construct true (t.enter .running)).relabel r).absorb (e.relabel r)) = _
    rw [Session.absorb_relabel]
    exact conclude_relabel h _ _ _

theorem skip_relabel : (p.withJourney k).skip c (s.relabel r) = (p.skip c s).relabel r := by
  have hevent : (p.withJourney k).ignoredEvent c = p.ignoredEvent c := event_relabel h _ _ _ _
  unfold skip
  rw [hevent, description_relabel h]
  exact Progress.andThen_relabel rfl fun t => rfl

theorem body_relabel (origin : Int) :
    (p.withJourney k).body c origin (s.relabel r) = (p.body c origin s).relabel r := by
  unfold body
  rw [isIgnored_relabel h]
  refine Progress.andThen_relabel ?_ fun t => idleBeforeNext_relabel h origin
  split
  · exact skip_relabel h
  · exact execute_relabel h origin

/-- A run of a relabelled journey is the same run with a relabelled log. -/
theorem run_relabel : (p.withJourney k).run c (s.relabel r) = (p.run c s).relabel r := by
  have hevent : (p.withJourney k).overriddenEvent c = p.overriddenEvent c :=
    event_relabel h _ _ _ _
  unfold run
  dsimp only
  rw [hevent]
  refine Progress.andThen_relabel rfl fun t => ?_
  refine Progress.andThen_relabel ?_ fun u => rfl
  exact Progress.always_relabel (body_relabel h _) fun u => rfl

end

end Plan

/-! ### The seam -/

/-- The part does nothing: it is inherited or missing, cannot be called, or takes no step. -/
def Part.IsQuiet : Part → Prop
  | .steps xs => xs = []
  | _ => True

namespace Blueprint

/-- The blueprint with another preparation, and with a run that takes some steps. -/
def scripted (b : Blueprint) (setUp : Part) (run : List Step) : Blueprint :=
  { b with setUp := setUp, run := .steps run }

/-- The journey of such a blueprint. -/
def scriptedJourney (b : Blueprint) (setUp : Part) (run : List Step) : Journey where
  name := b.canonicalName
  announced := true
  construction := (b.constructionFault.map Journey.raising).toList
  setUp := b.hook .setUp setUp
  run := commandsOf .run run
  tearDown := b.hook .tearDown b.tearDown

variable {b : Blueprint} {part : Part} {xs ys : List Step}

theorem hook_relabel (r : Phase → Phase) (phase : Phase) (part : Part) :
    (b.hook phase part).map (List.map (Command.relabel r)) = b.hook (r phase) part := by
  cases part with
  | absent =>
    simp only [hook]
    split <;> rfl
  | inert => rfl
  | steps xs => exact congrArg some (commandsOf_relabel r phase xs)

theorem hook_of_isQuiet (h : part.IsQuiet) (phase : Phase) :
    (b.hook phase part).getD [] = [] := by
  cases part with
  | absent =>
    simp only [hook]
    split <;> rfl
  | inert => rfl
  | steps xs =>
    obtain rfl : xs = [] := h
    rfl

/-- Without the label of preparation, two blueprints that differ in preparation and run make the
same journey if the bodies are the same. -/
theorem scriptedJourney_relabels {part' : Part} (h : (b.scriptedJourney part' ys).body =
    (b.scriptedJourney part xs).body.map (Command.relabel .merged)) :
    (b.scriptedJourney part' ys).Relabels .merged (b.scriptedJourney part xs) := by
  have hconstruction : (b.scriptedJourney part ys).construction =
      (b.scriptedJourney part xs).construction.map (Command.relabel .merged) := by
    unfold scriptedJourney
    cases b.constructionFault <;> rfl
  refine ⟨rfl, rfl, hconstruction, ?_, (hook_relabel .merged .tearDown b.tearDown).symm⟩
  unfold Journey.opening
  rw [List.map_append, ← h, ← hconstruction]
  rfl

theorem body_scriptedJourney_of_isQuiet (h : part.IsQuiet) (steps : List Step) :
    (b.scriptedJourney part steps).body = commandsOf .run steps := by
  unfold Journey.body
  exact congrArg (· ++ commandsOf .run steps) (hook_of_isQuiet h .setUp)

/-- Steps may be moved from the preparation to the run. -/
theorem joined_relabels_split (h : part.IsQuiet) (xs ys : List Step) :
    (b.scriptedJourney part (xs ++ ys)).Relabels .merged
      (b.scriptedJourney (.steps xs) ys) := by
  refine scriptedJourney_relabels ?_
  have hsplit : (b.scriptedJourney (.steps xs) ys).body =
      commandsOf .setUp xs ++ commandsOf .run ys := rfl
  rw [body_scriptedJourney_of_isQuiet h, hsplit, List.map_append, commandsOf_relabel,
    commandsOf_relabel]
  exact commandsOf_append .run xs ys

/-- A journey without preparation has no label to lose. -/
theorem joined_relabels_joined (h : part.IsQuiet) (steps : List Step) :
    (b.scriptedJourney part steps).Relabels .merged (b.scriptedJourney part steps) := by
  refine scriptedJourney_relabels ?_
  rw [body_scriptedJourney_of_isQuiet h, commandsOf_relabel]
  rfl

end Blueprint

namespace Plan

variable {cat : Catalogue} {target target' : Target} {scenario : Scenario} {window idles : Value}
  {options : Option Bindings} {arguments : Arguments} {j k : Journey}

/-- A plan is about the journey of its target. -/
theorem journey_of_prepare {p : Plan} (hj : target.resolve cat = .ok j)
    (h : prepare cat target scenario window idles options arguments = .ok p) : p.journey = j := by
  unfold prepare at h
  rw [hj] at h
  dsimp only at h
  cases hw : window.wholeNumber with
  | error e =>
    rw [hw] at h
    cases h
  | ok n =>
    rw [hw] at h
    dsimp only at h
    split at h
    · cases h
    · obtain rfl := Except.ok.inj h
      rfl

/-- Whether a run can be planned does not depend on which journey it is about. -/
theorem prepare_withJourney (hj : target.resolve cat = .ok j) (hk : target'.resolve cat = .ok k) :
    prepare cat target' scenario window idles options arguments =
      (prepare cat target scenario window idles options arguments).map (·.withJourney k) := by
  unfold prepare
  rw [hj, hk]
  dsimp only
  cases window.wholeNumber with
  | error e => rfl
  | ok n =>
    dsimp only
    split <;> rfl

/-- **Preparation and run share one deadline seamlessly.**  Of two blueprints that differ in where
the preparation ends and the run begins, both can be planned or neither can, for the same reason.
If they can, then in all conditions and from every session the watchdog leaves the same of both
bodies: the verdict with its fault and its time, the instant and the arguments; or it gives both up
in the same way.  And the runs are the same: the fault, the instant, the arguments, what the
listeners and the sinks have been told, what was asked of the idler, and the stages with their
instants.  The logs are the same but for the label of preparation. -/
theorem run_seamless (cat : Catalogue) (b : Blueprint) {quiet : Part} (hquiet : quiet.IsQuiet)
    (xs ys : List Step) (scenario : Scenario) (window idles : Value) (options : Option Bindings)
    (arguments : Arguments) :
    let split := prepare cat (.blueprint (b.scripted (.steps xs) ys)) scenario window idles options
      arguments
    let joined := prepare cat (.blueprint (b.scripted quiet (xs ++ ys))) scenario window idles
      options arguments
    (∀ e, split = .error e ↔ joined = .error e) ∧
      ∀ p q, split = .ok p → joined = .ok q → ∀ (c : Conditions) (s : Session),
        Deadline.relabel .merged (p.attemptBody c s) =
            Deadline.relabel .merged (q.attemptBody c s) ∧
          (p.run c s).relabel .merged = (q.run c s).relabel .merged := by
  intro split joined
  have hsplit : (Target.blueprint (b.scripted (.steps xs) ys)).resolve cat =
      .ok (b.scriptedJourney (.steps xs) ys) := rfl
  have hjoined : (Target.blueprint (b.scripted quiet (xs ++ ys))).resolve cat =
      .ok (b.scriptedJourney quiet (xs ++ ys)) := rfl
  have hprepare : joined = split.map (·.withJourney (b.scriptedJourney quiet (xs ++ ys))) :=
    prepare_withJourney hsplit hjoined
  constructor
  · intro e
    rw [hprepare]
    cases split with
    | error e' => exact Iff.rfl
    | ok p => exact iff_of_false nofun nofun
  · intro p q hp hq c s
    have hjourney : p.journey = b.scriptedJourney (.steps xs) ys := journey_of_prepare hsplit hp
    obtain rfl : p.withJourney (b.scriptedJourney quiet (xs ++ ys)) = q := by
      rw [hprepare, hp] at hq
      exact Except.ok.inj hq
    have hmoved : (b.scriptedJourney quiet (xs ++ ys)).Relabels .merged p.journey := by
      rw [hjourney]
      exact Blueprint.joined_relabels_split hquiet xs ys
    have hsame := Blueprint.joined_relabels_joined (b := b) hquiet (xs ++ ys)
    -- both runs, relabelled, are the run of the second journey from the relabelled session
    constructor
    · rw [← attemptBody_relabel hmoved]
      exact attemptBody_relabel (p := p.withJourney _) hsame
    · rw [← run_relabel hmoved]
      exact run_relabel (p := p.withJourney _) hsame

/-- The deadline falls into an idle that one journey takes while it prepares itself and the other
one while it runs; it is cut short there in both. -/
theorem run_seamless_at_deadline :
    let b : Blueprint := { name := "Scripted", module := "pkg.journeys" }
    let plan (setUp : Part) (run : List Step) :=
      prepare { modules := [] } (.blueprint (b.scripted setUp run)) {} (.int 5000)
        (.bool false) none .empty
    let s := Session.unobserved .empty (.waiter .silent)
    ∃ p q, plan (.steps [.busy 1500, .idle 2500]) [.check] = .ok p ∧
      plan .absent [.busy 1500, .idle 2500, .check] = .ok q ∧
        .entered .timedOut 2000 ∈ (p.run (.steady 1000) s).session.trace ∧
          (p.run (.steady 1000) s).relabel .merged = (q.run (.steady 1000) s).relabel .merged := by
  intro b plan s
  let planned (setUp : Part) (run : List Step) : Plan :=
    { journey := b.scriptedJourney setUp run, scenario := {}, window := 5000, idles := false
      options := .empty, leeway := 3000 }
  have hplanned (setUp : Part) (run : List Step) : plan setUp run = .ok (planned setUp run) := rfl
  have hquiet : Part.absent.IsQuiet := trivial
  obtain ⟨-, hsame⟩ := run_seamless { modules := [] } b hquiet [.busy 1500, .idle 2500] [.check] {}
    (.int 5000) (.bool false) none .empty
  exact ⟨_, _, hplanned _ _, hplanned _ _, by decide +kernel,
    (hsame _ _ (hplanned _ _) (hplanned _ _) (.steady 1000) s).2⟩

end Plan

end Timebox
