import Timebox.Proofs.Observation
import Timebox.Run.Execute

/-!
# Outlines of runs

An outline of a run says what holds between its parts: once the arguments are overridden, once the
journey has got its verdict, once its teardown is due, once nothing is left to do but to idle, and
once that is over.  Its obligations are about the parts in which something happens: the body, the
teardown, and the two occasions to idle.  `Outline.run_ends` then speaks about the whole run.

What lies between the parts (stages, events, notices) is dealt with here once and for all, and so
are the ways in which a run may leave parts out.
-/

namespace Timebox.Plan

/-- The session of a run in which the arguments have just been overridden. -/
def opened (p : Plan) (s : Session) : Session :=
  { s with arguments := s.arguments.overlay p.scenario.pairs }.enter .argumentsOverridden

/-- What holds between the parts of a run that started at `origin` on the clock.  Whatever fault a
part ends with, `E` holds. -/
structure Outline (p : Plan) (c : Conditions) (origin : Int) (E : Fault → Session → Prop) where
  /-- The arguments are overridden. -/
  begun : Session → Prop
  /-- The body has got its verdict. -/
  judged : Session → Prop
  /-- The teardown is due. -/
  due : Session → Prop
  /-- Nothing is left to do but to idle until the next scenario. -/
  spent : Session → Prop
  /-- Everything is done. -/
  finished : Session → Prop
  begun_observed : Observed begun E
  judged_observed : Observed judged E
  due_observed : Observed due E
  spent_observed : Observed spent E
  finished_observed : Observed finished E
  judged_of_attempt : ∀ s e, begun s → p.attemptBody c s = .ok e →
    judged ((p.construct true s).absorb e)
  fault_of_attempt : ∀ s u, begun s → p.attemptBody c s = .error u →
    E .immeasurable ((p.construct u.begun s).giveUp u).session
  due_of_await : ∀ s, judged s → p.idles = true → 0 < p.remaining c origin s - 2 * p.leeway →
    (s.await c.timeline (p.remaining c origin s - 2 * p.leeway)).Ends due E
  due_of_judged : ∀ s, judged s → due s
  spent_of_cleanUp : ∀ s commands e, due s → p.journey.tearDown = some commands →
    Deadline.attempt c.timeline s.now p.leeway c.grace s.arguments commands = .ok e →
    spent (s.absorb e)
  fault_of_cleanUp : ∀ s commands u, due s → p.journey.tearDown = some commands →
    Deadline.attempt c.timeline s.now p.leeway c.grace s.arguments commands = .error u →
    E .immeasurable (s.giveUp u).session
  spent_of_due : ∀ s, due s → spent s
  spent_of_begun : ∀ s, begun s → p.isIgnored = true → spent s
  finished_of_await : ∀ s, spent s → p.idles = true → 0 < p.remaining c origin s →
    (s.await c.timeline (p.remaining c origin s)).Ends finished E
  finished_of_spent : ∀ s, spent s → (p.idles = true → p.remaining c origin s ≤ 0) → finished s

namespace Outline

variable {p : Plan} {c : Conditions} {origin : Int} {E : Fault → Session → Prop} {s : Session}

/-- Idling for a positive duration is waiting; idling for no time is nothing. -/
theorem idle_ends {P Q : Session → Prop} (hP : Observed P E) (hQ : Observed Q E) (i : Interlude)
    {duration : Int} (hs : P s)
    (hwait : ∀ t, P t → t.now = s.now → 0 < duration → (t.await c.timeline duration).Ends Q E)
    (hskip : duration ≤ 0 → Q s) : (p.idle c i duration s).Ends Q E := by
  unfold idle
  split
  · next hd => exact Progress.ends_of_session (hskip hd)
  · next hd =>
    have hmark := hP.mark i.stage ((s.enter i.stage).trace ++ [.idling i duration]) hs
    have hwaited := hwait _ hmark rfl (by omega)
    exact hwaited.andThen fun t ht => hQ.emit _ ht

variable (o : p.Outline c origin E)

theorem idleBeforeTeardown_ends (status : Status) (hs : o.judged s) :
    (p.idleBeforeTeardown c origin status s).Ends o.due E := by
  unfold idleBeforeTeardown
  split
  · next hi =>
    have hidles : p.idles = true := by
      simp only [idlesBeforeTeardown, Bool.and_eq_true] at hi
      exact hi.1.1
    refine idle_ends o.judged_observed o.due_observed _ hs (fun t ht hnow hpos => ?_)
      fun _ => o.due_of_judged s hs
    -- entering the stage has taken no time, so just as much is left of the window
    have hrem : p.remaining c origin t = p.remaining c origin s := by
      unfold remaining
      rw [hnow]
    rw [← hrem] at hpos ⊢
    exact o.due_of_await t ht hidles hpos
  · exact Progress.ends_of_session (o.due_of_judged s hs)

theorem idleBeforeNext_ends (hs : o.spent s) :
    (p.idleBeforeNext c origin s).Ends o.finished E := by
  unfold idleBeforeNext
  split
  · next hidles =>
    -- the events of the pause take no time, so that what remains is still what is asked for
    refine idle_ends o.spent_observed o.finished_observed _ hs (fun t ht hnow hpos => ?_)
      fun hrem => o.finished_of_spent s hs fun _ => hrem
    have hrem : p.remaining c origin t = p.remaining c origin s := by
      unfold remaining
      rw [hnow]
    rw [← hrem] at hpos ⊢
    exact o.finished_of_await t ht hidles hpos
  · next hidles =>
    have hfinished := o.finished_of_spent s hs fun h => absurd h hidles
    exact Progress.ends_of_session hfinished

theorem record_ends (v : Verdict) (hs : o.judged s) : (p.record c v s).Ends o.judged E := by
  unfold record
  have hemit := o.judged_observed.emit (p.finishedEvent c v)
    (o.judged_observed.enter (.ofStatus v.status) hs)
  exact hemit.andThen fun t ht => o.judged_observed.announceFault _ _ ht

theorem cleanUp_ends (hs : o.due s) : (p.cleanUp c s).Ends o.spent E := by
  unfold cleanUp
  split
  · exact Progress.ends_of_session (o.spent_of_due s hs)
  · next commands hc =>
    split
    · next u hu => exact o.fault_of_cleanUp s commands u hs hc hu
    · next e he =>
      have hemit := o.spent_observed.emit (p.teardownEvent c e.verdict)
        (o.spent_of_cleanUp s commands e hs hc he)
      exact hemit.andThen fun t ht => o.spent_observed.announceFault _ _ ht

theorem tearDown_ends (constructed : Bool) (hs : o.due s) :
    (p.tearDown c constructed s).Ends o.spent E := by
  unfold tearDown
  split
  · exact o.cleanUp_ends (o.due_observed.enter .teardown hs)
  · exact Progress.ends_of_session (o.spent_of_due s hs)

theorem conclude_ends (constructed : Bool) (v : Verdict) (hs : o.judged s) :
    (p.conclude c origin constructed v s).Ends o.spent E := by
  unfold conclude
  have hrecord := o.record_ends v hs
  have hdue := hrecord.andThen fun t ht => o.idleBeforeTeardown_ends v.status ht
  have hspent := hdue.andThen fun t ht => o.tearDown_ends constructed ht
  exact hspent.andThen fun t ht => o.spent_observed.announce _ ht

theorem execute_ends (hs : o.begun s) : (p.execute c origin s).Ends o.spent E := by
  unfold execute
  refine (o.begun_observed.announce _ hs).andThen fun t ht => ?_
  have hrunning := o.begun_observed.enter .running ht
  dsimp only
  split
  · next u hu => exact o.fault_of_attempt _ u hrunning hu
  · next e he => exact o.conclude_ends _ _ (o.judged_of_attempt _ e hrunning he)

theorem skip_ends (hs : o.begun s) (hi : p.isIgnored = true) : (p.skip c s).Ends o.spent E := by
  unfold skip
  have hemit := o.begun_observed.emit (p.ignoredEvent c) (o.begun_observed.enter .skipped hs)
  have hbegun := hemit.andThen fun t ht => o.begun_observed.announce (.ignored p.description) ht
  exact hbegun.mono (fun t ht => o.spent_of_begun t ht hi) fun _ _ h => h

/-- What happens while the arguments are overridden. -/
theorem body_ends (hs : o.begun s) : (p.body c origin s).Ends o.finished E := by
  unfold body
  have hspent : (if p.isIgnored then p.skip c s else p.execute c origin s).Ends o.spent E := by
    split
    · next hi => exact o.skip_ends hs hi
    · exact o.execute_ends hs
  exact hspent.andThen fun t ht => o.idleBeforeNext_ends ht

/-- The whole run.  A fault that comes back from the very first event finds the arguments still
overridden; every other one finds them restored. -/
theorem run_ends {Q : Session → Prop} {F : Fault → Session → Prop}
    (o : p.Outline c (c.timeline.clock s.now) E)
    (hopen : ((p.opened s).emit (p.overriddenEvent c)).Ends o.begun F)
    (hQ : ∀ t, o.finished t → Q ((restore s.arguments.save t).enter .done))
    (hF : ∀ f t, E f t → F f (restore s.arguments.save t)) : (p.run c s).Ends Q F := by
  refine hopen.andThen fun t ht => ?_
  have hbody : ((p.body c (c.timeline.clock s.now) t).always (restore s.arguments.save)).Ends
      (fun u => Q (u.enter .done)) F := (o.body_ends ht).always hQ hF
  exact hbody.andThen fun u hu => Progress.ends_of_session hu

end Outline

end Timebox.Plan
