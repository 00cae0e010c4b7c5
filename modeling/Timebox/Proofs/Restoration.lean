import Timebox.Proofs.Release

/-!
# Whether the arguments are put back

A run overrides the arguments, reports that it has done so, and from then on puts them back however
it ends: whatever its listeners, its sinks and its idler raise, and whatever its journey has done to
the arguments (`Plan.run_arguments`).  The report itself is not covered.  If a fault that is not
ordinary comes back from it, the run ends with the arguments still overridden.
-/

namespace Timebox

/-- A sink that asks for an exit instead of taking its first event. -/
def Telemetry.Sink.exiting : Sink :=
  { channel := .discard
    fault := fun emitted _ => if emitted = 0 then some (.general .exitRequest none) else none }

namespace Plan

variable {p : Plan} {c : Conditions} {s : Session}

/-- While the arguments are overridden, a run takes care that they are put back. -/
theorem arguments_always_restore (q : Progress) (a : Arguments) :
    (q.always (restore a.save)).session.arguments = a := rfl

/-- A run puts the arguments back, however it ends, unless a fault comes back from the very first
event; then they stay overridden. -/
theorem run_arguments (p : Plan) (c : Conditions) (s : Session) :
    (Fault.escaping (s.outlet.emit (p.overriddenEvent c)).2 = none →
      (p.run c s).session.arguments = s.arguments) ∧
    ∀ f, Fault.escaping (s.outlet.emit (p.overriddenEvent c)).2 = some f →
      (p.run c s).fault = some f ∧
        (p.run c s).session.arguments = s.arguments.overlay p.scenario.pairs := by
  -- overriding the arguments has not changed the sinks
  have hemit : ((p.opened s).emit (p.overriddenEvent c)).fault =
      Fault.escaping (s.outlet.emit (p.overriddenEvent c)).2 := rfl
  refine ⟨fun hnone => ?_, fun f hf => ?_⟩
  · have hopening : ((p.opened s).emit (p.overriddenEvent c)).Ends (fun _ => True)
        fun _ t => t.arguments = s.arguments := by
      unfold Progress.Ends
      rw [hemit, hnone]
      trivial
    have hrun : (p.run c s).Ends (fun t => t.arguments = s.arguments)
        fun _ t => t.arguments = s.arguments := by
      unfold run
      refine hopening.andThen fun t _ => ?_
      have hrestored : ((p.body c (c.timeline.clock s.now) t).always
          (restore s.arguments.save)).Ends (fun u => u.arguments = s.arguments)
            fun _ u => u.arguments = s.arguments :=
        (Progress.ends_iff_session (Q := fun u => u.arguments = s.arguments)).mpr
          (arguments_always_restore _ _)
      exact hrestored.andThen fun u hu => Progress.ends_of_session hu
    exact hrun.session
  · have hrun : p.run c s = (p.opened s).emit (p.overriddenEvent c) := by
      unfold run
      exact Progress.andThen_of_fault (hemit.trans hf) _
    rw [hrun]
    exact ⟨hemit.trans hf, rfl⟩

/-- An exception of a collaborator may leave the arguments overridden: it comes with the report that
they are. -/
theorem not_forall_run_arguments : ¬ ∀ (p : Plan) (c : Conditions) (s : Session) (f : Fault),
    (p.run c s).fault = some f → (p.run c s).session.arguments = s.arguments := by
  intro h
  let p : Plan := { fiveSeconds [] [] with scenario := { extras := [⟨"k", "w"⟩] } }
  let s : Session :=
    { Session.unobserved (.ofPairs [("k", "v")]) (.waiter .silent) with outlet := .single .exiting }
  have hfault : (p.run (.steady 1000) s).fault = some (.general .exitRequest none) := rfl
  have harguments := h p (.steady 1000) s _ hfault
  -- the override has taken place, and nothing has put the arguments back
  have hoverridden : (p.run (.steady 1000) s).session.arguments.get? "k" = some "w" := by
    decide +kernel
  have hbefore : s.arguments.get? "k" = some "v" := by
    decide +kernel
  rw [harguments, hbefore] at hoverridden
  exact absurd hoverridden (by decide)

end Plan

end Timebox
