import Timebox.Run.Session

/-!
# How progress ends

`p.Ends Q E` says of a progress `p` that its session satisfies `Q` if it ended without a fault, and
that its fault and its session satisfy `E` otherwise.  Two rules follow the two ways in which runs
are put together: a first thing and what comes after it (`Ends.andThen`), and something that is done
always (`Ends.always`).  A third one weakens the conclusion (`Ends.mono`).

If `E` is `Q` again it does not matter whether there is a fault (`ends_iff_session`); with `E` true
only what happens without one counts (`ends_of_imp`).
-/

namespace Timebox.Progress

variable {p : Progress} {Q R : Session → Prop} {E F : Fault → Session → Prop}

/-- The progress ends without a fault in a session of `Q`, or with a fault and a session of `E`. -/
def Ends (p : Progress) (Q : Session → Prop) (E : Fault → Session → Prop) : Prop :=
  match p.fault with
  | none => Q p.session
  | some f => E f p.session

/-- Progress without a fault ends as its session says. -/
theorem ends_of_session {s : Session} (h : Q s) : ({ session := s } : Progress).Ends Q E := h

theorem Ends.of_fault_eq_none (h : p.Ends Q E) (hp : p.fault = none) : Q p.session := by
  unfold Ends at h
  rw [hp] at h
  exact h

theorem Ends.of_fault_eq_some {f : Fault} (h : p.Ends Q E) (hp : p.fault = some f) :
    E f p.session := by
  unfold Ends at h
  rw [hp] at h
  exact h

/-- What holds of the session whichever way the progress ends. -/
theorem Ends.session (h : p.Ends Q fun _ => Q) : Q p.session := by
  cases hp : p.fault with
  | none => exact h.of_fault_eq_none hp
  | some f => exact h.of_fault_eq_some hp

/-- What holds of the session does not depend on a fault. -/
theorem ends_iff_session : p.Ends Q (fun _ => Q) ↔ Q p.session := by
  refine ⟨Ends.session, fun h => ?_⟩
  unfold Ends
  split
  · exact h
  · exact h

/-- Only what happens without a fault counts. -/
theorem ends_of_imp (h : p.fault = none → Q p.session) : p.Ends Q fun _ _ => True := by
  unfold Ends
  split
  · next hp => exact h hp
  · trivial

theorem Ends.mono (h : p.Ends Q E) (hQ : ∀ s, Q s → R s) (hE : ∀ f s, E f s → F f s) :
    p.Ends R F := by
  unfold Ends at *
  split at h
  · exact hQ _ h
  · exact hE _ _ h

/-- The rule of sequence: what the first part establishes is what the second part may assume. -/
theorem Ends.andThen {next : Session → Progress} (h : p.Ends Q E)
    (hn : ∀ s, Q s → (next s).Ends R E) : (p.andThen next).Ends R E := by
  unfold Progress.andThen
  split
  · next hp => exact hn _ (h.of_fault_eq_none hp)
  · next f hp =>
    -- nothing comes after a fault, and what the first part ends with stands
    unfold Ends
    rw [hp]
    exact h.of_fault_eq_some hp

theorem andThen_of_none (h : p.fault = none) (next : Session → Progress) :
    p.andThen next = next p.session := by
  unfold Progress.andThen
  rw [h]

/-- Nothing comes after a fault. -/
theorem andThen_of_fault {f : Fault} (h : p.fault = some f) (next : Session → Progress) :
    p.andThen next = p := by
  unfold Progress.andThen
  rw [h]

/-- What comes next matters only at the session that has been reached. -/
theorem andThen_congr {next next' : Session → Progress} (h : next p.session = next' p.session) :
    p.andThen next = p.andThen next' := by
  unfold Progress.andThen
  split
  · exact h
  · rfl

/-- What is done always is done on either ending. -/
theorem Ends.always {last : Session → Session} (h : p.Ends Q E) (hQ : ∀ s, Q s → R (last s))
    (hE : ∀ f s, E f s → F f (last s)) : (p.always last).Ends R F := by
  unfold Progress.always
  unfold Ends at *
  split at h
  · next hp => rw [hp]; exact hQ _ h
  · next f hp => rw [hp]; exact hE _ _ h

end Timebox.Progress
