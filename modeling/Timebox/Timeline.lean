/-!
# Timelines

Time is measured in milliseconds in two ways. The *instant* counts steadily from the start; waits
and deadlines of bodies last in instants. The *clock* is what the host shows: it goes with the
instant and jumps now and then, forward when the host was suspended and backward when it was set
back. Alarms and elapsed times are measured on the clock.

Main statements: without jumps the clock is the instant (`clock_steady`), with forward jumps only it
never falls behind (`le_clock_sub_clock`), and while it does not jump it gains just the time that
passes (`clock_sub_clock`).
-/

namespace Timebox

/-- From an instant on, the clock shows some milliseconds more, or less if negative. -/
structure Jump where
  instant : Int
  delta : Int
  deriving DecidableEq, Repr

/-- The jumps of the clock. -/
structure Timeline where
  jumps : List Jump := []
  deriving DecidableEq, Repr

namespace Timeline

/-- How far the clock is off at an instant: the sum of the jumps up to and including it. -/
def offset (t : Nat) : List Jump → Int
  | [] => 0
  | j :: js => if j.instant ≤ t then j.delta + offset t js else offset t js

/-- What the clock shows at an instant. -/
def clock (tl : Timeline) (t : Nat) : Int :=
  t + offset t tl.jumps

/-- The timeline whose clock never jumps. -/
def steady : Timeline := { jumps := [] }

/-- No jump is backward. -/
def Forward (tl : Timeline) : Prop :=
  ∀ j ∈ tl.jumps, 0 ≤ j.delta

/-- Without jumps the clock shows the instant. -/
@[simp] theorem clock_steady (t : Nat) : steady.clock t = t := by
  simp [clock, steady, offset]

/-- With forward jumps only, the offset grows. -/
theorem offset_le_offset (js : List Jump) (h : ∀ j ∈ js, 0 ≤ j.delta) {s t : Nat} (hst : s ≤ t) :
    offset s js ≤ offset t js := by
  induction js with
  | nil => simp [offset]
  | cons j js ih =>
    have ih := ih fun k hk => h k (List.mem_cons_of_mem j hk)
    have hj := h j List.mem_cons_self
    simp only [offset]
    split <;> split <;> omega

/-- With forward jumps only, the clock gains at least the time that passes. -/
theorem le_clock_sub_clock (tl : Timeline) (h : tl.Forward) {s t : Nat} (hst : s ≤ t) :
    (t : Int) - s ≤ tl.clock t - tl.clock s := by
  have := offset_le_offset tl.jumps h hst
  simp only [clock]
  omega

/-- Jumps that come after neither or both of two instants put the clock off equally at both. -/
theorem offset_eq_offset (js : List Jump) {s t : Nat} (hst : s ≤ t)
    (h : ∀ j ∈ js, j.instant ≤ s ∨ t < j.instant) : offset t js = offset s js := by
  induction js with
  | nil => rfl
  | cons j js ih =>
    have ih := ih fun k hk => h k (List.mem_cons_of_mem j hk)
    have hj := h j List.mem_cons_self
    simp only [offset, ih]
    split <;> split <;> omega

/-- If the clock does not jump meanwhile, it gains the time that passes. -/
theorem clock_sub_clock (tl : Timeline) {s t : Nat} (hst : s ≤ t)
    (h : ∀ j ∈ tl.jumps, j.instant ≤ s ∨ t < j.instant) :
    tl.clock t - tl.clock s = (t : Int) - s := by
  have := offset_eq_offset tl.jumps hst h
  simp only [clock]
  omega

end Timeline

end Timebox
