import Timebox.Proofs.Progress
import Timebox.Proofs.Watching

/-!
# How long waits last

A wait lasts at most as long as asked for (`Waiter.wait_between`).  It is not over before the clock
has gained that much, provided its alarm is punctual and the clock never falls back
(`Waiter.le_clock_wait`): an alarm does not fire before it is due (`Alarm.FiresAt.due_le`), and a
block without alarm lasts to its end.

For the idler of a session both become statements about `Session.await`: `await_prompt` and
`await_punctual`.  The faults with which it may end are the idler's own, and that of a duration that
is too long (`await_raises`).
-/

namespace Timebox

theorem Timeline.clock_of_eq_steady {tl : Timeline} (h : tl = .steady) (t : Nat) :
    tl.clock t = t := by
  rw [h, clock_steady]

theorem Timeline.forward_of_eq_steady {tl : Timeline} (h : tl = .steady) : tl.Forward := by
  rw [h]
  exact fun _ hj => absurd hj List.not_mem_nil

/-! ### Alarms -/

/-- In a bank that has just armed an alarm, the new token finds the new alarm. -/
theorem Alarm.Bank.arm_firesBy? {b : Bank} {tl : Timeline} {now last t : Nat} {delay : Int}
    (h : (b.arm tl now delay).1.firesBy? tl (b.arm tl now delay).2 last = some t) :
    now ≤ t ∧ t ≤ last ∧ tl.clock now + delay ≤ tl.clock t := by
  obtain ⟨hfires, hlast⟩ := firesBy?_eq_some_iff.mp h
  have hnew := arm_firesAt_next.mp hfires
  exact ⟨hnew.look_le, hlast, hnew.due_le⟩

/-- The alarm never fires before it is due. -/
def AlarmClock.Punctual (alarm : AlarmClock) : Prop :=
  alarm ≠ .immediate

/-! ### Waiters -/

namespace Waiter

variable (tl : Timeline) (alarm : AlarmClock) (now : Nat) (duration : Int) (limit : Option Int)

/-- Blocking with a newly armed alarm ends within the block, and if it was the alarm that ended it
the clock has gained the delay. -/
theorem blockUntil_arm (bank : Alarm.Bank) (last : Nat) (h : now ≤ last) :
    let stop := blockUntil tl (bank.arm tl now duration).1 (bank.arm tl now duration).2 last
    now ≤ stop.2 ∧ stop.2 ≤ last ∧ (stop.2 = last ∨ tl.clock now + duration ≤ tl.clock stop.2) := by
  unfold blockUntil
  dsimp only
  split
  · next t ht =>
    obtain ⟨hnow, hlast, hclock⟩ := Alarm.Bank.arm_firesBy? ht
    exact ⟨hnow, hlast, Or.inr hclock⟩
  · exact ⟨h, Nat.le_refl _, Or.inl rfl⟩

/-- A wait ends within its block. -/
theorem wait_between : now ≤ (wait tl alarm now duration limit).now ∧
    (wait tl alarm now duration limit).now ≤ now + blockLength duration limit := by
  unfold wait
  split
  · exact ⟨Nat.le_refl _, Nat.le_add_right _ _⟩
  · split
    · exact ⟨Nat.le_refl _, Nat.le_add_right _ _⟩
    · cases alarm with
      | polling bank =>
        obtain ⟨hnow, hlast, -⟩ :=
          blockUntil_arm tl now duration bank (now + blockLength duration limit) (by omega)
        exact ⟨hnow, hlast⟩
      | silent => exact ⟨Nat.le_add_right _ _, Nat.le_refl _⟩
      | immediate => exact ⟨Nat.le_refl _, Nat.le_add_right _ _⟩

/-- Either a wait ends without a fault, or its block is too long to be waited for. -/
theorem wait_fault : (wait tl alarm now duration limit).fault = none ∨
    (wait tl alarm now duration limit).fault = some .immeasurable ∧
      isMeasurable (blockLength duration limit) = false := by
  unfold wait
  split
  · exact Or.inl rfl
  · split
    · next hm => exact Or.inr ⟨rfl, by simpa using hm⟩
    · cases alarm <;> exact Or.inl rfl

/-- A punctual alarm stays punctual. -/
theorem wait_punctual {alarm : AlarmClock} (h : alarm.Punctual) :
    (wait tl alarm now duration limit).alarm.Punctual := by
  unfold wait
  split
  · exact h
  · split
    · cases alarm with
      | immediate => exact h
      | _ => nofun
    · cases alarm with
      | immediate => exact h
      | _ => nofun

/-- With a punctual alarm, and a clock that never falls back, a wait without limit is not over
before the clock has gained the duration. -/
theorem le_clock_wait {tl : Timeline} (hf : tl.Forward) {alarm : AlarmClock} (ha : alarm.Punctual)
    (h : (wait tl alarm now duration none).fault = none) :
    tl.clock now + duration ≤ tl.clock (wait tl alarm now duration none).now := by
  have hblock : tl.clock now + duration ≤ tl.clock (now + duration.toNat) := by
    have := tl.le_clock_sub_clock hf (Nat.le_add_right now duration.toNat)
    omega
  unfold wait at h ⊢
  by_cases hd : duration ≤ 0
  · -- the wait is over at once, and there is nothing to gain
    rw [if_pos hd]
    show tl.clock now + duration ≤ tl.clock now
    omega
  · simp only [hd, if_false] at h ⊢
    split at h
    · cases h
    · next hm =>
      rw [if_neg hm]
      cases alarm with
      | silent => exact hblock
      | immediate => exact absurd rfl ha
      | polling bank =>
        -- the block has lasted to its end, or the alarm has gone off and was due
        obtain ⟨-, -, hstop | hstop⟩ :=
          blockUntil_arm tl now duration bank (now + blockLength duration none) (by omega)
        · show tl.clock now + duration ≤ tl.clock (blockUntil _ _ _ _).2
          rw [hstop]
          exact hblock
        · exact hstop

end Waiter

/-! ### Idlers -/

namespace Idler

/-- The idler never idles longer than it is asked to. -/
def Prompt : Idler → Prop
  | .waiter _ => True
  | .other answer _ =>
    ∀ asked duration ms, answer asked duration = .exactly ms → ms.toNat ≤ duration.toNat

/-- The idler is a waiter with a punctual alarm. -/
def Punctual : Idler → Prop
  | .waiter alarm => alarm.Punctual
  | .other .. => False

/-- The idler may raise the fault, as one of its own. -/
def Raises : Idler → Fault → Prop
  | .waiter _, _ => False
  | .other answer _, f => ∃ asked duration, answer asked duration = .failing f

theorem Punctual.prompt {i : Idler} (h : i.Punctual) : i.Prompt := by
  cases i with
  | waiter _ => trivial
  | other _ _ => exact h.elim

theorem Punctual.not_raises {i : Idler} (h : i.Punctual) (f : Fault) : ¬ i.Raises f := by
  cases i with
  | waiter _ => exact id
  | other _ _ => exact h.elim

end Idler

namespace Session

variable (tl : Timeline) (duration : Int)

theorem await_waiter {s : Session} {alarm : AlarmClock} (h : s.idler = .waiter alarm) :
    s.await tl duration =
      { session := { s with
          now := (Waiter.wait tl alarm s.now duration none).now
          idler := .waiter (Waiter.wait tl alarm s.now duration none).alarm
          requests := s.requests ++ [duration] }
        fault := (Waiter.wait tl alarm s.now duration none).fault } := by
  simp only [await, h]

theorem await_other {s : Session} {answer : Nat → Int → Pause} {asked : Nat}
    (h : s.idler = .other answer asked) :
    s.await tl duration =
      { s with requests := s.requests ++ [duration], idler := .other answer (asked + 1) }.pause
        duration (answer asked duration) := by
  simp only [await, h]

/-- Idling leaves everything alone but the time, the idler and the record of requests. -/
theorem await_frame (s : Session) : (s.await tl duration).session.panel = s.panel ∧
    (s.await tl duration).session.outlet = s.outlet ∧
    (s.await tl duration).session.arguments = s.arguments ∧
    (s.await tl duration).session.log = s.log := by
  cases hi : s.idler with
  | waiter alarm =>
    rw [await_waiter tl duration hi]
    exact ⟨rfl, rfl, rfl, rfl⟩
  | other answer asked =>
    rw [await_other tl duration hi]
    cases answer asked duration <;> exact ⟨rfl, rfl, rfl, rfl⟩

theorem stage_await (s : Session) : (s.await tl duration).session.stage = s.stage := by
  cases hi : s.idler with
  | waiter alarm =>
    rw [await_waiter tl duration hi]
  | other answer asked =>
    rw [await_other tl duration hi]
    cases answer asked duration <;> rfl

theorem le_await_now (s : Session) : s.now ≤ (s.await tl duration).session.now := by
  cases hi : s.idler with
  | waiter alarm =>
    rw [await_waiter tl duration hi]
    exact (Waiter.wait_between tl alarm s.now duration none).1
  | other answer asked =>
    rw [await_other tl duration hi]
    cases answer asked duration with
    | requested => exact Nat.le_add_right _ _
    | exactly ms => exact Nat.le_add_right _ _
    | failing f => exact Nat.le_refl _

/-- A prompt idler is done within the duration, and stays prompt. -/
theorem await_prompt {s : Session} (h : s.idler.Prompt) :
    (s.await tl duration).session.now ≤ s.now + duration.toNat ∧
      (s.await tl duration).session.idler.Prompt := by
  cases hi : s.idler with
  | waiter alarm =>
    rw [await_waiter tl duration hi]
    exact ⟨(Waiter.wait_between tl alarm s.now duration none).2, trivial⟩
  | other answer asked =>
    rw [await_other tl duration hi]
    rw [hi] at h
    cases ha : answer asked duration with
    | requested => exact ⟨Nat.le_refl _, h⟩
    | exactly ms =>
      refine ⟨?_, h⟩
      show s.now + ms.toNat ≤ s.now + duration.toNat
      have := h asked duration ms ha
      omega
    | failing f => exact ⟨Nat.le_add_right _ _, h⟩

/-- A punctual idler stays punctual, and unless a fault ends the wait, it is not over before the
clock has gained the duration. -/
theorem await_punctual {s : Session} {tl : Timeline} (hf : tl.Forward) (h : s.idler.Punctual) :
    (s.await tl duration).session.idler.Punctual ∧
      ((s.await tl duration).fault = none →
        tl.clock s.now + duration ≤ tl.clock (s.await tl duration).session.now) := by
  cases hi : s.idler with
  | waiter alarm =>
    rw [await_waiter tl duration hi]
    rw [hi] at h
    exact ⟨Waiter.wait_punctual tl s.now duration none h,
      Waiter.le_clock_wait s.now duration hf h⟩
  | other answer asked =>
    rw [hi] at h
    exact h.elim

/-- An idler raises its own faults, and besides at most the fault of a duration that is too long.
It does not take to raising others. -/
theorem await_raises (s : Session) :
    (∀ f, (s.await tl duration).session.idler.Raises f → s.idler.Raises f) ∧
      ∀ f, (s.await tl duration).fault = some f → s.idler.Raises f ∨
        f = .immeasurable ∧ isMeasurable duration.toNat = false := by
  cases hi : s.idler with
  | waiter alarm =>
    rw [await_waiter tl duration hi]
    refine ⟨fun f hf => hf, fun f hf => Or.inr ?_⟩
    -- all that a waiter may raise is the fault of a wait that is too long
    rcases Waiter.wait_fault tl alarm s.now duration none with hnone | ⟨hsome, hlong⟩
    · cases hnone.symm.trans hf
    · exact ⟨Option.some.inj (hf.symm.trans hsome), hlong⟩
  | other answer asked =>
    rw [await_other tl duration hi]
    cases ha : answer asked duration with
    | requested => exact ⟨fun f hf => hf, nofun⟩
    | exactly ms => exact ⟨fun f hf => hf, nofun⟩
    | failing f =>
      refine ⟨fun g hg => hg, fun g hg => Or.inl ?_⟩
      cases hg
      exact ⟨asked, duration, ha⟩

end Session

end Timebox
