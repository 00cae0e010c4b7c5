import Mathlib.Data.List.Induction
import Timebox.Alarm.Vigil
import Timebox.Proofs.Watching

/-!
# Alarms that callers arm and cancel

Whatever a caller does with alarms, each of them fires once at most and not before it is due, it
does not fire any more once it is cancelled, and cancelling it makes no difference to the
others.  On a clock that never falls back, an alarm that is left alone fires less than one poll
interval after the clock has reached the time it is due, and when it is due if the clock does not
jump meanwhile (`Vigil.start_lawful`).

The firings that a bank still has before it settle all of this.  An act of the caller changes them
in one of four ways (`Vigil.act_firesAt`), and it shows those that come while it lasts
(`Vigil.mem_fired_act`); so an alarm that is armed fires at its instant if the caller sleeps up to
then before cancelling it (`Vigil.mem_fired_run`).
-/

namespace Timebox.Alarm

namespace Bank

/-- Each alarm of a bank is shown once at most. -/
theorem firings_sublist (b : Bank) (tl : Timeline) (last : Nat) (as : List Armed) :
    ((b.firings tl last as).map Firing.token).Sublist (as.map Armed.token) := by
  induction as with
  | nil => exact List.Sublist.refl _
  | cons a as ih =>
    unfold firings
    split
    · exact ih.cons_cons _
    · exact ih.cons _
    · exact ih.cons _

theorem nodup_advance (b : Bank) (tl : Timeline) (last : Nat) :
    ((b.advance tl last).1.map Firing.token).Nodup := by
  have hperm : ((b.advance tl last).1.map Firing.token).Perm
      ((b.firings tl last b.armed).map Firing.token) := (List.mergeSort_perm _ _).map _
  rw [hperm.nodup_iff]
  exact (b.ordered.imp Nat.ne_of_lt).sublist (b.firings_sublist tl last b.armed)

end Bank

namespace Vigil

variable {tl : Timeline} {v w : Vigil} {acts : List Act} {token t : Nat}

/-! ### Single acts -/

@[simp] theorem run_nil : v.run tl [] = v := rfl

@[simp] theorem run_cons (a : Act) : v.run tl (a :: acts) = (v.act tl a).run tl acts := rfl

theorem run_append (first rest : List Act) :
    v.run tl (first ++ rest) = (v.run tl first).run tl rest :=
  List.foldl_append

@[simp] theorem act_poll (a : Act) : (v.act tl a).bank.poll = v.bank.poll := by
  cases a <;> rfl

@[simp] theorem run_poll : (v.run tl acts).bank.poll = v.bank.poll := by
  induction acts generalizing v with
  | nil => rfl
  | cons a acts ih => rw [run_cons, ih, act_poll]

/-- A token that has been given out stays so. -/
theorem next_le_act (a : Act) : v.bank.next ≤ (v.act tl a).bank.next := by
  cases a with
  | arm delay => exact Nat.le_succ _
  | cancel token => exact Nat.le_refl _
  | sleep ms => exact Nat.le_refl _

/-- Nothing fires but while the caller sleeps. -/
theorem mem_fired_act {f : Firing} (a : Act) : f ∈ (v.act tl a).fired ↔ f ∈ v.fired ∨
    ∃ ms, a = .sleep ms ∧ v.bank.FiresAt tl f.token f.instant ∧ f.instant ≤ v.now + ms := by
  cases a with
  | arm delay => simp [act]
  | cancel token => simp [act]
  | sleep ms => simp [act, Bank.mem_advance]

/-- What an act makes of the firings that a bank has before it. -/
theorem act_firesAt (a : Act) : (v.act tl a).bank.FiresAt tl token t ↔
    match a with
    | .arm delay => v.bank.FiresAt tl token t ∨
        token = v.bank.next ∧ FiresAt tl v.bank.poll (tl.clock v.now + delay) v.now t
    | .cancel cancelled => v.bank.FiresAt tl token t ∧ token ≠ cancelled
    | .sleep ms => v.bank.FiresAt tl token t ∧ v.now + ms < t := by
  cases a with
  | arm delay => exact Bank.arm_firesAt
  | cancel cancelled => exact Bank.cancel_firesAt
  | sleep ms => exact Bank.advance_firesAt

/-! ### Alarms that are left alone -/

/-- The caller sleeps up to an instant before cancelling an alarm. -/
def Awaits (tl : Timeline) (v : Vigil) (token t : Nat) (acts : List Act) : Prop :=
  ∃ first ms rest, acts = first ++ .sleep ms :: rest ∧ .cancel token ∉ first ∧
    t ≤ (v.run tl first).now + ms

theorem awaits_cons (a : Act) : v.Awaits tl token t (a :: acts) ↔
    (∃ ms, a = .sleep ms ∧ t ≤ v.now + ms) ∨
      a ≠ .cancel token ∧ (v.act tl a).Awaits tl token t acts := by
  constructor
  · rintro ⟨first, ms, rest, hacts, hcancel, ht⟩
    cases first with
    | nil =>
      obtain ⟨rfl, -⟩ := List.cons.inj hacts
      exact Or.inl ⟨ms, rfl, ht⟩
    | cons b first =>
      obtain ⟨rfl, rfl⟩ := List.cons.inj hacts
      rw [List.mem_cons, not_or] at hcancel
      exact Or.inr ⟨Ne.symm hcancel.1, first, ms, rest, rfl, hcancel.2, ht⟩
  · rintro (⟨ms, rfl, ht⟩ | ⟨hne, first, ms, rest, rfl, hcancel, ht⟩)
    · exact ⟨[], ms, acts, rfl, List.not_mem_nil, ht⟩
    · refine ⟨a :: first, ms, rest, rfl, ?_, ht⟩
      rw [List.mem_cons, not_or]
      exact ⟨Ne.symm hne, hcancel⟩

/-- An alarm that has been armed fires at its instant if the caller sleeps up to then before
cancelling it, and only then. -/
theorem mem_fired_run (htoken : token < v.bank.next) :
    ⟨token, t⟩ ∈ (v.run tl acts).fired ↔
      ⟨token, t⟩ ∈ v.fired ∨ v.bank.FiresAt tl token t ∧ v.Awaits tl token t acts := by
  induction acts generalizing v with
  | nil => simp [Awaits]
  | cons a acts ih =>
    rw [run_cons, ih (Nat.lt_of_lt_of_le htoken (next_le_act a)), mem_fired_act, act_firesAt,
      awaits_cons]
    cases a with
    | arm delay =>
      have hne : token ≠ v.bank.next := Nat.ne_of_lt htoken
      simp [hne]
    | cancel cancelled => simp [and_assoc, ne_comm]
    | sleep ms =>
      -- the alarm fires in this sleep, or it is still watching at its end
      have hcases : t ≤ v.now + ms ∨ v.now + ms < t := by omega
      simp only [Act.sleep.injEq, exists_eq_left', ne_eq, reduceCtorEq, not_false_eq_true,
        true_and]
      tauto

/-! ### What every vigil keeps -/

/-- Alarms that have fired are armed no more, and each of them has fired once. -/
structure Settled (tl : Timeline) (v : Vigil) : Prop where
  nodup : (v.fired.map Firing.token).Nodup
  lt_next : ∀ f ∈ v.fired, f.token < v.bank.next
  gone : ∀ f ∈ v.fired, ∀ t, ¬ v.bank.FiresAt tl f.token t

theorem Settled.act (h : v.Settled tl) (a : Act) : (v.act tl a).Settled tl := by
  cases a with
  | arm delay =>
    refine ⟨h.nodup, fun f hf => Nat.lt_succ_of_lt (h.lt_next f hf), fun f hf t hfires => ?_⟩
    rcases Bank.arm_firesAt.mp hfires with hold | ⟨hnext, -⟩
    · exact h.gone f hf t hold
    · exact Nat.ne_of_lt (h.lt_next f hf) hnext
  | cancel cancelled =>
    exact ⟨h.nodup, h.lt_next, fun f hf t hfires => h.gone f hf t (Bank.cancel_firesAt.mp hfires).1⟩
  | sleep ms =>
    refine ⟨?_, ?_, ?_⟩
    · show ((v.fired ++ (v.bank.advance tl (v.now + ms)).1).map Firing.token).Nodup
      rw [List.map_append, List.nodup_append]
      refine ⟨h.nodup, v.bank.nodup_advance tl _, ?_⟩
      rintro _ hold _ hnew rfl
      obtain ⟨f, hf, rfl⟩ := List.mem_map.mp hold
      obtain ⟨g, hg, htoken⟩ := List.mem_map.mp hnew
      exact h.gone f hf g.instant (htoken ▸ (Bank.mem_advance.mp hg).1)
    · intro f hf
      rcases List.mem_append.mp hf with hold | hnew
      · exact h.lt_next f hold
      · exact (Bank.mem_advance.mp hnew).1.token_lt
    · intro f hf t hfires
      obtain ⟨hfires, hlast⟩ := Bank.advance_firesAt.mp hfires
      rcases List.mem_append.mp hf with hold | hnew
      · exact h.gone f hold t hfires
      · -- an alarm fires at one instant only, and that of this one has passed
        obtain ⟨hfired, hle⟩ := Bank.mem_advance.mp hnew
        have := hfires.unique hfired
        omega

theorem Settled.run (h : v.Settled tl) : (v.run tl acts).Settled tl := by
  induction acts generalizing v with
  | nil => exact h
  | cons a acts ih => exact ih (h.act a)

theorem start_settled (tl : Timeline) (now : Nat) (poll : Int) : (start now poll).Settled tl :=
  ⟨List.nodup_nil, nofun, nofun⟩

/-- An alarm has been armed on the way, and fires at an instant if it is left alone. -/
def Arms (tl : Timeline) (v : Vigil) (acts : List Act) (token t : Nat) : Prop :=
  ∃ before delay after, acts = before ++ .arm delay :: after ∧
    token = (v.run tl before).bank.next ∧
    FiresAt tl v.bank.poll (tl.clock (v.run tl before).now + delay) (v.run tl before).now t

theorem Arms.append (h : v.Arms tl acts token t) (more : List Act) :
    v.Arms tl (acts ++ more) token t := by
  obtain ⟨before, delay, after, rfl, hrest⟩ := h
  exact ⟨before, delay, after ++ more, by simp, hrest⟩

/-- What fires, and what may still fire, has been armed on the way. -/
theorem start_arms (tl : Timeline) (now : Nat) (poll : Int) (acts : List Act) :
    (∀ f ∈ ((start now poll).run tl acts).fired, (start now poll).Arms tl acts f.token f.instant) ∧
      ∀ token t, ((start now poll).run tl acts).bank.FiresAt tl token t →
        (start now poll).Arms tl acts token t := by
  induction acts using List.reverseRecOn with
  | nil => exact ⟨nofun, nofun⟩
  | append_singleton acts a ih =>
    obtain ⟨hfired, hfires⟩ := ih
    rw [run_append]
    constructor
    · intro f hf
      -- what goes off now has been waiting, and what waits has been armed
      rcases (mem_fired_act a).mp hf with hold | ⟨_, -, hnew, -⟩
      · exact (hfired f hold).append [a]
      · exact (hfires f.token f.instant hnew).append [a]
    · intro token t ht
      have ht := (act_firesAt a).mp ht
      cases a with
      | arm delay =>
        rcases ht with hold | ⟨rfl, hnew⟩
        · exact (hfires token t hold).append _
        · exact ⟨acts, delay, [], rfl, rfl, run_poll ▸ hnew⟩
      | cancel cancelled => exact (hfires token t ht.1).append _
      | sleep ms => exact (hfires token t ht.1).append _

/-! ### Alarms that do not know of each other -/

/-- Two vigils differ in one alarm at most. -/
structure Apart (tl : Timeline) (token : Nat) (v w : Vigil) : Prop where
  now : v.now = w.now
  poll : v.bank.poll = w.bank.poll
  next : v.bank.next = w.bank.next
  fired : ∀ f : Firing, f.token ≠ token → (f ∈ v.fired ↔ f ∈ w.fired)
  firesAt : ∀ other t, other ≠ token →
    (v.bank.FiresAt tl other t ↔ w.bank.FiresAt tl other t)

theorem Apart.act (h : Apart tl token v w) (a : Act) :
    Apart tl token (v.act tl a) (w.act tl a) where
  now := by
    cases a with
    | sleep ms => exact congrArg (· + ms) h.now
    | _ => exact h.now
  poll := by rw [act_poll, act_poll, h.poll]
  next := by
    cases a with
    | arm delay => exact congrArg (· + 1) h.next
    | _ => exact h.next
  fired f hf := by
    rw [mem_fired_act, mem_fired_act, h.fired f hf, h.firesAt f.token f.instant hf, h.now]
  firesAt other t hother := by
    rw [act_firesAt, act_firesAt, h.firesAt other t hother, h.now, h.poll, h.next]

theorem Apart.run (h : Apart tl token v w) : Apart tl token (v.run tl acts) (w.run tl acts) := by
  induction acts generalizing v w with
  | nil => exact h
  | cons a acts ih => exact ih (h.act a)

/-- Cancelling an alarm changes nothing about the others. -/
theorem apart_cancel (tl : Timeline) (v : Vigil) (token : Nat) :
    Apart tl token (v.act tl (.cancel token)) v where
  now := rfl
  poll := rfl
  next := rfl
  fired _ _ := Iff.rfl
  firesAt other t hother := by
    rw [act_firesAt]
    exact and_iff_left hother

/-! ### The law of alarms -/

/-- What comes of alarms, whatever a caller does with them from some vigil on. -/
structure Lawful (tl : Timeline) (v : Vigil) : Prop where
  once : ∀ acts, ((v.run tl acts).fired.map Firing.token).Nodup
  /-- An alarm fires at an instant at which the clock has gained its delay. -/
  due : ∀ acts, ∀ f ∈ (v.run tl acts).fired, ∃ before delay after,
    acts = before ++ .arm delay :: after ∧ f.token = (v.run tl before).bank.next ∧
      (v.run tl before).now ≤ f.instant ∧
      tl.clock (v.run tl before).now + delay ≤ tl.clock f.instant
  /-- An alarm that has been armed does not fire any more once it is cancelled. -/
  cancelled : ∀ before token after, token < (v.run tl before).bank.next →
    ∀ f ∈ (v.run tl (before ++ .cancel token :: after)).fired, f.token = token →
      f ∈ (v.run tl before).fired
  /-- Cancelling it makes no difference to the others. -/
  apart : ∀ before token after (f : Firing), f.token ≠ token →
    (f ∈ (v.run tl (before ++ .cancel token :: after)).fired ↔
      f ∈ (v.run tl (before ++ after)).fired)
  /-- If the clock never falls back, and the poll interval or the delay can be waited for, there is
  an instant for each alarm at which it fires if it is not cancelled: once the caller sleeps up to
  it, and less than one poll interval after the clock has reached the time it is due. -/
  timely : tl.Forward → ∀ before delay,
    isMeasurable (pause delay v.bank.poll) = true →
    ∃ t u, Reaches tl (tl.clock (v.run tl before).now + delay) (v.run tl before).now t ∧
      t ≤ u ∧ u < t + v.bank.poll ∧
      ((∀ j ∈ tl.jumps, j.instant ≤ (v.run tl before).now ∨
          (v.run tl before).now + delay.toNat < j.instant) →
        u = (v.run tl before).now + delay.toNat) ∧
      ∀ after, .cancel (v.run tl before).bank.next ∉ after →
        (⟨(v.run tl before).bank.next, u⟩ ∈ (v.run tl (before ++ .arm delay :: after)).fired ↔
          ∃ first ms rest, after = first ++ .sleep ms :: rest ∧
            u ≤ (v.run tl (before ++ .arm delay :: first)).now + ms)
  /-- If neither can be waited for, the alarm never fires. -/
  lost : ∀ before delay, isMeasurable (pause delay v.bank.poll) = false →
    ∀ after, ∀ f ∈ (v.run tl (before ++ .arm delay :: after)).fired,
      f.token ≠ (v.run tl before).bank.next

/-- When the alarm that an act has armed fires. -/
theorem Settled.mem_fired_arm (h : v.Settled tl) (delay : Int) :
    ⟨v.bank.next, t⟩ ∈ (v.run tl (.arm delay :: acts)).fired ↔
      FiresAt tl v.bank.poll (tl.clock v.now + delay) v.now t ∧
        (v.act tl (.arm delay)).Awaits tl v.bank.next t acts := by
  have hnew : ¬ ⟨v.bank.next, t⟩ ∈ (v.act tl (.arm delay)).fired := fun hmem =>
    Nat.lt_irrefl _ (h.lt_next _ hmem)
  have hfires : (v.act tl (.arm delay)).bank.FiresAt tl v.bank.next t ↔
      FiresAt tl v.bank.poll (tl.clock v.now + delay) v.now t := Bank.arm_firesAt_next
  rw [run_cons, mem_fired_run (Nat.lt_succ_self v.bank.next), hfires]
  exact or_iff_right hnew

/-- **Every alarm keeps to its time, and to what the caller does with it.** -/
theorem start_lawful (tl : Timeline) (now : Nat) (poll : Int) : (start now poll).Lawful tl := by
  have hsettled : ∀ acts, ((start now poll).run tl acts).Settled tl := fun acts =>
    (start_settled tl now poll).run
  refine ⟨fun acts => (hsettled acts).nodup, ?_, ?_, ?_, ?_, ?_⟩
  · -- what fires has been armed on the way
    intro acts f hf
    obtain ⟨before, delay, after, hacts, htoken, hfires⟩ :=
      (start_arms tl now poll acts).1 f hf
    exact ⟨before, delay, after, hacts, htoken, hfires.look_le, hfires.due_le⟩
  · -- after the cancellation, the caller does not wait for the alarm any more
    rintro before token after htoken ⟨_, t⟩ hf rfl
    rw [run_append, mem_fired_run htoken, awaits_cons] at hf
    rcases hf with hold | ⟨-, ⟨ms, hact, -⟩ | ⟨hne, -⟩⟩
    · exact hold
    · cases hact
    · exact absurd rfl hne
  · intro before token after f hf
    rw [run_append, run_append, run_cons]
    exact (apart_cancel tl _ token).run.fired f hf
  · -- the instant is settled by the clock, and the caller has to sleep up to it
    intro hforward before delay hm
    have hbefore := hsettled before
    generalize hv : (start now poll).run tl before = v at hbefore ⊢
    have hpoll : v.bank.poll = (start now poll).bank.poll := hv ▸ run_poll
    rw [← hpoll] at hm ⊢
    have hdelay : tl.clock v.now + delay - tl.clock v.now = delay := by omega
    obtain ⟨t, ht⟩ := exists_reaches hforward (tl.clock v.now + delay) v.now
    obtain ⟨u, hu, hle, hlt⟩ :=
      ht.exists_firesAt hforward v.bank.poll_pos (by rw [hdelay]; exact hm)
    refine ⟨t, u, ht, hle, hlt, fun hj => ?_, fun after hcancel => ?_⟩
    · exact hu.unique (armed_firesAt_of_not_jumping v.bank.poll_pos hj hm)
    · rw [run_append, hv, hbefore.mem_fired_arm]
      constructor
      · rintro ⟨-, first, ms, rest, hafter, -, hslept⟩
        refine ⟨first, ms, rest, hafter, ?_⟩
        rw [run_append, hv]
        exact hslept
      · rintro ⟨first, ms, rest, rfl, hslept⟩
        rw [run_append, hv] at hslept
        exact ⟨hu, first, ms, rest, rfl, fun hmem => hcancel (List.mem_append_left _ hmem), hslept⟩
  · rintro before delay hm after ⟨_, t⟩ hf rfl
    rw [run_append, (hsettled before).mem_fired_arm, run_poll] at hf
    exact not_armed_firesAt hm hf.1

/-- When the host is suspended for a while, an alarm fires less than one poll interval after it
would have been due on waking up; and one that is cancelled before the caller sleeps does not fire,
although it was due at once. -/
theorem start_lawful_of_jump :
    (∃ u, 70 ≤ u ∧ u < 120 ∧
      ⟨0, u⟩ ∈ ((start 0 50).run { jumps := [⟨20, 30⟩] } [.arm 100, .sleep 99, .sleep 21]).fired) ∧
    ∀ f ∈ ((start 0 50).run { jumps := [⟨20, 30⟩] } [.arm (-5), .cancel 0, .sleep 10]).fired,
      f.token ≠ 0 := by
  have hlawful := start_lawful { jumps := [⟨20, 30⟩] } 0 50
  constructor
  · have hforward : Timeline.Forward { jumps := [⟨20, 30⟩] } := by
      intro j hj
      obtain rfl := List.mem_singleton.mp hj
      decide
    obtain ⟨t, u, ht, htu, hut, -, hfires⟩ :=
      hlawful.timely hforward [] 100 (by decide +kernel)
    have hdue : (100 : Int) ≤ t + (if (20 : Int) ≤ t then 30 + 0 else 0) := ht.due_le
    -- due when the clock shows 100, which the jump brings forward from 100 to 70
    have hreached : ¬ 70 < t := fun hlt => absurd (ht.before 70 (Nat.zero_le _) hlt) (by decide)
    have hu : u < 120 := Nat.lt_of_lt_of_le hut (by
      show t + 50 ≤ 120
      omega)
    refine ⟨u, ?_, hu, (hfires [.sleep 99, .sleep 21] (by simp)).mpr ?_⟩
    · split at hdue <;> omega
    · exact ⟨[.sleep 99], 21, [], rfl, Nat.le_of_lt hu⟩
  · intro f hf htoken
    have hold := hlawful.cancelled [.arm (-5)] 0 [.sleep 10] (by decide) f hf htoken
    exact absurd hold List.not_mem_nil

/-- An alarm that would have to pause for too long does not fire, however long the caller sleeps:
not every alarm fires when it is due on a clock that does not jump. -/
theorem not_forall_fires_when_due : ¬ ∀ (poll : Int) (delay first second : Nat),
    delay ≤ first + second → ⟨0, delay⟩ ∈
      ((start 0 poll).run .steady [.arm delay, .sleep first, .sleep second]).fired := by
  intro h
  have hfired := h (Nat.pow 2 1024 : Nat) (Nat.pow 2 1024) (Nat.pow 2 1023) (Nat.pow 2 1023)
    (by decide +kernel)
  have hfires := ((start_settled .steady 0 (Nat.pow 2 1024 : Nat)).mem_fired_arm
    (Nat.pow 2 1024 : Nat)).mp hfired
  exact not_armed_firesAt (by decide +kernel) hfires.1

end Vigil

end Timebox.Alarm
