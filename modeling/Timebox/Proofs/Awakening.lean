import Timebox.Proofs.Watching
import Timebox.Waiter

/-!
# What wakes a waiter

A wait ends when the alarm that it has armed fires, or at the end of its block, whichever comes
first (`Waiter.wait_answers`).  The alarm may look at the clock late, but which of the two comes
first is settled when the wait begins: it is the delay after which the alarm would fire if it were
left alone (`AlarmClock.FiresAfter`).

A wait leaves its alarm as it has found it, apart from the token that it has used up
(`AlarmClock.Spent`), and when an alarm fires does not depend on the tokens that have been used up
before.  So a waiter that is asked again and again answers each time what it would have answered if
it had never been asked before (`Waiter.waits_served`).
-/

namespace Timebox

namespace AlarmClock

variable {tl : Timeline} {alarm left : AlarmClock} {now f : Nat} {delay : Int}

/-- Armed for a delay at an instant and left alone, the alarm fires some milliseconds later. -/
def FiresAfter (tl : Timeline) (now : Nat) (delay : Int) (f : Nat) : AlarmClock → Prop
  | .polling bank => ∃ last, { token := (bank.arm tl now delay).2, instant := now + f } ∈
      ((bank.arm tl now delay).1.advance tl last).1
  | .silent => False
  | .immediate => f = 0

/-- What is left of an alarm that has been armed and cancelled: one more token has been used up, and
the alarms that were armed before are still armed. -/
inductive Spent : AlarmClock → AlarmClock → Prop
  | polling {bank bank' : Alarm.Bank} (hpoll : bank'.poll = bank.poll)
    (harmed : bank'.armed = bank.armed) (hnext : bank'.next = bank.next + 1) :
    Spent (.polling bank) (.polling bank')
  | silent : Spent .silent .silent
  | immediate : Spent .immediate .immediate

/-- The alarms work in the same way, with the same poll interval. -/
def Alike : AlarmClock → AlarmClock → Prop
  | .polling bank, .polling bank' => bank.poll = bank'.poll
  | .silent, .silent => True
  | .immediate, .immediate => True
  | _, _ => False

theorem alike_refl (alarm : AlarmClock) : alarm.Alike alarm := by
  cases alarm with
  | polling bank => exact rfl
  | silent => trivial
  | immediate => trivial

theorem Spent.alike {fresh : AlarmClock} (h : alarm.Spent left) (hfresh : fresh.Alike alarm) :
    fresh.Alike left := by
  cases h with
  | polling hpoll _ _ =>
    cases fresh with
    | polling bank => exact hfresh.trans hpoll.symm
    | silent => exact hfresh
    | immediate => exact hfresh
  | silent => exact hfresh
  | immediate => exact hfresh

theorem firesAfter_polling {bank : Alarm.Bank} : (polling bank).FiresAfter tl now delay f ↔
    Alarm.FiresAt tl bank.poll (tl.clock now + delay) now (now + f) := by
  rw [← Alarm.Bank.arm_firesAt_next]
  constructor
  · rintro ⟨last, hfired⟩
    exact (Alarm.Bank.mem_advance.mp hfired).1
  · intro hfires
    exact ⟨now + f, Alarm.Bank.mem_advance.mpr ⟨hfires, Nat.le_refl _⟩⟩

/-- When an alarm fires depends on its poll interval only. -/
theorem Alike.firesAfter {alarm' : AlarmClock} (h : alarm.Alike alarm') :
    alarm.FiresAfter tl now delay f ↔ alarm'.FiresAfter tl now delay f := by
  -- alarms of two kinds are not alike, which leaves the diagonal
  cases alarm with
  | polling bank =>
    cases alarm' with
    | polling bank' =>
      rw [firesAfter_polling, firesAfter_polling]
      exact iff_of_eq (congrArg (Alarm.FiresAt tl · _ _ _) h)
    | silent => exact h.elim
    | immediate => exact h.elim
  | silent =>
    cases alarm' with
    | silent => exact Iff.rfl
    | polling bank' => exact h.elim
    | immediate => exact h.elim
  | immediate =>
    cases alarm' with
    | immediate => exact Iff.rfl
    | polling bank' => exact h.elim
    | silent => exact h.elim

/-- An alarm fires after one delay at most. -/
theorem FiresAfter.unique {g : Nat} (hf : alarm.FiresAfter tl now delay f)
    (hg : alarm.FiresAfter tl now delay g) : f = g := by
  cases alarm with
  | polling bank =>
    have := (firesAfter_polling.mp hf).unique (firesAfter_polling.mp hg)
    omega
  | silent => exact hf.elim
  | immediate => exact hf.trans hg.symm

end AlarmClock

/-- Taking out the alarm that has just been armed leaves those that were armed before. -/
theorem Alarm.Bank.armed_cancel_arm (bank : Bank) (tl : Timeline) (now : Nat) (delay : Int) :
    ((bank.arm tl now delay).1.cancel bank.next).armed = bank.armed := by
  show (bank.armed ++ [_]).filter _ = bank.armed
  have hold : bank.armed.filter (fun a => a.token != bank.next) = bank.armed := by
    rw [List.filter_eq_self]
    intro a ha
    have hlt := bank.token_lt_next a.token (List.mem_map_of_mem ha)
    exact bne_iff_ne.mpr (Nat.ne_of_lt hlt)
  rw [List.filter_append, hold]
  simp

namespace Waiter

variable (tl : Timeline) (alarm : AlarmClock) (now : Nat) (duration : Int) (limit : Option Int)

/-! ### Single waits -/

/-- Blocking with a newly armed alarm ends when the alarm fires, or at the end of the block. -/
theorem blockUntil_cases (bank : Alarm.Bank) (block : Nat) :
    let stop := blockUntil tl (bank.arm tl now duration).1 bank.next (now + block)
    (∃ f, AlarmClock.FiresAfter tl now duration f (.polling bank) ∧ f ≤ block ∧
        stop = (true, now + f)) ∨
      (∀ f, AlarmClock.FiresAfter tl now duration f (.polling bank) → block < f) ∧
        stop = (false, now + block) := by
  intro stop
  cases hfires : (bank.arm tl now duration).1.firesBy? tl bank.next (now + block) with
  | some t =>
    obtain ⟨hbank, hlast⟩ := Alarm.Bank.firesBy?_eq_some_iff.mp hfires
    have hnew := Alarm.Bank.arm_firesAt_next.mp hbank
    obtain ⟨f, rfl⟩ := Nat.exists_eq_add_of_le hnew.look_le
    refine Or.inl ⟨f, AlarmClock.firesAfter_polling.mpr hnew, by omega, ?_⟩
    show blockUntil _ _ _ _ = _
    rw [blockUntil, hfires]
  | none =>
    refine Or.inr ⟨?_, ?_⟩
    · -- an alarm that fired within the block would have been shown
      intro f hf
      by_contra hle
      have hbank := Alarm.Bank.arm_firesAt_next.mpr (AlarmClock.firesAfter_polling.mp hf)
      have hsome := Alarm.Bank.firesBy?_eq_some_iff.mpr
        ⟨hbank, show now + f ≤ now + block by omega⟩
      cases hfires.symm.trans hsome
    · show blockUntil _ _ _ _ = _
      rw [blockUntil, hfires]

variable {duration limit}

/-- A wait that can be waited for ends when its alarm fires, or at the end of its block. -/
theorem wait_cases (hd : 0 < duration) (hm : isMeasurable (blockLength duration limit) = true) :
    let w := wait tl alarm now duration limit
    w.fault = none ∧
      ((∃ f, alarm.FiresAfter tl now duration f ∧ f ≤ blockLength duration limit ∧
          w.woken = true ∧ w.now = now + f) ∨
        (∀ f, alarm.FiresAfter tl now duration f → blockLength duration limit < f) ∧
          w.woken = false ∧ w.now = now + blockLength duration limit) := by
  unfold wait
  rw [if_neg (by omega), if_neg (by simp [hm])]
  cases alarm with
  | polling bank =>
    refine ⟨rfl, ?_⟩
    rcases blockUntil_cases tl now duration bank (blockLength duration limit) with
      ⟨f, hf, hle, hstop⟩ | ⟨hlate, hstop⟩
    · exact Or.inl ⟨f, hf, hle, congrArg Prod.fst hstop, congrArg Prod.snd hstop⟩
    · exact Or.inr ⟨hlate, congrArg Prod.fst hstop, congrArg Prod.snd hstop⟩
  | silent => exact ⟨rfl, Or.inr ⟨fun _ hf => hf.elim, rfl, rfl⟩⟩
  | immediate => exact ⟨rfl, Or.inl ⟨0, rfl, Nat.zero_le _, rfl, rfl⟩⟩

variable {tl alarm now} in
/-- A wait whose block is too long ends at once. -/
theorem wait_of_immeasurable (hd : 0 < duration)
    (hm : isMeasurable (blockLength duration limit) = false) :
    wait tl alarm now duration limit = failedWait tl alarm now duration := by
  unfold wait
  rw [if_neg (by omega), if_pos (by simp [hm])]

variable (limit) in
/-- A wait arms one alarm and cancels it. -/
theorem wait_spent (hd : 0 < duration) :
    (wait tl alarm now duration limit).calls = [.set duration, .cancel] ∧
      alarm.Spent (wait tl alarm now duration limit).alarm := by
  have hspent : ∀ bank : Alarm.Bank, AlarmClock.Spent (.polling bank)
      (.polling ((bank.arm tl now duration).1.cancel bank.next)) := fun bank =>
    .polling rfl (bank.armed_cancel_arm tl now duration) rfl
  by_cases hm : isMeasurable (blockLength duration limit) = true
  · unfold wait
    rw [if_neg (by omega), if_neg (by simp [hm])]
    cases alarm with
    | polling bank => exact ⟨rfl, hspent bank⟩
    | silent => exact ⟨rfl, .silent⟩
    | immediate => exact ⟨rfl, .immediate⟩
  · rw [wait_of_immeasurable hd (by simpa using hm)]
    cases alarm with
    | polling bank => exact ⟨rfl, hspent bank⟩
    | silent => exact ⟨rfl, .silent⟩
    | immediate => exact ⟨rfl, .immediate⟩

/-- What comes of a wait that finds an alarm at an instant. -/
structure Answers (tl : Timeline) (alarm : AlarmClock) (now : Nat) (duration : Int)
    (limit : Option Int) (w : Waited) : Prop where
  /-- Where there is nothing to wait for, the alarm is left alone. -/
  nothing : duration ≤ 0 → w = { woken := false, now := now, calls := [], alarm := alarm }
  /-- Any other wait arms one alarm and cancels it. -/
  calls : 0 < duration → w.calls = [.set duration, .cancel] ∧ alarm.Spent w.alarm
  /-- It ends when the alarm fires, or at the end of the block, whichever comes first. -/
  woken : 0 < duration → isMeasurable (blockLength duration limit) = true →
    w.fault = none ∧ ∀ f, alarm.FiresAfter tl now duration f →
      w.now = now + min (blockLength duration limit) f ∧
      (w.woken = true ↔ f ≤ blockLength duration limit)
  /-- With an alarm that never fires, it ends at the end of the block. -/
  blocked : 0 < duration → isMeasurable (blockLength duration limit) = true →
    (∀ f, ¬ alarm.FiresAfter tl now duration f) →
      w.now = now + blockLength duration limit ∧ w.woken = false
  /-- If the block is too long to be waited for, it is a fault, and no time passes. -/
  refused : 0 < duration → isMeasurable (blockLength duration limit) = false →
    w.fault = some .immeasurable ∧ w.now = now ∧ w.woken = false
  /-- On a clock that does not jump meanwhile, an alarm that watches it fires after the duration, if
  either the duration or the poll interval can be waited for. -/
  prompt : ∀ bank, alarm = .polling bank → 0 < duration →
    (∀ j ∈ tl.jumps, j.instant ≤ now ∨ now + duration.toNat < j.instant) →
    isMeasurable (Alarm.pause duration bank.poll) = true →
      alarm.FiresAfter tl now duration duration.toNat
  /-- If neither can be waited for, it never fires. -/
  lost : ∀ bank, alarm = .polling bank → 0 < duration →
    isMeasurable (Alarm.pause duration bank.poll) = false →
      ∀ f, ¬ alarm.FiresAfter tl now duration f

theorem wait_answers (tl : Timeline) (alarm : AlarmClock) (now : Nat) (duration : Int)
    (limit : Option Int) :
    Answers tl alarm now duration limit (wait tl alarm now duration limit) := by
  refine ⟨fun hd => if_pos hd, wait_spent tl alarm now limit, ?_, ?_, ?_, ?_, ?_⟩
  · -- the alarm fires: within the block, or after its end
    intro hd hm
    obtain ⟨hfault, hends⟩ := wait_cases tl alarm now hd hm
    refine ⟨hfault, fun f hf => ?_⟩
    rcases hends with ⟨g, hg, hle, hwoken, hnow⟩ | ⟨hlate, hwoken, hnow⟩
    · obtain rfl := hf.unique hg
      rw [hnow, Nat.min_eq_right hle]
      exact ⟨rfl, iff_of_true hwoken hle⟩
    · have hlt := hlate f hf
      rw [hnow, Nat.min_eq_left (Nat.le_of_lt hlt), hwoken]
      exact ⟨rfl, iff_of_false Bool.false_ne_true (Nat.not_le.mpr hlt)⟩
  · -- the alarm never fires, so the block decides
    intro hd hm hnever
    obtain ⟨-, ⟨f, hf, -⟩ | ⟨-, hwoken, hnow⟩⟩ := wait_cases tl alarm now hd hm
    · exact absurd hf (hnever f)
    · exact ⟨hnow, hwoken⟩
  · -- the block is too long
    intro hd hm
    rw [wait_of_immeasurable hd hm]
    exact ⟨rfl, rfl, rfl⟩
  · rintro bank rfl hd hj hm
    exact AlarmClock.firesAfter_polling.mpr
      (Alarm.armed_firesAt_of_not_jumping bank.poll_pos hj hm)
  · rintro bank rfl hd hm f hf
    exact Alarm.not_armed_firesAt hm (AlarmClock.firesAfter_polling.mp hf)

/-! ### Waits one after the other -/

end Waiter

/-- What a wait answers: everything about it but the alarm that it leaves. -/
def Waited.answer (w : Waited) : Bool × Nat × List AlarmCall × Option Fault :=
  (w.woken, w.now, w.calls, w.fault)

namespace Waiter

variable {tl : Timeline} {alarm fresh : AlarmClock} {now : Nat} {duration : Int}
  {limit : Option Int}

/-- Alarms that work in the same way answer in the same way. -/
theorem answer_wait_congr (h : fresh.Alike alarm) :
    (wait tl alarm now duration limit).answer = (wait tl fresh now duration limit).answer := by
  by_cases hd : 0 < duration
  · by_cases hm : isMeasurable (blockLength duration limit) = true
    · have hcalls := (wait_spent tl alarm now limit hd).1
      have hcalls' := (wait_spent tl fresh now limit hd).1
      obtain ⟨hfault, hends⟩ := wait_cases tl alarm now hd hm
      obtain ⟨hfault', hends'⟩ := wait_cases tl fresh now hd hm
      unfold Waited.answer
      rw [hcalls, hcalls', hfault, hfault']
      -- both alarms fire after the same delay, so both waits end for the same reason
      rcases hends with ⟨f, hf, hle, hwoken, hnow⟩ | ⟨hlate, hwoken, hnow⟩
      · rcases hends' with ⟨g, hg, -, hwoken', hnow'⟩ | ⟨hlate', -, -⟩
        · obtain rfl := (h.firesAfter.mpr hf).unique hg
          rw [hwoken, hwoken', hnow, hnow']
        · exact absurd (hlate' f (h.firesAfter.mpr hf)) (Nat.not_lt.mpr hle)
      · rcases hends' with ⟨g, hg, hle, -, -⟩ | ⟨-, hwoken', hnow'⟩
        · exact absurd (hlate g (h.firesAfter.mp hg)) (Nat.not_lt.mpr hle)
        · rw [hwoken, hwoken', hnow, hnow']
    · have hm : isMeasurable (blockLength duration limit) = false := by simpa using hm
      rw [wait_of_immeasurable hd hm, wait_of_immeasurable hd hm]
      rfl
  · unfold wait
    rw [if_pos (by omega), if_pos (by omega)]
    rfl

/-- A wait leaves an alarm that works in the same way. -/
theorem wait_alike (h : fresh.Alike alarm) :
    fresh.Alike (wait tl alarm now duration limit).alarm := by
  by_cases hd : 0 < duration
  · exact (wait_spent tl alarm now limit hd).2.alike h
  · unfold wait
    rw [if_pos (by omega)]
    exact h

/-- A waiter that is asked again and again, and that has an alarm by now: each wait comes to what it
comes to with this alarm, and answers what it would with an alarm that has never been used. -/
inductive Served (tl : Timeline) (fresh : AlarmClock) :
    AlarmClock → Nat → List Call → List Waited → Prop
  | done {alarm : AlarmClock} {now : Nat} : Served tl fresh alarm now [] []
  | next {alarm : AlarmClock} {now : Nat} {c : Call} {cs : List Call} {w : Waited}
    {ws : List Waited} (hanswers : Answers tl alarm (now + c.gap) c.duration c.limit w)
    (hfresh : w.answer = (wait tl fresh (now + c.gap) c.duration c.limit).answer)
    (hrest : Served tl fresh w.alarm w.now cs ws) : Served tl fresh alarm now (c :: cs) (w :: ws)

theorem waits_served_of_alike (h : fresh.Alike alarm) (calls : List Call) :
    Served tl fresh alarm now calls (waits tl alarm now calls) := by
  induction calls generalizing alarm now with
  | nil => exact .done
  | cons c cs ih => exact .next (wait_answers ..) (answer_wait_congr h) (ih (wait_alike h))

/-- **Every wait keeps to its block and to its alarm, and knows of no other wait.** -/
theorem waits_served (tl : Timeline) (alarm : AlarmClock) (now : Nat) (calls : List Call) :
    Served tl alarm alarm now calls (waits tl alarm now calls) :=
  waits_served_of_alike alarm.alike_refl calls

/-- A block that is shorter than the duration ends first; one that is longer does not, also if the
alarm of the wait before it would fire during it. -/
theorem waits_served_of_limits : ∃ v w, waits .steady (.polling (.ofPoll 50)) 0
      [{ duration := 100, limit := some 30 }, { duration := 80, limit := some 200 }] = [v, w] ∧
    v.woken = false ∧ v.now = 30 ∧ w.woken = true ∧ w.now = 110 := by
  have hserved := waits_served .steady (.polling (.ofPoll 50)) 0
    [{ duration := 100, limit := some 30 }, { duration := 80, limit := some 200 }]
  -- from here on all that is known of the two waits is that they have been served
  generalize waits _ _ _ _ = ws at hserved ⊢
  cases hserved with
  | @next _ _ _ _ v _ hv _ hrest =>
  cases hrest with
  | @next _ _ _ _ w _ hw _ hdone =>
  cases hdone
  have hspent := (hv.calls (by decide)).2
  obtain ⟨-, hv'⟩ := hv.woken (by decide) (by decide +kernel)
  obtain ⟨hvnow, hvwoken⟩ := hv' 100 (hv.prompt _ rfl (by decide) nofun (by decide +kernel))
  have hvnow : v.now = 30 := hvnow
  generalize v.alarm = left at hspent hw
  cases hspent with
  | polling hpoll _ _ =>
  obtain ⟨-, hw'⟩ := hw.woken (by decide) (by decide +kernel)
  obtain ⟨hwnow, hwwoken⟩ := hw' 80 (hw.prompt _ rfl (by decide) nofun (by
    rw [hpoll]
    decide +kernel))
  refine ⟨v, w, rfl, ?_, hvnow, hwwoken.mpr (by decide), ?_⟩
  · exact Bool.eq_false_iff.mpr fun htrue => absurd (hvwoken.mp htrue) (by decide)
  · rw [hwnow, hvnow]
    decide

/-- A wait whose block is too long to be waited for does not return, not even with an alarm that
never fires. -/
theorem not_forall_wait_returns : ¬ ∀ (tl : Timeline) (alarm : AlarmClock) (now : Nat)
    (duration : Int) (limit : Option Int), (wait tl alarm now duration limit).fault = none := by
  intro h
  have hfault := h .steady .silent 0 (Int.ofNat (Nat.pow 10 309)) none
  rw [wait_of_immeasurable (by decide +kernel) (by decide +kernel)] at hfault
  cases hfault

end Waiter

end Timebox
