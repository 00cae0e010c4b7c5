import Mathlib.Data.List.Nodup
import Mathlib.Data.Nat.Find
import Timebox.Alarm.Bank

/-!
# When alarms fire

When an alarm fires if it is left alone is settled by the clock as soon as it is armed
(`Alarm.FiresAt`): it does not matter in which stretches the time passes meanwhile.  A stretch shows
the firing if it comes within it (`Alarm.watch_eq_fired_iff`), and otherwise leaves an alarm that
fires at the same instant as before (`Alarm.watch_eq_pending`).

The firings that a bank still has before it are what each operation on it acts upon
(`Alarm.Bank.FiresAt`).  Arming adds the firing of the new alarm, cancelling takes out that of one
alarm, and letting time pass takes out those that come by the last instant, which are the ones that
it shows (`Alarm.Bank.mem_advance`, `Alarm.Bank.advance_firesAt`).

On a clock that never falls back, an alarm fires less than one poll interval after the clock has
reached the time it is due (`Alarm.Reaches.exists_firesAt`), and on a clock that does not jump
meanwhile it fires at that very instant (`Alarm.armed_firesAt_of_not_jumping`).
-/

namespace Timebox.Alarm

/-! ### Single alarms -/

section

variable {tl : Timeline} {poll : Nat} {hp : 0 < poll} {due : Int} {last look t u : Nat}

/-- Left alone, an alarm fires at an instant, if its next look is at a given one.  It pauses between
its looks; a pause too long to be waited for is its end. -/
inductive FiresAt (tl : Timeline) (poll : Nat) (due : Int) : Nat → Nat → Prop
  | reached {look : Nat} (h : due ≤ tl.clock look) : FiresAt tl poll due look look
  | paused {look t : Nat} (h : tl.clock look < due)
    (hm : isMeasurable (pause (due - tl.clock look) poll) = true)
    (hf : FiresAt tl poll due (look + pause (due - tl.clock look) poll) t) :
    FiresAt tl poll due look t

theorem FiresAt.look_le (h : FiresAt tl poll due look t) : look ≤ t := by
  induction h with
  | reached _ => exact Nat.le_refl _
  | paused _ _ _ ih => omega

/-- An alarm does not fire before it is due. -/
theorem FiresAt.due_le (h : FiresAt tl poll due look t) : due ≤ tl.clock t := by
  induction h with
  | reached h => exact h
  | paused _ _ _ ih => exact ih

/-- An alarm fires at one instant at most. -/
theorem FiresAt.unique (ht : FiresAt tl poll due look t) (hu : FiresAt tl poll due look u) :
    t = u := by
  induction ht with
  | reached h =>
    cases hu with
    | reached _ => rfl
    | paused hlt _ _ => omega
  | paused hlt _ _ ih =>
    cases hu with
    | reached h => omega
    | paused _ _ hu => exact ih hu

/-- A stretch of time shows the firing of an alarm if it comes by the end of the stretch. -/
theorem watch_eq_fired_iff (hp : 0 < poll) :
    watch tl poll hp due last look = .fired t ↔ FiresAt tl poll due look t ∧ t ≤ last := by
  constructor
  · intro h
    -- one look of the watch is one rule of `FiresAt`
    fun_induction watch tl poll hp due last look with
    | case1 => cases h
    | case2 look hlast hdue =>
      cases h
      exact ⟨.reached (by omega), by omega⟩
    | case3 => cases h
    | case4 look hlast hdue hm ih =>
      obtain ⟨hfires, ht⟩ := ih h
      exact ⟨.paused (by omega) (by simpa using hm) hfires, ht⟩
  · rintro ⟨h, hlast⟩
    induction h with
    | reached h =>
      rw [watch, if_neg (by omega), dif_pos (by omega)]
    | paused hlt hm hf ih =>
      have hlook := hf.look_le
      rw [watch, if_neg (by omega), dif_neg (by omega), if_neg (by simp [hm])]
      exact ih hlast

/-- An alarm that is still watching after a stretch of time has its next look after it, and fires
when it would have fired anyway. -/
theorem watch_eq_pending {next : Nat} (h : watch tl poll hp due last look = .pending next) :
    last < next ∧ (FiresAt tl poll due next t ↔ FiresAt tl poll due look t) := by
  fun_induction watch tl poll hp due last look with
  | case1 look hlast =>
    cases h
    exact ⟨hlast, Iff.rfl⟩
  | case2 => cases h
  | case3 => cases h
  | case4 look hlast hdue hm ih =>
    obtain ⟨hnext, hiff⟩ := ih h
    refine ⟨hnext, hiff.trans ⟨fun hf => .paused (by omega) (by simpa using hm) hf, fun hf => ?_⟩⟩
    cases hf with
    | reached hreached => omega
    | paused _ _ hf => exact hf

/-- An alarm whose watch has ended does not fire. -/
theorem watch_eq_lost (h : watch tl poll hp due last look = .lost) :
    ¬ FiresAt tl poll due look t := by
  fun_induction watch tl poll hp due last look with
  | case1 => cases h
  | case2 => cases h
  | case3 look hlast hdue hm =>
    intro hf
    cases hf with
    | reached hreached => omega
    | paused _ hmeasurable _ => simp [hmeasurable] at hm
  | case4 look hlast hdue hm ih =>
    intro hf
    cases hf with
    | reached hreached => omega
    | paused _ _ hf => exact ih h hf

/-- An alarm that fires after a stretch of time is still watching at its end. -/
theorem exists_watch_eq_pending_iff (hp : 0 < poll) :
    (∃ next, watch tl poll hp due last look = .pending next ∧ FiresAt tl poll due next t) ↔
      FiresAt tl poll due look t ∧ last < t := by
  constructor
  · rintro ⟨next, hwatch, hf⟩
    obtain ⟨hnext, hiff⟩ := watch_eq_pending (t := t) hwatch
    exact ⟨hiff.mp hf, Nat.lt_of_lt_of_le hnext hf.look_le⟩
  · rintro ⟨hf, hlast⟩
    cases hw : watch tl poll hp due last look with
    | fired u =>
      obtain ⟨hu, hule⟩ := (watch_eq_fired_iff hp).mp hw
      obtain rfl := hf.unique hu
      omega
    | pending next => exact ⟨next, rfl, (watch_eq_pending hw).2.mpr hf⟩
    | lost => exact absurd hf (watch_eq_lost hw)

end

/-! ### When alarms are late -/

section

variable {tl : Timeline} {poll : Nat} {due delay : Int} {look t : Nat}

/-- The clock reaches the time for the first time at an instant, as far as is seen from another one
on. -/
structure Reaches (tl : Timeline) (due : Int) (look t : Nat) : Prop where
  look_le : look ≤ t
  due_le : due ≤ tl.clock t
  before : ∀ r, look ≤ r → r < t → tl.clock r < due

/-- A clock that never falls back reaches any time. -/
theorem exists_reaches (hf : tl.Forward) (due : Int) (look : Nat) : ∃ t, Reaches tl due look t := by
  have hex : ∃ n, due ≤ tl.clock (look + n) := by
    refine ⟨(due - tl.clock look).toNat, ?_⟩
    have := tl.le_clock_sub_clock hf (Nat.le_add_right look (due - tl.clock look).toNat)
    omega
  refine ⟨look + Nat.find hex, Nat.le_add_right _ _, Nat.find_spec hex, fun r hr hlt => ?_⟩
  have hmin := Nat.find_min hex (m := r - look) (by omega)
  rw [Nat.add_sub_cancel' hr] at hmin
  omega

/-- On a clock that never falls back, an alarm whose pauses are not too long fires less than one
poll interval after the clock has reached the time it is due. -/
theorem Reaches.exists_firesAt (hf : tl.Forward) (hp : 0 < poll)
    (hm : isMeasurable (pause (due - tl.clock look) poll) = true) (h : Reaches tl due look t) :
    ∃ u, FiresAt tl poll due look u ∧ t ≤ u ∧ u < t + poll := by
  induction hn : t - look using Nat.strong_induction_on generalizing look with
  | _ n ih =>
  by_cases hlook : look = t
  · subst hlook
    exact ⟨look, .reached h.due_le, Nat.le_refl _, by omega⟩
  · have hlt : look < t := Nat.lt_of_le_of_ne h.look_le hlook
    have hclock : tl.clock look < due := h.before look (Nat.le_refl _) hlt
    have hpos : 0 < pause (due - tl.clock look) poll := pause_pos (by omega) hp
    have hpoll := pause_le (due - tl.clock look) poll
    -- the pause leads up to the time, or less than one poll interval beyond it
    by_cases hnext : look + pause (due - tl.clock look) poll ≤ t
    · have hgain := tl.le_clock_sub_clock hf
        (Nat.le_add_right look (pause (due - tl.clock look) poll))
      have hm' : isMeasurable (pause (due - tl.clock (look + pause (due - tl.clock look) poll))
          poll) = true := by
        refine isMeasurable_of_le ?_ hm
        unfold pause at hgain ⊢
        omega
      have hreaches : Reaches tl due (look + pause (due - tl.clock look) poll) t :=
        ⟨hnext, h.due_le, fun r hr => h.before r (by omega)⟩
      obtain ⟨u, hu, hbounds⟩ := ih _ (by omega) hm' hreaches rfl
      exact ⟨u, .paused hclock hm hu, hbounds⟩
    · have hreached : due ≤ tl.clock (look + pause (due - tl.clock look) poll) := by
        have := tl.le_clock_sub_clock hf (Nat.le_of_not_le hnext)
        have := h.due_le
        omega
      exact ⟨_, .paused hclock hm (.reached hreached), by omega, by omega⟩

/-- If the clock does not jump meanwhile, an alarm whose pauses are not too long fires just when the
time that is left has passed. -/
theorem firesAt_of_not_jumping (hp : 0 < poll)
    (hj : ∀ j ∈ tl.jumps, j.instant ≤ look ∨ look + (due - tl.clock look).toNat < j.instant)
    (hm : isMeasurable (pause (due - tl.clock look) poll) = true) :
    FiresAt tl poll due look (look + (due - tl.clock look).toNat) := by
  -- on the time left until the alarm is due, of which every pause takes off its own length
  induction hn : (due - tl.clock look).toNat using Nat.strong_induction_on generalizing look with
  | _ n ih =>
  subst hn
  by_cases hclock : due ≤ tl.clock look
  · have hzero : (due - tl.clock look).toNat = 0 := by omega
    rw [hzero]
    exact .reached hclock
  · have hpos : 0 < pause (due - tl.clock look) poll := pause_pos (by omega) hp
    have hle : pause (due - tl.clock look) poll ≤ (due - tl.clock look).toNat := by
      unfold pause
      omega
    have hgain : tl.clock (look + pause (due - tl.clock look) poll) - tl.clock look =
        pause (due - tl.clock look) poll := by
      have := tl.clock_sub_clock (Nat.le_add_right look (pause (due - tl.clock look) poll))
        fun j hjump => (hj j hjump).imp_right fun hlater => by omega
      omega
    have hstop : look + (due - tl.clock look).toNat =
        look + pause (due - tl.clock look) poll +
          (due - tl.clock (look + pause (due - tl.clock look) poll)).toNat := by omega
    refine .paused (by omega) hm ?_
    rw [hstop]
    refine ih _ (by omega) (fun j hjump => ?_) (isMeasurable_of_le ?_ hm) rfl
    · have := hj j hjump
      omega
    · unfold pause at hgain ⊢
      omega

/-- An alarm that is armed for a delay on a clock that does not jump meanwhile fires after that
delay, unless it would have to pause for too long. -/
theorem armed_firesAt_of_not_jumping (hp : 0 < poll)
    (hj : ∀ j ∈ tl.jumps, j.instant ≤ look ∨ look + delay.toNat < j.instant)
    (hm : isMeasurable (pause delay poll) = true) :
    FiresAt tl poll (tl.clock look + delay) look (look + delay.toNat) := by
  have hdelay : tl.clock look + delay - tl.clock look = delay := by omega
  have hfires : FiresAt tl poll (tl.clock look + delay) look
      (look + (tl.clock look + delay - tl.clock look).toNat) :=
    firesAt_of_not_jumping hp (by rw [hdelay]; exact hj) (by rw [hdelay]; exact hm)
  rw [hdelay] at hfires
  exact hfires

/-- If it would have to, it never fires. -/
theorem not_armed_firesAt (hm : isMeasurable (pause delay poll) = false) :
    ¬ FiresAt tl poll (tl.clock look + delay) look t := by
  have hpositive : 0 < delay := by
    by_contra hle
    have hzero : pause delay poll = 0 := by
      unfold pause
      omega
    rw [hzero] at hm
    exact absurd hm (by decide +kernel)
  intro h
  cases h with
  | reached h => omega
  | paused _ hmeasurable _ =>
    have hdelay : tl.clock look + delay - tl.clock look = delay := by omega
    rw [hdelay] at hmeasurable
    cases hm.symm.trans hmeasurable

end

/-! ### Banks -/

namespace Bank

variable {b : Bank} {tl : Timeline} {token last now t u : Nat}

/-- Left alone, the alarm of a token fires at an instant. -/
def FiresAt (b : Bank) (tl : Timeline) (token t : Nat) : Prop :=
  ∃ a ∈ b.armed, a.token = token ∧ Alarm.FiresAt tl b.poll a.due a.look t

/-- An alarm that will fire has been armed. -/
theorem FiresAt.token_lt (h : b.FiresAt tl token t) : token < b.next := by
  obtain ⟨a, ha, rfl, -⟩ := h
  exact b.token_lt_next a.token (List.mem_map_of_mem ha)

/-- A token belongs to one alarm of the bank at most. -/
theorem eq_of_token_eq {a a' : Armed} (ha : a ∈ b.armed) (ha' : a' ∈ b.armed)
    (h : a.token = a'.token) : a = a' :=
  List.inj_on_of_nodup_map (b.ordered.imp Nat.ne_of_lt) ha ha' h

theorem FiresAt.unique (ht : b.FiresAt tl token t) (hu : b.FiresAt tl token u) : t = u := by
  obtain ⟨a, ha, htoken, hfires⟩ := ht
  obtain ⟨a', ha', htoken', hfires'⟩ := hu
  obtain rfl := eq_of_token_eq ha ha' (htoken.trans htoken'.symm)
  exact hfires.unique hfires'

theorem mem_firings {f : Firing} {as : List Armed} : f ∈ b.firings tl last as ↔
    ∃ a ∈ as, a.token = f.token ∧ b.watchWith tl last a = .fired f.instant := by
  induction as with
  | nil => simp [firings]
  | cons a as ih =>
    unfold firings
    cases hw : b.watchWith tl last a with
    | fired t =>
      simp only [List.mem_cons, ih, exists_eq_or_imp, hw, Watch.fired.injEq]
      obtain ⟨token, instant⟩ := f
      simp only [Firing.mk.injEq, eq_comm]
    | pending next => simp [ih, hw]
    | lost => simp [ih, hw]

theorem mem_remaining {a' : Armed} {as : List Armed} : a' ∈ b.remaining tl last as ↔
    ∃ a ∈ as, ∃ next, b.watchWith tl last a = .pending next ∧ a' = { a with look := next } := by
  induction as with
  | nil => simp [remaining]
  | cons a as ih =>
    unfold remaining
    cases hw : b.watchWith tl last a with
    | fired t => simp [ih, hw]
    | pending next => simp [ih, hw]
    | lost => simp [ih, hw]

/-- Letting time pass shows the firings that come by the last instant. -/
theorem mem_advance {f : Firing} : f ∈ (b.advance tl last).1 ↔
    b.FiresAt tl f.token f.instant ∧ f.instant ≤ last := by
  show f ∈ List.mergeSort _ _ ↔ _
  rw [List.mem_mergeSort, mem_firings]
  constructor
  · rintro ⟨a, ha, htoken, hw⟩
    obtain ⟨hfires, hlast⟩ := (watch_eq_fired_iff b.poll_pos).mp hw
    exact ⟨⟨a, ha, htoken, hfires⟩, hlast⟩
  · rintro ⟨⟨a, ha, htoken, hfires⟩, hlast⟩
    exact ⟨a, ha, htoken, (watch_eq_fired_iff b.poll_pos).mpr ⟨hfires, hlast⟩⟩

/-- Letting time pass leaves the firings that come after the last instant. -/
theorem advance_firesAt :
    (b.advance tl last).2.FiresAt tl token t ↔ b.FiresAt tl token t ∧ last < t := by
  constructor
  · rintro ⟨a', ha', htoken, hfires⟩
    obtain ⟨a, ha, next, hw, rfl⟩ := mem_remaining.mp ha'
    obtain ⟨hfires, hlast⟩ := (exists_watch_eq_pending_iff b.poll_pos).mp ⟨next, hw, hfires⟩
    exact ⟨⟨a, ha, htoken, hfires⟩, hlast⟩
  · rintro ⟨⟨a, ha, htoken, hfires⟩, hlast⟩
    obtain ⟨next, hw, hnext⟩ :=
      (exists_watch_eq_pending_iff b.poll_pos).mpr ⟨hfires, hlast⟩
    exact ⟨{ a with look := next }, mem_remaining.mpr ⟨a, ha, next, hw, rfl⟩, htoken, hnext⟩

/-- Cancelling takes out the firing of one alarm. -/
theorem cancel_firesAt {cancelled : Nat} :
    (b.cancel cancelled).FiresAt tl token t ↔ b.FiresAt tl token t ∧ token ≠ cancelled := by
  constructor
  · rintro ⟨a, ha, rfl, hfires⟩
    obtain ⟨ha, hne⟩ := List.mem_filter.mp ha
    exact ⟨⟨a, ha, rfl, hfires⟩, by simpa using hne⟩
  · rintro ⟨⟨a, ha, rfl, hfires⟩, hne⟩
    exact ⟨a, List.mem_filter.mpr ⟨ha, by simpa using hne⟩, rfl, hfires⟩

/-- Arming adds the firing of the new alarm. -/
theorem arm_firesAt {delay : Int} :
    (b.arm tl now delay).1.FiresAt tl token t ↔ b.FiresAt tl token t ∨
      token = b.next ∧ Alarm.FiresAt tl b.poll (tl.clock now + delay) now t := by
  constructor
  · rintro ⟨a, ha, rfl, hfires⟩
    rcases List.mem_append.mp ha with ha | ha
    · exact Or.inl ⟨a, ha, rfl, hfires⟩
    · obtain rfl := List.mem_singleton.mp ha
      exact Or.inr ⟨rfl, hfires⟩
  · rintro (⟨a, ha, htoken, hfires⟩ | ⟨rfl, hfires⟩)
    · exact ⟨a, List.mem_append_left _ ha, htoken, hfires⟩
    · exact ⟨_, List.mem_append_right _ (List.mem_singleton.mpr rfl), rfl, hfires⟩

/-- The alarm that has just been armed is the only one of its token. -/
theorem arm_firesAt_next {delay : Int} : (b.arm tl now delay).1.FiresAt tl b.next t ↔
    Alarm.FiresAt tl b.poll (tl.clock now + delay) now t := by
  rw [arm_firesAt]
  constructor
  · rintro (hold | ⟨-, hfires⟩)
    · exact absurd hold.token_lt (Nat.lt_irrefl _)
    · exact hfires
  · exact fun hfires => Or.inr ⟨rfl, hfires⟩

/-- Asking for the firing of one alarm shows it if it comes by the last instant. -/
theorem firesBy?_eq_some_iff :
    b.firesBy? tl token last = some t ↔ b.FiresAt tl token t ∧ t ≤ last := by
  unfold firesBy?
  cases hfind : b.armed.find? fun a => a.token == token with
  | none =>
    rw [List.find?_eq_none] at hfind
    refine ⟨nofun, ?_⟩
    rintro ⟨⟨a, ha, htoken, -⟩, -⟩
    exact absurd (beq_iff_eq.mpr htoken) (hfind a ha)
  | some a =>
    have htoken : a.token = token := by simpa using List.find?_some hfind
    have hmem : a ∈ b.armed := List.mem_of_find?_eq_some hfind
    -- no two alarms have one token, so the alarm that is found is the only one
    have hfires : b.FiresAt tl token t ↔ Alarm.FiresAt tl b.poll a.due a.look t := by
      refine ⟨?_, fun h => ⟨a, hmem, htoken, h⟩⟩
      rintro ⟨a', ha', htoken', h⟩
      exact eq_of_token_eq ha' hmem (htoken'.trans htoken.symm) ▸ h
    rw [hfires, ← watch_eq_fired_iff b.poll_pos]
    show _ ↔ b.watchWith tl last a = .fired t
    dsimp only
    cases b.watchWith tl last a <;> simp

end Bank

end Timebox.Alarm
