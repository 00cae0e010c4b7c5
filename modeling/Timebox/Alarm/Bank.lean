import Timebox.Alarm.Watch

/-!
# Banks of alarms

A bank holds the alarms that are armed at one time. They watch the clock independently with one poll
interval. Alarms that fire at one instant do so in the order in which they were armed. A cancelled
alarm is taken out of the bank, so it cannot fire any more, and so is one whose watch has ended.

Tokens are given out in ascending order and never twice: every bank carries the proof that its
alarms have ascending tokens, all below the next one.
-/

namespace Timebox.Alarm

/-- An alarm that is watching the clock. -/
structure Armed where
  /-- The number that the bank gave it, by which it can be cancelled. -/
  token : Nat
  /-- What the clock has to show for it to fire. -/
  due : Int
  /-- The instant of its next look. -/
  look : Nat
  deriving DecidableEq, Repr

/-- An alarm that has fired. -/
structure Firing where
  token : Nat
  instant : Nat
  deriving DecidableEq, Repr

/-- The alarms that are armed, in the order of their tokens. -/
structure Bank where
  poll : Nat
  poll_pos : 0 < poll
  armed : List Armed := []
  /-- The token of the next alarm. -/
  next : Nat := 0
  /-- Tokens are given out in order. -/
  ordered : (armed.map Armed.token).Pairwise (· < ·) := by simp
  /-- The next token is a new one. -/
  token_lt_next : ∀ t ∈ armed.map Armed.token, t < next := by simp
  deriving DecidableEq

namespace Bank

/-- An empty bank; the poll interval is at least one millisecond. -/
def ofPoll (poll : Int) : Bank :=
  { poll := max 1 poll.toNat, poll_pos := by omega }

/-- Arm an alarm that is due after a delay on the clock, and give its token. -/
def arm (b : Bank) (tl : Timeline) (now : Nat) (delay : Int) : Bank × Nat :=
  ({ b with
      armed := b.armed ++ [{ token := b.next, due := tl.clock now + delay, look := now }]
      next := b.next + 1
      ordered := by
        rw [List.map_append, List.pairwise_append]
        refine ⟨b.ordered, List.pairwise_singleton _ _, fun t ht u hu => ?_⟩
        obtain rfl := List.mem_singleton.mp hu
        exact b.token_lt_next t ht
      token_lt_next := by
        intro t ht
        rw [List.map_append, List.mem_append] at ht
        rcases ht with ht | ht
        · exact Nat.lt_succ_of_lt (b.token_lt_next t ht)
        · obtain rfl := List.mem_singleton.mp ht
          exact Nat.lt_succ_self _ },
    b.next)

/-- Take an alarm out. -/
def cancel (b : Bank) (token : Nat) : Bank :=
  { b with
    armed := b.armed.filter fun a => a.token != token
    ordered := b.ordered.sublist (List.filter_sublist.map _)
    token_lt_next := fun t ht => b.token_lt_next t ((List.filter_sublist.map _).mem ht) }

/-- Watch the clock with one alarm. -/
def watchWith (b : Bank) (tl : Timeline) (last : Nat) (a : Armed) : Watch :=
  watch tl b.poll b.poll_pos a.due last a.look

/-- The alarms that fire up to and including a last instant, in the order of their tokens. -/
def firings (b : Bank) (tl : Timeline) (last : Nat) : List Armed → List Firing
  | [] => []
  | a :: as =>
    match b.watchWith tl last a with
    | .fired t => { token := a.token, instant := t } :: firings b tl last as
    | .pending _ => firings b tl last as
    | .lost => firings b tl last as

/-- The alarms that are still watching after a last instant. -/
def remaining (b : Bank) (tl : Timeline) (last : Nat) : List Armed → List Armed
  | [] => []
  | a :: as =>
    match b.watchWith tl last a with
    | .fired _ => remaining b tl last as
    | .pending look => { a with look := look } :: remaining b tl last as
    | .lost => remaining b tl last as

/-- Alarms that are still watching keep their tokens and their order. -/
theorem remaining_sublist (b : Bank) (tl : Timeline) (last : Nat) (as : List Armed) :
    ((b.remaining tl last as).map Armed.token).Sublist (as.map Armed.token) := by
  induction as with
  | nil => exact List.Sublist.refl _
  | cons a as ih =>
    unfold remaining
    split
    · exact ih.cons _
    · exact ih.cons_cons _
    · exact ih.cons _

/-- Let time pass up to and including a last instant: what fired, first to last, and the bank that
is left. -/
def advance (b : Bank) (tl : Timeline) (last : Nat) : List Firing × Bank :=
  ((b.firings tl last b.armed).mergeSort fun f g => decide (f.instant ≤ g.instant),
    { b with
      armed := b.remaining tl last b.armed
      ordered := b.ordered.sublist (b.remaining_sublist tl last b.armed)
      token_lt_next := fun t ht =>
        b.token_lt_next t ((b.remaining_sublist tl last b.armed).mem ht) })

/-- The instant at which the alarm of a token fires, if it does up to a last instant. -/
def firesBy? (b : Bank) (tl : Timeline) (token last : Nat) : Option Nat :=
  match b.armed.find? fun a => a.token == token with
  | none => none
  | some a =>
    match b.watchWith tl last a with
    | .fired t => some t
    | .pending _ => none
    | .lost => none

end Bank

end Timebox.Alarm
