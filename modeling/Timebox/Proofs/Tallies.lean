import Mathlib.Algebra.BigOperators.Group.List.Basic
import Mathlib.Algebra.Order.Ring.Int
import Mathlib.Data.List.Induction
import Mathlib.Data.List.Nodup
import Mathlib.Logic.Function.Basic
import Timebox.Telemetry.Tally

/-!
# Tallies without an order

A tally can be kept while events come in: each is counted under its kind and under its outcome, and
a duration is put down for its part of the run.  The tally of some events is what has been put down
when the last one is in (`Meter.snapshot_takeAll`).

Tallies are compared by what they say under each heading (`Tally.Agrees`).  What is said of two
sequences of events, one after the other, is put together heading by heading (`Tally.Joins`), and
the order of the events is no matter.  The sums in a tally agree with each other and with the number
of events (`Tally.Balances`).  Main statement: `Tally.ofEvents_orderless`.
-/

namespace Timebox.Telemetry

/-! ### Counts -/

namespace Tally

section Counts

variable {α : Type} [BEq α] {x : α} {xs ys : List α} {f : α → Nat} {counts : List (α × Nat)}

/-- Count a value once more: in its place, or at the end if it is new. -/
def bump (x : α) : List (α × Nat) → List (α × Nat)
  | [] => [(x, 1)]
  | (y, n) :: counts => if y == x then (y, n + 1) :: counts else (y, n) :: bump x counts

theorem sum_bump (x : α) (counts : List (α × Nat)) :
    ((bump x counts).map Prod.snd).sum = (counts.map Prod.snd).sum + 1 := by
  induction counts with
  | nil => rfl
  | cons c counts ih =>
    obtain ⟨y, n⟩ := c
    unfold bump
    split
    · simp only [List.map_cons, List.sum_cons]
      omega
    · simp only [List.map_cons, List.sum_cons, ih]
      omega

theorem keys_countEach (xs : List α) : (countEach xs).map Prod.fst = xs.eraseDups := by
  simp [countEach, Function.comp_def]

variable [LawfulBEq α]

theorem bump_of_not_mem (h : x ∉ counts.map Prod.fst) : bump x counts = counts ++ [(x, 1)] := by
  induction counts with
  | nil => rfl
  | cons c counts ih =>
    obtain ⟨y, n⟩ := c
    rw [List.map_cons, List.mem_cons, not_or] at h
    have hy : (y == x) = false := beq_eq_false_iff_ne.mpr (Ne.symm h.1)
    simp [bump, hy, ih h.2]

theorem bump_of_mem (hx : x ∈ ys) (hys : ys.Nodup) :
    bump x (ys.map fun y => (y, f y)) = ys.map fun y => (y, f y + if x == y then 1 else 0) := by
  induction ys with
  | nil => cases hx
  | cons y ys ih =>
    obtain ⟨hy, hys⟩ := List.nodup_cons.mp hys
    by_cases hxy : y = x
    · subst hxy
      -- the value is not there a second time
      have hrest : ys.map (fun z => (z, f z + if y == z then 1 else 0)) =
          ys.map fun z => (z, f z) := by
        refine List.map_congr_left fun z hz => ?_
        have hne : (y == z) = false := beq_eq_false_iff_ne.mpr fun h => hy (h ▸ hz)
        simp [hne]
      simp [bump, hrest]
    · have hx : x ∈ ys := (List.mem_cons.mp hx).resolve_left (Ne.symm hxy)
      simp [bump, hxy, Ne.symm hxy, ih hx hys]

theorem eraseDups_concat (xs : List α) (x : α) :
    (xs ++ [x]).eraseDups = if xs.contains x then xs.eraseDups else xs.eraseDups ++ [x] := by
  rw [List.eraseDups_append]
  cases h : xs.contains x <;> simp_all [List.removeAll, List.eraseDups_cons]

theorem nodup_eraseDups (xs : List α) : xs.eraseDups.Nodup := by
  induction xs using List.reverseRecOn with
  | nil => exact List.nodup_nil
  | append_singleton xs x ih =>
    rw [eraseDups_concat]
    split
    · exact ih
    · next h =>
      have hx : x ∉ xs.eraseDups := by simpa using h
      rw [List.nodup_append]
      refine ⟨ih, List.nodup_singleton x, fun y hy z hz => ?_⟩
      obtain rfl := List.mem_singleton.mp hz
      exact fun h => hx (h ▸ hy)

/-- One more value is counted in its place. -/
theorem countEach_concat (xs : List α) (x : α) : countEach (xs ++ [x]) = bump x (countEach xs) := by
  have hcount : ∀ y, (xs ++ [x]).count y = xs.count y + if x == y then 1 else 0 := by
    intro y
    rw [List.count_append, List.count_singleton]
  unfold countEach
  rw [eraseDups_concat]
  simp only [hcount]
  split
  · next h =>
    -- `x` has been counted before, and its count goes up by one
    have hx : x ∈ xs.eraseDups := by simpa using h
    rw [bump_of_mem hx (nodup_eraseDups xs)]
  · next h =>
    -- `x` is new, and is counted after all others
    have hx : x ∉ xs := by simpa using h
    have hkeys : x ∉ (xs.eraseDups.map fun y => (y, xs.count y)).map Prod.fst := by
      simpa [Function.comp_def] using hx
    have hrest : xs.eraseDups.map (fun y => (y, xs.count y + if x == y then 1 else 0)) =
        xs.eraseDups.map fun y => (y, xs.count y) := by
      refine List.map_congr_left fun y hy => ?_
      have hne : (x == y) = false :=
        beq_eq_false_iff_ne.mpr fun h => hx (h ▸ List.mem_eraseDups.mp hy)
      simp [hne]
    rw [bump_of_not_mem hkeys, List.map_append, hrest]
    simp [List.count_eq_zero.mpr hx]

/-- The counts sum up to how many values there are. -/
theorem sum_countEach (xs : List α) : ((countEach xs).map Prod.snd).sum = xs.length := by
  induction xs using List.reverseRecOn with
  | nil => rfl
  | append_singleton xs x ih => rw [countEach_concat, sum_bump, ih, List.length_append]; rfl

theorem lookup_map_pair (f : α → Nat) (ys : List α) (x : α) :
    (ys.map fun y => (y, f y)).lookup x = if ys.contains x then some (f x) else none := by
  induction ys with
  | nil => rfl
  | cons y ys ih =>
    rw [List.map_cons, List.lookup_cons, List.contains_cons, ih]
    cases hxy : x == y with
    | true => simp [eq_of_beq hxy]
    | false => rfl

/-- What is said of a value is how often it occurs; nothing is said of one that does not. -/
theorem lookup_countEach (xs : List α) (x : α) :
    (countEach xs).lookup x = if xs.count x = 0 then none else some (xs.count x) := by
  rw [countEach, lookup_map_pair]
  by_cases h : x ∈ xs
  · have hcount : xs.count x ≠ 0 := fun h0 => List.count_eq_zero.mp h0 h
    simp [h, hcount]
  · simp [h, List.count_eq_zero.mpr h]

theorem lookup_countEach_append (xs ys : List α) (x : α) :
    (countEach (xs ++ ys)).lookup x =
      Option.merge (· + ·) ((countEach xs).lookup x) ((countEach ys).lookup x) := by
  simp only [lookup_countEach, List.count_append, Nat.add_eq_zero_iff]
  by_cases hx : xs.count x = 0 <;> by_cases hy : ys.count x = 0 <;> simp [hx, hy, Option.merge]

theorem lookup_countEach_of_perm (h : xs.Perm ys) (x : α) :
    (countEach xs).lookup x = (countEach ys).lookup x := by
  rw [lookup_countEach, lookup_countEach, h.count_eq]

end Counts

end Tally

/-! ### Durations -/

namespace Duration

variable {d x : Duration} {ds : List Duration}

theorem longer_assoc (a b c : Duration) : (a.longer b).longer c = a.longer (b.longer c) := by
  unfold longer
  by_cases hab : a.value < b.value <;> by_cases hbc : b.value < c.value <;> simp [hab, hbc]
  · omega
  · omega

theorem foldl_longer (a b : Duration) (ds : List Duration) :
    ds.foldl longer (a.longer b) = a.longer (ds.foldl longer b) := by
  induction ds generalizing b with
  | nil => rfl
  | cons c ds ih => rw [List.foldl_cons, List.foldl_cons, longer_assoc, ih]

theorem foldl_longer_mem (d : Duration) (ds : List Duration) : ds.foldl longer d ∈ d :: ds := by
  induction ds generalizing d with
  | nil => exact List.mem_singleton_self d
  | cons c ds ih =>
    have hrest := ih (d.longer c)
    rw [List.foldl_cons]
    unfold longer at hrest ⊢
    split at hrest <;> grind

theorem value_le_longer (a b : Duration) :
    a.value ≤ (a.longer b).value ∧ b.value ≤ (a.longer b).value := by
  unfold longer
  split <;> omega

/-- No duration is longer than the longest one. -/
theorem value_le_foldl_longer (h : x ∈ d :: ds) : x.value ≤ (ds.foldl longer d).value := by
  induction ds generalizing d x with
  | nil =>
    rw [List.mem_singleton.mp h]
    exact Int.le_refl _
  | cons c ds ih =>
    have hfirst : (d.longer c).value ≤ (ds.foldl longer (d.longer c)).value :=
      ih List.mem_cons_self
    have hboth := value_le_longer d c
    rcases List.mem_cons.mp h with rfl | h
    · exact Int.le_trans hboth.1 hfirst
    · rcases List.mem_cons.mp h with rfl | h
      · exact Int.le_trans hboth.2 hfirst
      · exact ih (List.mem_cons_of_mem _ h)

/-- The longest of some durations takes as long in whatever order they come. -/
theorem value_longest_of_perm {c : Duration} {cs : List Duration} (h : (d :: ds).Perm (c :: cs)) :
    (ds.foldl longer d).value = (cs.foldl longer c).value := by
  have hle := value_le_foldl_longer (h.mem_iff.mp (foldl_longer_mem d ds))
  have hge := value_le_foldl_longer (h.mem_iff.mpr (foldl_longer_mem c cs))
  omega

end Duration

namespace PhaseTally

open Duration

variable {ds ds' : List Duration}

/-- The tallies of two times together.  Of two longest durations that are as long the first is kept.
-/
def join (s t : PhaseTally) : PhaseTally :=
  { count := s.count + t.count
    total := s.total + t.total
    longest := s.longest.longer t.longest }

/-- The tallies have equal numbers.  The longest duration may be told as a truth value in one of
them and as a number in the other. -/
structure Agrees (s t : PhaseTally) : Prop where
  count : s.count = t.count
  total : s.total = t.total
  longest : s.longest.value = t.longest.value

theorem total_eq (d : Duration) (ds : List Duration) :
    ((d :: ds).map Duration.value).foldr (· + ·) 0 = ((d :: ds).map Duration.value).sum := rfl

theorem ofDurations?_append (ds ds' : List Duration) :
    ofDurations? (ds ++ ds') = Option.merge join (ofDurations? ds) (ofDurations? ds') := by
  cases ds with
  | nil => cases ds' <;> rfl
  | cons d ds =>
    cases ds' with
    | nil => rw [List.append_nil]; rfl
    | cons c cs =>
      have hlongest : (ds ++ c :: cs).foldl longer d =
          (ds.foldl longer d).longer (cs.foldl longer c) := by
        rw [List.foldl_append, List.foldl_cons, foldl_longer]
      have hcount : (d :: (ds ++ c :: cs)).length = (d :: ds).length + (c :: cs).length := by
        rw [← List.cons_append, List.length_append]
      have htotal : ((d :: (ds ++ c :: cs)).map Duration.value).sum =
          ((d :: ds).map Duration.value).sum + ((c :: cs).map Duration.value).sum := by
        rw [← List.cons_append, List.map_append, List.sum_append]
      simp only [List.cons_append, ofDurations?, Option.merge, join, hlongest, total_eq, hcount,
        htotal]

/-- Durations in another order have a tally that agrees. -/
theorem ofDurations?_of_perm (h : ds.Perm ds') :
    Option.Rel Agrees (ofDurations? ds) (ofDurations? ds') := by
  cases ds with
  | nil =>
    obtain rfl := h.nil_eq
    exact .none
  | cons d ds =>
    cases ds' with
    | nil => cases h.eq_nil
    | cons c cs =>
      exact .some ⟨h.length_eq, (h.map Duration.value).sum_eq, value_longest_of_perm h⟩

/-- They have the same tally if none is told as a truth value. -/
theorem ofDurations?_eq_of_perm (h : ds.Perm ds') (hflag : ∀ b, flag b ∉ ds) :
    ofDurations? ds = ofDurations? ds' := by
  cases ds with
  | nil =>
    obtain rfl := h.nil_eq
    rfl
  | cons d ds =>
    cases ds' with
    | nil => cases h.eq_nil
    | cons c cs =>
      have hvalue := value_longest_of_perm h
      -- without flags, durations of one value are the same
      have hlongest : ds.foldl longer d = cs.foldl longer c := by
        have hd := foldl_longer_mem d ds
        have hc := h.mem_iff.mpr (foldl_longer_mem c cs)
        generalize ds.foldl longer d = x at hvalue hd
        generalize cs.foldl longer c = y at hvalue hc
        cases x with
        | flag b => exact absurd hd (hflag b)
        | milliseconds n =>
          cases y with
          | flag b => exact absurd hc (hflag b)
          | milliseconds m => exact congrArg milliseconds hvalue
      have hcount := h.length_eq
      have htotal := (h.map Duration.value).sum_eq
      simp only [ofDurations?, hlongest, hcount, total_eq, htotal]

end PhaseTally

/-! ### Parts of a run -/

section Parts

variable {ps : List Phase} {p : Phase} {f : Phase → List Duration} {es es' : List Event} {e : Event}

/-- The parts that have a tally, each with its tally. -/
def phaseTallies (f : Phase → List Duration) (ps : List Phase) : List (Phase × PhaseTally) :=
  ps.filterMap fun p => (PhaseTally.ofDurations? (f p)).map fun t => (p, t)

theorem phaseTallies_cons (f : Phase → List Duration) (p : Phase) (ps : List Phase) :
    phaseTallies f (p :: ps) = ((PhaseTally.ofDurations? (f p)).map fun t => (p, t)).toList ++
      phaseTallies f ps := by
  unfold phaseTallies
  rw [List.filterMap_cons]
  cases PhaseTally.ofDurations? (f p) <;> rfl

theorem keys_phaseTallies (f : Phase → List Duration) (ps : List Phase) :
    (phaseTallies f ps).map Prod.fst = ps.filter fun p => !(f p).isEmpty := by
  induction ps with
  | nil => rfl
  | cons p ps ih =>
    rw [phaseTallies_cons, List.map_append, ih, List.filter_cons]
    cases f p <;> rfl

/-- What is said of a part is the tally of its durations. -/
theorem lookup_phaseTallies (f : Phase → List Duration) (ps : List Phase) (p : Phase) :
    (phaseTallies f ps).lookup p =
      if ps.contains p then PhaseTally.ofDurations? (f p) else none := by
  induction ps with
  | nil => rfl
  | cons q ps ih =>
    rw [phaseTallies_cons, List.lookup_append, ih, List.contains_cons]
    by_cases hq : p = q
    · subst hq
      cases PhaseTally.ofDurations? (f p) <;> simp
    · have hne : (p == q) = false := beq_eq_false_iff_ne.mpr hq
      cases PhaseTally.ofDurations? (f q) <;> simp [hne, List.lookup_cons]

/-- The counts of the parts sum up to how many durations there are. -/
theorem sum_count_phaseTallies (f : Phase → List Duration) (ps : List Phase) :
    ((phaseTallies f ps).map fun x => x.2.count).sum = (ps.map fun p => (f p).length).sum := by
  induction ps with
  | nil => rfl
  | cons p ps ih =>
    rw [phaseTallies_cons, List.map_append, List.sum_append, ih, List.map_cons, List.sum_cons]
    cases f p <;> rfl

/-- The totals of some parts sum up to all that their durations take. -/
theorem sum_total_phaseTallies (f : Phase → List Duration) (ps : List Phase) :
    (((phaseTallies f ps).filter fun x => x.1.isIdle).map fun x => x.2.total).sum =
      ((ps.filter Phase.isIdle).map fun p => ((f p).map Duration.value).sum).sum := by
  induction ps with
  | nil => rfl
  | cons p ps ih =>
    rw [phaseTallies_cons, List.filter_append, List.map_append, List.sum_append, ih,
      List.filter_cons]
    cases hp : p.isIdle with
    | false => cases f p <;> simp [PhaseTally.ofDurations?, hp]
    | true =>
      cases hf : f p with
      | nil => simp [PhaseTally.ofDurations?, hf]
      | cons d ds =>
        simp only [PhaseTally.ofDurations?, Option.map_some, Option.toList_some, hp, hf, if_true,
          List.filter_cons_of_pos, List.filter_nil, List.map_cons, List.map_nil, List.sum_cons,
          List.sum_nil, add_zero]
        rfl

/-- The durations that events tell about chosen parts. -/
def durations (q : Phase → Bool) (es : List Event) : List Duration :=
  (es.filter fun e => q e.phase).filterMap Event.duration?

theorem durations_append (q : Phase → Bool) (es es' : List Event) :
    durations q (es ++ es') = durations q es ++ durations q es' := by
  rw [durations, List.filter_append, List.filterMap_append]
  rfl

theorem durations_cons (q : Phase → Bool) (e : Event) (es : List Event) :
    durations q (e :: es) = (if q e.phase then e.duration?.toList else []) ++ durations q es := by
  unfold durations
  rw [List.filter_cons]
  cases q e.phase with
  | false => rfl
  | true => cases hd : e.duration? <;> simp [hd]

theorem durations_perm (q : Phase → Bool) (h : es.Perm es') :
    (durations q es).Perm (durations q es') :=
  (h.filter _).filterMap _

theorem mem_durationsOf {d : Duration} :
    d ∈ Tally.durationsOf p es ↔ ∃ e ∈ es, e.phase = p ∧ e.duration? = some d := by
  simp [Tally.durationsOf, and_assoc]

theorem durationsOf_perm (p : Phase) (h : es.Perm es') :
    (Tally.durationsOf p es).Perm (Tally.durationsOf p es') :=
  durations_perm (fun q => decide (q = p)) h

theorem durationsOf_eq (p : Phase) (es : List Event) :
    Tally.durationsOf p es = durations (fun q => decide (q = p)) es := rfl

theorem phases_eq (es : List Event) :
    (Tally.ofEvents es).phases = phaseTallies (fun p => Tally.durationsOf p es) Phase.all := rfl

theorem idle_eq_sum (es : List Event) :
    (Tally.ofEvents es).idle = ((durations Phase.isIdle es).map Duration.value).sum := rfl

theorem Phase.mem_all (p : Phase) : p ∈ Phase.all := by
  cases p <;> decide

/-- Each event that tells a duration tells it of one part. -/
theorem sum_length_durationsOf (es : List Event) :
    (Phase.all.map fun p => (Tally.durationsOf p es).length).sum =
      es.countP fun e => e.duration?.isSome := by
  induction es with
  | nil => rfl
  | cons e es ih =>
    simp only [durationsOf_eq, durations_cons, List.length_append, List.sum_map_add,
      List.countP_cons] at ih ⊢
    rw [ih, Nat.add_comm]
    congr 1
    cases e.phase <;> cases e.duration? <;> rfl

/-- The time spent idling is spent in one of the two idle parts. -/
theorem idle_eq_sum_durationsOf (es : List Event) :
    (Tally.ofEvents es).idle = ((Phase.all.filter Phase.isIdle).map fun p =>
      ((Tally.durationsOf p es).map Duration.value).sum).sum := by
  have hparts : Phase.all.filter Phase.isIdle = [.idleBeforeTeardown, .idleBeforeNext] := rfl
  rw [idle_eq_sum, hparts]
  induction es with
  | nil => rfl
  | cons e es ih =>
    simp only [durationsOf_eq, durations_cons, List.map_append, List.sum_append,
      List.sum_map_add] at ih ⊢
    rw [ih]
    congr 1
    cases e.phase <;> cases e.duration? <;> simp [Phase.isIdle]

end Parts

/-! ### Keeping a tally -/

/-- A tally that is being kept. -/
structure Meter where
  counters : List (String × Nat) := []
  outcomes : List (Outcome × Nat) := []
  /-- The durations that are put down for a part of the run, first to last. -/
  durations : Phase → List Duration := fun _ => []

namespace Meter

variable {es : List Event} {e : Event}

/-- Take an event in. -/
def take (m : Meter) (e : Event) : Meter :=
  { counters := Tally.bump e.kind m.counters
    outcomes := Tally.bump e.outcome m.outcomes
    durations :=
      match e.duration? with
      | some d => Function.update m.durations e.phase (m.durations e.phase ++ [d])
      | none => m.durations }

/-- Take events in, one after the other. -/
def takeAll (m : Meter) (es : List Event) : Meter := es.foldl take m

/-- What the meter shows. -/
def snapshot (m : Meter) : Tally :=
  { counters := m.counters
    outcomes := m.outcomes
    phases := phaseTallies m.durations Phase.all
    idle := ((Phase.all.filter Phase.isIdle).map fun p =>
      ((m.durations p).map Duration.value).sum).sum }

/-- What is put down when some events are in. -/
def reading (es : List Event) : Meter :=
  { counters := Tally.countEach (es.map Event.kind)
    outcomes := Tally.countEach (es.map Event.outcome)
    durations := fun p => Tally.durationsOf p es }

theorem take_reading (es : List Event) (e : Event) :
    (reading es).take e = reading (es ++ [e]) := by
  have hdurations : ∀ p, Tally.durationsOf p (es ++ [e]) =
      Tally.durationsOf p es ++ if e.phase = p then e.duration?.toList else [] := by
    intro p
    simp only [durationsOf_eq, durations_append, durations_cons, decide_eq_true_eq]
    exact congrArg _ (List.append_nil _)
  have hput : (match e.duration? with
      | some d => Function.update (fun p => Tally.durationsOf p es) e.phase
          (Tally.durationsOf e.phase es ++ [d])
      | none => fun p => Tally.durationsOf p es) = fun p => Tally.durationsOf p (es ++ [e]) := by
    funext p
    rw [hdurations]
    by_cases hp : e.phase = p
    · subst hp
      cases e.duration? <;> simp
    · cases e.duration? <;> simp [hp, Function.update_of_ne (Ne.symm hp)]
  simp only [take, reading, hput, List.map_append, List.map_cons, List.map_nil,
    Tally.countEach_concat]

theorem takeAll_reading (es es' : List Event) :
    (reading es).takeAll es' = reading (es ++ es') := by
  induction es' generalizing es with
  | nil => rw [List.append_nil]; rfl
  | cons e es' ih =>
    show ((reading es).take e).takeAll es' = _
    rw [take_reading, ih, List.append_assoc, List.singleton_append]

/-- A meter that has taken events in shows their tally. -/
theorem snapshot_takeAll (es : List Event) :
    (({} : Meter).takeAll es).snapshot = Tally.ofEvents es := by
  have hreading : ({} : Meter).takeAll es = reading es := takeAll_reading [] es
  rw [hreading]
  simp only [snapshot, reading, ← phases_eq, ← idle_eq_sum_durationsOf]
  rfl

end Meter

/-! ### What a tally says -/

namespace Tally

variable {xs ys : List Event}

/-- The third tally says what the other two say together, under each heading. -/
structure Joins (s t u : Tally) : Prop where
  counters : ∀ k, u.counters.lookup k =
    Option.merge (· + ·) (s.counters.lookup k) (t.counters.lookup k)
  outcomes : ∀ o, u.outcomes.lookup o =
    Option.merge (· + ·) (s.outcomes.lookup o) (t.outcomes.lookup o)
  phases : ∀ p, u.phases.lookup p =
    Option.merge PhaseTally.join (s.phases.lookup p) (t.phases.lookup p)
  idle : u.idle = s.idle + t.idle

/-- Two tallies say the same under each heading.  The order of the headings is no matter. -/
structure Agrees (s t : Tally) : Prop where
  counters : ∀ k, s.counters.lookup k = t.counters.lookup k
  outcomes : ∀ o, s.outcomes.lookup o = t.outcomes.lookup o
  phases : ∀ p, Option.Rel PhaseTally.Agrees (s.phases.lookup p) (t.phases.lookup p)
  idle : s.idle = t.idle

/-- A tally has each heading once, and its sums agree with each other and with the events. -/
structure Balances (t : Tally) (es : List Event) : Prop where
  kinds : (t.counters.map Prod.fst).Nodup
  outcomes : (t.outcomes.map Prod.fst).Nodup
  parts : (t.phases.map Prod.fst).Nodup
  sum_counters : (t.counters.map Prod.snd).sum = es.length
  sum_outcomes : (t.outcomes.map Prod.snd).sum = es.length
  sum_counts : (t.phases.map fun x => x.2.count).sum = es.countP fun e => e.duration?.isSome
  mem_parts_iff : ∀ p, p ∈ t.phases.map Prod.fst ↔ ∃ e ∈ es, e.phase = p ∧ e.duration?.isSome
  idle : t.idle = ((t.phases.filter fun x => x.1.isIdle).map fun x => x.2.total).sum

theorem lookup_phases (es : List Event) (p : Phase) :
    (ofEvents es).phases.lookup p = PhaseTally.ofDurations? (durationsOf p es) := by
  rw [phases_eq, lookup_phaseTallies]
  simp [Phase.mem_all p]

theorem ofEvents_joins (xs ys : List Event) :
    (ofEvents xs).Joins (ofEvents ys) (ofEvents (xs ++ ys)) where
  counters k := by
    show (countEach ((xs ++ ys).map Event.kind)).lookup k = _
    rw [List.map_append]
    exact lookup_countEach_append _ _ k
  outcomes o := by
    show (countEach ((xs ++ ys).map Event.outcome)).lookup o = _
    rw [List.map_append]
    exact lookup_countEach_append _ _ o
  phases p := by
    simp only [lookup_phases, durationsOf_eq, durations_append]
    exact PhaseTally.ofDurations?_append _ _
  idle := by
    simp only [idle_eq_sum, durations_append, List.map_append, List.sum_append]

theorem ofEvents_agrees (h : xs.Perm ys) : (ofEvents xs).Agrees (ofEvents ys) where
  counters := lookup_countEach_of_perm (h.map Event.kind)
  outcomes := lookup_countEach_of_perm (h.map Event.outcome)
  phases p := by
    simp only [lookup_phases]
    exact PhaseTally.ofDurations?_of_perm (durationsOf_perm p h)
  idle := ((durations_perm Phase.isIdle h).map Duration.value).sum_eq

/-- The parts of the run have the very same tallies if no duration is told as a truth value. -/
theorem phases_eq_of_perm (h : xs.Perm ys) (hflag : ∀ e ∈ xs, ∀ b, e.duration? ≠ some (.flag b)) :
    (ofEvents xs).phases = (ofEvents ys).phases := by
  rw [phases_eq, phases_eq]
  unfold phaseTallies
  refine List.filterMap_congr fun p _ => ?_
  have hno : ∀ b, Duration.flag b ∉ durationsOf p xs := by
    intro b hb
    obtain ⟨e, he, -, hd⟩ := mem_durationsOf.mp hb
    exact hflag e he b hd
  rw [PhaseTally.ofDurations?_eq_of_perm (durationsOf_perm p h) hno]

theorem ofEvents_balances (es : List Event) : (ofEvents es).Balances es where
  kinds := keys_countEach (es.map Event.kind) ▸ nodup_eraseDups _
  outcomes := keys_countEach (es.map Event.outcome) ▸ nodup_eraseDups _
  parts := by
    rw [phases_eq, keys_phaseTallies]
    exact List.Nodup.filter _ (by decide)
  sum_counters := (sum_countEach _).trans (List.length_map _)
  sum_outcomes := (sum_countEach _).trans (List.length_map _)
  sum_counts := by
    rw [phases_eq, sum_count_phaseTallies]
    exact sum_length_durationsOf es
  mem_parts_iff p := by
    have hsome : (!(durationsOf p es).isEmpty) = true ↔ ∃ d, d ∈ durationsOf p es := by
      rw [Bool.not_eq_true', List.isEmpty_eq_false_iff_exists_mem]
    rw [phases_eq, keys_phaseTallies, List.mem_filter, hsome]
    simp only [Phase.mem_all p, true_and, mem_durationsOf, Option.isSome_iff_exists]
    constructor
    · rintro ⟨d, e, he, hp, hd⟩
      exact ⟨e, he, hp, d, hd⟩
    · rintro ⟨e, he, hp, d, hd⟩
      exact ⟨d, e, he, hp, hd⟩
  idle := by
    rw [idle_eq_sum_durationsOf, phases_eq, sum_total_phaseTallies]

/-- **Tallies do not depend on the order of events.**  The tally of some events is what a meter
shows that has taken them in, and its sums agree with each other and with the number of events.  The
tally of two sequences, one after the other, says what their tallies say together.  If one sequence
has the events of another in a different order, their tallies say the same; the only difference may
be that a longest duration is told as a truth value in one of them and as the number that it counts
as in the other. -/
theorem ofEvents_orderless (xs ys : List Event) :
    (({} : Meter).takeAll xs).snapshot = ofEvents xs ∧ (ofEvents xs).Balances xs ∧
    (ofEvents xs).Joins (ofEvents ys) (ofEvents (xs ++ ys)) ∧
    (xs.Perm ys → (ofEvents xs).Agrees (ofEvents ys) ∧
      ((∀ e ∈ xs, ∀ b, e.duration? ≠ some (.flag b)) →
        (ofEvents xs).phases = (ofEvents ys).phases)) :=
  ⟨Meter.snapshot_takeAll xs, ofEvents_balances xs, ofEvents_joins xs ys,
    fun h => ⟨ofEvents_agrees h, phases_eq_of_perm h⟩⟩

/-- An event that tells a duration. -/
def told (kind : String) (phase : Phase) (duration : Json) : Event :=
  { kind, phase, outcome := .ok, details := [(durationField, duration)] }

/-- Two durations that are as long, one of them told as a truth value. -/
theorem ofEvents_orderless_of_flag :
    let a := told "A" .execute (.bool true)
    let b := told "B" .execute (.int 1)
    let c := told "A" .idleBeforeNext (.int 7)
    [a, b, c].Perm [b, a, c] ∧ (ofEvents [a, b, c]).Agrees (ofEvents [b, a, c]) ∧
      (ofEvents [a, b, c]).phases.lookup .execute = some ⟨2, 2, .flag true⟩ ∧
      (ofEvents [b, a, c]).phases.lookup .execute = some ⟨2, 2, .milliseconds 1⟩ := by
  intro a b c
  have hperm : [a, b, c].Perm [b, a, c] := .swap b a [c]
  obtain ⟨-, -, -, hagrees⟩ := ofEvents_orderless [a, b, c] [b, a, c]
  exact ⟨hperm, (hagrees hperm).1, rfl, rfl⟩

end Tally

end Timebox.Telemetry
