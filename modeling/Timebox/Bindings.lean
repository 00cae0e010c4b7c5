import Timebox.Value.Text

/-!
# Bindings

Texts bound to keys, in the order in which the keys were first bound, each key at most once.
Journeys read their arguments from bindings, and runs read their options from them. Two bindings
hold the same when every key has the same text in both; the order does not count.

Main statements: look-up after one binding (`get?_set`), after several (`get?_overlay`), and after
laying bindings over others (`get?_overlay_entries`).
-/

namespace Timebox

/-- Bind a key in a list of pairs: in its place if it is there, at the end otherwise. -/
def bindPair (key value : String) : List (String × String) → List (String × String)
  | [] => [(key, value)]
  | (k, v) :: rest => if k = key then (k, value) :: rest else (k, v) :: bindPair key value rest

/-- Binding keeps the keys, and adds the new one at most. -/
theorem mem_keys_bindPair (key value : String) (ps : List (String × String)) (k : String) :
    k ∈ (bindPair key value ps).map Prod.fst ↔ k = key ∨ k ∈ ps.map Prod.fst := by
  induction ps with
  | nil => simp [bindPair]
  | cons p ps ih =>
    obtain ⟨a, b⟩ := p
    by_cases h : a = key
    · simp [bindPair, h]
    · simp only [bindPair, h, if_false, List.map_cons, List.mem_cons, ih]
      grind

/-- Binding keeps keys distinct. -/
theorem nodup_keys_bindPair (key value : String) (ps : List (String × String))
    (h : (ps.map Prod.fst).Nodup) : ((bindPair key value ps).map Prod.fst).Nodup := by
  induction ps with
  | nil => simp [bindPair]
  | cons p ps ih =>
    obtain ⟨a, b⟩ := p
    simp only [List.map_cons, List.nodup_cons] at h
    by_cases e : a = key
    · subst e
      simp only [bindPair, if_true, List.map_cons, List.nodup_cons]
      exact h
    · simp only [bindPair, e, if_false, List.map_cons, List.nodup_cons]
      refine ⟨?_, ih h.2⟩
      rw [mem_keys_bindPair]
      simp [e, h.1]

/-- Texts bound to distinct keys. -/
structure Bindings where
  entries : List (String × String)
  distinct : (entries.map Prod.fst).Nodup
  deriving DecidableEq

namespace Bindings

instance : Repr Bindings := ⟨fun b n => reprPrec b.entries n⟩

/-- Nothing is bound. -/
def empty : Bindings := ⟨[], by simp⟩

instance : Inhabited Bindings := ⟨empty⟩

/-- Bind one key. -/
def set (b : Bindings) (key value : String) : Bindings :=
  ⟨bindPair key value b.entries, nodup_keys_bindPair key value b.entries b.distinct⟩

/-- Bind keys from left to right; the last text of a repeated key counts. -/
def overlay (b : Bindings) (pairs : List (String × String)) : Bindings :=
  pairs.foldl (fun b p => b.set p.1 p.2) b

/-- Bindings from pairs. -/
def ofPairs (pairs : List (String × String)) : Bindings :=
  empty.overlay pairs

/-- Bindings from dynamic values by their displays. -/
def ofEntries (entries : List (Value × Value)) : Bindings :=
  ofPairs (entries.map fun (k, v) => (k.display, v.display))

/-- The text of a key. -/
def get? (b : Bindings) (key : String) : Option String :=
  b.entries.lookup key

/-- The key is bound. -/
def contains (b : Bindings) (key : String) : Bool :=
  (b.get? key).isSome

/-- How many keys are bound. -/
def size (b : Bindings) : Nat :=
  b.entries.length

/-- Every key has the same text in both. -/
def sameAs (a b : Bindings) : Bool :=
  a.size == b.size && a.entries.all fun (k, v) => b.get? k == some v

/-- Look-up after binding one key. -/
theorem get?_set (b : Bindings) (key value k : String) :
    (b.set key value).get? k = if k = key then some value else b.get? k := by
  show (bindPair key value b.entries).lookup k = if k = key then some value else b.entries.lookup k
  generalize b.entries = ps
  induction ps with
  | nil =>
    by_cases h : k = key
    · simp [bindPair, h]
    · have hk : (k == key) = false := by simpa using h
      simp [bindPair, List.lookup_cons, h, hk]
  | cons p ps ih =>
    obtain ⟨a, c⟩ := p
    by_cases e : a = key
    · subst e
      by_cases h : k = a
      · simp [bindPair, h]
      · have hk : (k == a) = false := by simpa using h
        simp [bindPair, List.lookup_cons, h, hk]
    · by_cases h : k = a
      · subst h
        simp [bindPair, e]
      · have hk : (k == a) = false := by simpa using h
        simp [bindPair, e, List.lookup_cons, hk, ih]

/-- Look-up after binding several keys: the last pair of the key, or what was there before. -/
theorem get?_overlay (b : Bindings) (pairs : List (String × String)) (k : String) :
    (b.overlay pairs).get? k = ((pairs.reverse.lookup k).or (b.get? k)) := by
  induction pairs generalizing b with
  | nil => simp [overlay]
  | cons p ps ih =>
    have : b.overlay (p :: ps) = (b.set p.1 p.2).overlay ps := rfl
    rw [this, ih, get?_set]
    obtain ⟨a, c⟩ := p
    simp only [List.reverse_cons, List.lookup_append]
    cases h : ps.reverse.lookup k with
    | some x => simp
    | none =>
      by_cases e : k = a
      · simp [e]
      · have hk : (k == a) = false := by simpa using e
        simp [List.lookup_cons, e, hk]

/-- A key that is bound once is found from either end. -/
theorem lookup_reverse_of_nodup {ps : List (String × String)} (h : (ps.map Prod.fst).Nodup)
    (k : String) : ps.reverse.lookup k = ps.lookup k := by
  induction ps with
  | nil => rfl
  | cons p ps ih =>
    obtain ⟨a, c⟩ := p
    obtain ⟨ha, hps⟩ := List.nodup_cons.mp h
    rw [List.reverse_cons, List.lookup_append, ih hps]
    by_cases hk : k = a
    · subst hk
      have hnone : ps.lookup k = none := by
        rw [List.lookup_eq_none_iff]
        intro p hp
        have hne : k ≠ p.1 := fun hkp => ha (List.mem_map.mpr ⟨p, hp, hkp.symm⟩)
        simpa using hne
      simp [hnone]
    · have hka : (k == a) = false := by simpa using hk
      simp [List.lookup_cons, hka]

/-- Look-up after laying bindings over others. -/
theorem get?_overlay_entries (b upper : Bindings) (k : String) :
    (b.overlay upper.entries).get? k = (upper.get? k).or (b.get? k) := by
  rw [get?_overlay, lookup_reverse_of_nodup upper.distinct]
  rfl

end Bindings

end Timebox
