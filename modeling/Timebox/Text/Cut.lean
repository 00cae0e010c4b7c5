/-!
# Cutting texts

A text is cut at the first occurrence of a mark, or at all of them, and pieces are joined again.
Cutting at every mark always yields at least one piece: a text without the mark is its own only
piece.

Main statements: a text is cut at the first mark in it and nowhere else (`cutFirst_eq_some_iff`,
and for a mark of two characters `cutFirstPair_append` and `cutFirstPair_eq_none_iff`); joining the
pieces of a text and cutting joined pieces undo each other (`join_pieces`, `pieces_join`), and the
pieces of joined texts are those of each (`pieces_join_flatMap`, `splitAt_intercalate`).
-/

namespace Timebox.Text

/-- The parts before and after the first occurrence of a mark, if there is one. -/
def cutFirst (mark : Char) : List Char → Option (List Char × List Char)
  | [] => none
  | c :: cs => if c = mark then some ([], cs) else (cutFirst mark cs).map fun (a, b) => (c :: a, b)

/-- The parts before and after the first occurrence of a mark of two characters. -/
def cutFirstPair (m₁ m₂ : Char) : List Char → Option (List Char × List Char)
  | [] => none
  | [_] => none
  | c :: d :: cs =>
    if c = m₁ ∧ d = m₂ then some ([], cs)
    else (cutFirstPair m₁ m₂ (d :: cs)).map fun (a, b) => (c :: a, b)

/-- The pieces between the occurrences of a mark. -/
def pieces (mark : Char) : List Char → List (List Char)
  | [] => [[]]
  | c :: cs =>
    if c = mark then [] :: pieces mark cs
    else match pieces mark cs with
      | [] => [[c]]
      | p :: ps => (c :: p) :: ps

/-- The pieces of a text between the occurrences of a mark. -/
def splitAt (mark : Char) (s : String) : List String :=
  (pieces mark s.toList).map String.ofList

/-- Join pieces with a mark between neighbours. -/
def join (mark : Char) : List (List Char) → List Char
  | [] => []
  | [p] => p
  | p :: q :: ps => p ++ mark :: join mark (q :: ps)

/-- Join texts with a mark between neighbours. -/
def joinTexts (mark : Char) (ss : List String) : String :=
  String.ofList (join mark (ss.map String.toList))

/-! ### The first occurrence -/

section First

variable {mark m₁ m₂ : Char} {cs a b : List Char}

/-- A text is cut at its first mark. -/
theorem cutFirst_append (h : mark ∉ a) (b : List Char) :
    cutFirst mark (a ++ mark :: b) = some (a, b) := by
  induction a with
  | nil => rw [List.nil_append, cutFirst, if_pos rfl]
  | cons c a ih =>
    have hc : c ≠ mark := fun hc => h (hc ▸ List.mem_cons_self)
    have ha : mark ∉ a := fun ha => h (List.mem_cons_of_mem c ha)
    rw [List.cons_append, cutFirst, if_neg hc, ih ha]
    rfl

/-- A text is not cut if the mark is not in it. -/
theorem cutFirst_eq_none_iff : cutFirst mark cs = none ↔ mark ∉ cs := by
  induction cs with
  | nil => simp [cutFirst]
  | cons c cs ih =>
    rw [cutFirst]
    by_cases hc : c = mark
    · simp [hc]
    · simp [hc, ih, Ne.symm hc]

/-- A text is cut where the first mark in it stands, and nowhere else. -/
theorem cutFirst_eq_some_iff : cutFirst mark cs = some (a, b) ↔ cs = a ++ mark :: b ∧ mark ∉ a := by
  constructor
  · intro h
    have hmark : mark ∈ cs := by
      refine Decidable.byContradiction fun hmark => ?_
      rw [cutFirst_eq_none_iff.mpr hmark] at h
      cases h
    obtain ⟨a', b', rfl, ha'⟩ := List.eq_append_cons_of_mem hmark
    rw [cutFirst_append ha'] at h
    cases h
    exact ⟨rfl, ha'⟩
  · rintro ⟨rfl, ha⟩
    exact cutFirst_append ha b

/-- Two characters stand side by side at the front of a text or further on. -/
theorem pair_infix_cons_cons {c d : Char} :
    [m₁, m₂] <:+: c :: d :: cs ↔ (c = m₁ ∧ d = m₂) ∨ [m₁, m₂] <:+: d :: cs := by
  rw [List.infix_cons_iff]
  simp only [List.cons_prefix_cons, List.nil_prefix, and_true, eq_comm]

theorem not_pair_infix_singleton {c : Char} : ¬ [m₁, m₂] <:+: [c] := by
  intro h
  have hlength := h.length_le
  simp at hlength

/-- A mark of two characters that occurs has a first occurrence. -/
theorem exists_first_pair (h : [m₁, m₂] <:+: cs) :
    ∃ a b, cs = a ++ m₁ :: m₂ :: b ∧ ¬ [m₁, m₂] <:+: a := by
  induction cs with
  | nil => simp at h
  | cons c cs ih =>
    cases cs with
    | nil => exact absurd h not_pair_infix_singleton
    | cons d cs =>
      by_cases hc : c = m₁ ∧ d = m₂
      · obtain ⟨rfl, rfl⟩ := hc
        exact ⟨[], cs, rfl, by simp⟩
      · obtain ⟨a, b, hcs, ha⟩ := ih ((pair_infix_cons_cons.mp h).resolve_left hc)
        refine ⟨c :: a, b, by rw [hcs, List.cons_append], ?_⟩
        -- the mark is not in `a`, and neither does `c` begin one
        cases a with
        | nil => exact not_pair_infix_singleton
        | cons e a =>
          obtain rfl : d = e := (List.cons.inj hcs).1
          exact fun ha' => (pair_infix_cons_cons.mp ha').elim hc ha

/-- A text is cut at the first mark of two characters. The two differ, so the first of them does not
make a mark with what stands before it. -/
theorem cutFirstPair_append (hne : m₁ ≠ m₂) (h : ¬ [m₁, m₂] <:+: a) (b : List Char) :
    cutFirstPair m₁ m₂ (a ++ m₁ :: m₂ :: b) = some (a, b) := by
  induction a with
  | nil => simp [cutFirstPair]
  | cons c a ih =>
    cases a with
    | nil => simp [cutFirstPair, hne]
    | cons d a =>
      rw [pair_infix_cons_cons, not_or] at h
      rw [List.cons_append, List.cons_append, cutFirstPair, if_neg h.1, ← List.cons_append,
        ih h.2]
      rfl

/-- A text is not cut if the mark of two characters is not in it. -/
theorem cutFirstPair_eq_none_iff : cutFirstPair m₁ m₂ cs = none ↔ ¬ [m₁, m₂] <:+: cs := by
  fun_induction cutFirstPair m₁ m₂ cs with
  | case1 => simp
  | case2 c => simp [not_pair_infix_singleton]
  | case3 c d cs h => simp [pair_infix_cons_cons, h]
  | case4 c d cs h ih => simp only [Option.map_eq_none_iff, ih, pair_infix_cons_cons, h, false_or]

end First

/-! ### All occurrences -/

/-- There is always a first piece. -/
theorem pieces_ne_nil (mark : Char) (cs : List Char) : pieces mark cs ≠ [] := by
  cases cs with
  | nil => simp [pieces]
  | cons c cs =>
    simp only [pieces]
    split
    · simp
    · split <;> simp

/-- Joining the pieces gives the text back. -/
theorem join_pieces (mark : Char) (cs : List Char) : join mark (pieces mark cs) = cs := by
  induction cs with
  | nil => rfl
  | cons c cs ih =>
    simp only [pieces]
    split
    · next h =>
      subst h
      revert ih
      cases hp : pieces c cs with
      | nil => exact absurd hp (pieces_ne_nil c cs)
      | cons p ps => intro ih; simp [join, ih]
    · revert ih
      cases hp : pieces mark cs with
      | nil => exact absurd hp (pieces_ne_nil mark cs)
      | cons p ps =>
        intro ih
        cases ps with
        | nil => simp only [join] at ih ⊢; rw [ih]
        | cons q ps => simp only [join, List.cons_append] at ih ⊢; rw [ih]

section All

variable {mark : Char} {p : List Char} {ps qs : List (List Char)}

/-- A character that is not the mark stands at the front of the first piece. -/
theorem exists_pieces_cons {c : Char} (hc : c ≠ mark) (cs : List Char) :
    ∃ p ps, pieces mark (c :: cs) = (c :: p) :: ps := by
  obtain ⟨p, ps, hcs⟩ := List.exists_cons_of_ne_nil (pieces_ne_nil mark cs)
  exact ⟨p, ps, by simp only [pieces, if_neg hc, hcs]⟩

/-- A text without the mark is its own only piece. -/
theorem pieces_of_not_mem (h : mark ∉ p) : pieces mark p = [p] := by
  induction p with
  | nil => rfl
  | cons c p ih =>
    have hc : c ≠ mark := fun hc => h (hc ▸ List.mem_cons_self)
    have hp : mark ∉ p := fun hp => h (List.mem_cons_of_mem c hp)
    simp only [pieces, if_neg hc, ih hp]

/-- The mark is in none of the pieces. -/
theorem not_mem_of_mem_pieces {cs : List Char} (h : p ∈ pieces mark cs) : mark ∉ p := by
  induction cs generalizing p with
  | nil =>
    obtain rfl := List.mem_singleton.mp h
    exact List.not_mem_nil
  | cons c cs ih =>
    by_cases hc : c = mark
    · rw [pieces, if_pos hc] at h
      rcases List.mem_cons.mp h with rfl | h
      · exact List.not_mem_nil
      · exact ih h
    · obtain ⟨q, qs, hq⟩ := List.exists_cons_of_ne_nil (pieces_ne_nil mark cs)
      rw [pieces, if_neg hc, hq] at h
      rw [hq] at ih
      rcases List.mem_cons.mp h with rfl | h
      · rw [List.mem_cons, not_or]
        exact ⟨Ne.symm hc, ih List.mem_cons_self⟩
      · exact ih (List.mem_cons_of_mem q h)

/-- A mark cuts what stands before it from what follows. -/
theorem pieces_append_mark (p cs : List Char) :
    pieces mark (p ++ mark :: cs) = pieces mark p ++ pieces mark cs := by
  induction p with
  | nil => simp only [List.nil_append, pieces, if_true, List.singleton_append]
  | cons c p ih =>
    by_cases hc : c = mark
    · simp only [List.cons_append, pieces, if_pos hc, ih]
    · obtain ⟨q, qs, hq⟩ := List.exists_cons_of_ne_nil (pieces_ne_nil mark p)
      simp only [List.cons_append, pieces, if_neg hc, ih, hq]

/-- The first piece ends at the first mark. -/
theorem pieces_append (h : mark ∉ p) (cs : List Char) :
    pieces mark (p ++ mark :: cs) = p :: pieces mark cs := by
  rw [pieces_append_mark, pieces_of_not_mem h, List.singleton_append]

/-- Pieces that are free of the mark come back from the text that they are joined to. -/
theorem pieces_join (hne : ps ≠ []) (h : ∀ p ∈ ps, mark ∉ p) : pieces mark (join mark ps) = ps := by
  induction ps with
  | nil => exact absurd rfl hne
  | cons p ps ih =>
    have hp : mark ∉ p := h p List.mem_cons_self
    cases ps with
    | nil => rw [join, pieces_of_not_mem hp]
    | cons q qs =>
      rw [join, pieces_append hp, ih (by simp) fun r hr => h r (List.mem_cons_of_mem p hr)]

/-- The pieces of joined texts are those of each. -/
theorem pieces_join_flatMap (hne : ps ≠ []) :
    pieces mark (join mark ps) = ps.flatMap (pieces mark) := by
  induction ps with
  | nil => exact absurd rfl hne
  | cons p ps ih =>
    cases ps with
    | nil => rw [join, List.flatMap_singleton]
    | cons q qs =>
      rw [join, pieces_append_mark, ih (by simp)]
      rfl

theorem join_eq_intercalate (mark : Char) (ps : List (List Char)) :
    join mark ps = [mark].intercalate ps := by
  fun_induction join mark ps with
  | case1 => rfl
  | case2 p => rw [List.intercalate_singleton]
  | case3 p q ps ih =>
    rw [List.intercalate_cons_cons, ih, List.append_assoc, List.singleton_append]

/-- The same for texts: those of each text stand side by side. -/
theorem splitAt_intercalate (mark : Char) {ss : List String} (hne : ss ≠ []) :
    splitAt mark ((String.ofList [mark]).intercalate ss) = ss.flatMap (splitAt mark) := by
  rw [splitAt, String.toList_intercalate, String.toList_ofList, ← join_eq_intercalate,
    pieces_join_flatMap (by simpa using hne), List.flatMap_map, List.map_flatMap]
  rfl

/-- A mark joins what two lists of pieces are joined to. -/
theorem join_append (hp : ps ≠ []) (hq : qs ≠ []) :
    join mark (ps ++ qs) = join mark ps ++ mark :: join mark qs := by
  induction ps with
  | nil => exact absurd rfl hp
  | cons p ps ih =>
    cases ps with
    | nil =>
      obtain ⟨q, qs, rfl⟩ := List.exists_cons_of_ne_nil hq
      rfl
    | cons p' ps =>
      have hrest : join mark (p' :: (ps ++ qs)) = join mark (p' :: ps) ++ mark :: join mark qs :=
        ih (by simp)
      simp only [List.cons_append, join, hrest, List.append_assoc]

/-- The characters of joined pieces are the mark and those of the pieces. -/
theorem mem_join {c : Char} (h : c ∈ join mark ps) : c = mark ∨ ∃ p ∈ ps, c ∈ p := by
  induction ps with
  | nil => cases h
  | cons p ps ih =>
    cases ps with
    | nil => exact .inr ⟨p, List.mem_cons_self, h⟩
    | cons q ps =>
      rw [join, List.mem_append, List.mem_cons] at h
      rcases h with h | h | h
      · exact .inr ⟨p, List.mem_cons_self, h⟩
      · exact .inl h
      · rcases ih h with h | ⟨r, hr, h⟩
        · exact .inl h
        · exact .inr ⟨r, List.mem_cons_of_mem p hr, h⟩

end All

end Timebox.Text
