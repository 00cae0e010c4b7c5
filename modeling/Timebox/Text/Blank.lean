/-!
# Blank characters

Two sets of characters count as blank. *Spacing* is the White_Space property of the character
database. *Blank* adds the four information separators U+001C to U+001F. Texts that people write
(identifiers, option values, argument values) are trimmed of blanks; a bare number is trimmed of
spacing only.

Main statements: a trimmed text is empty exactly when all of it was blank (`trim_eq_nil_iff`);
trimming leaves a text alone exactly when no blank stands at either end (`trimWith_eq_self_iff`),
and it takes off whatever of the class stands around a text (`trimWith_pad`).
-/

namespace Timebox.Text

/-- The characters of the White_Space property. -/
def isSpacing (c : Char) : Bool :=
  let n := c.toNat
  (0x09 ≤ n && n ≤ 0x0D) || n == 0x20 || n == 0x85 || n == 0xA0 || n == 0x1680 ||
    (0x2000 ≤ n && n ≤ 0x200A) || n == 0x2028 || n == 0x2029 || n == 0x202F || n == 0x205F ||
    n == 0x3000

/-- Spacing and the four information separators. -/
def isBlank (c : Char) : Bool :=
  isSpacing c || (0x1C ≤ c.toNat && c.toNat ≤ 0x1F)

/-- Drop the characters of a class from both ends. -/
def trimWith (p : Char → Bool) (cs : List Char) : List Char :=
  ((cs.dropWhile p).reverse.dropWhile p).reverse

/-- Drop blanks from both ends. -/
def trim (cs : List Char) : List Char :=
  trimWith isBlank cs

/-- Drop blanks from both ends of a text. -/
def strip (s : String) : String :=
  String.ofList (trim s.toList)

/-- The text holds nothing but blanks. -/
def isAllBlank (s : String) : Bool :=
  s.toList.all isBlank

/-- Dropping a class from the front leaves nothing exactly when every character is of the class. -/
theorem dropWhile_eq_nil_iff_forall (p : Char → Bool) (cs : List Char) :
    cs.dropWhile p = [] ↔ ∀ c ∈ cs, p c = true := by
  induction cs with
  | nil => simp
  | cons c cs ih => cases h : p c <;> simp [List.dropWhile, h, ih]

/-- Trimming leaves nothing exactly when every character is of the class. -/
theorem trimWith_eq_nil_iff (p : Char → Bool) (cs : List Char) :
    trimWith p cs = [] ↔ ∀ c ∈ cs, p c = true := by
  simp only [trimWith, List.reverse_eq_nil_iff, dropWhile_eq_nil_iff_forall, List.mem_reverse]
  induction cs with
  | nil => simp
  | cons c cs ih =>
    cases h : p c
    · simp [List.dropWhile, h]
    · simp [List.dropWhile, h, ih]

/-- Trimming blanks leaves nothing exactly when every character is blank. -/
theorem trim_eq_nil_iff (cs : List Char) : trim cs = [] ↔ ∀ c ∈ cs, isBlank c = true :=
  trimWith_eq_nil_iff isBlank cs

/-- Dropping a class from the front leaves the text alone exactly when it does not begin with the
class. -/
theorem dropWhile_eq_self_iff_head (p : Char → Bool) (cs : List Char) :
    cs.dropWhile p = cs ↔ ∀ c ∈ cs.head?, p c = false := by
  cases cs with
  | nil => simp
  | cons c cs =>
    cases hc : p c with
    | false => simp [List.dropWhile, hc]
    | true =>
      have hshort : (cs.dropWhile p).length ≤ cs.length := (List.dropWhile_suffix p).length_le
      have hne : cs.dropWhile p ≠ c :: cs := by
        intro h
        rw [h, List.length_cons] at hshort
        omega
      simp [List.dropWhile, hc, hne]

/-- Trimming leaves a text alone exactly when it neither begins nor ends with the class. -/
theorem trimWith_eq_self_iff (p : Char → Bool) (cs : List Char) :
    trimWith p cs = cs ↔ (∀ c ∈ cs.head?, p c = false) ∧ ∀ c ∈ cs.getLast?, p c = false := by
  rw [← dropWhile_eq_self_iff_head, ← List.head?_reverse, ← dropWhile_eq_self_iff_head]
  constructor
  · intro h
    have hfront : cs.dropWhile p = cs := by
      refine (List.dropWhile_suffix p).eq_of_length_le ?_
      -- nothing is lost at the back, so nothing was lost at the front
      have hback := (List.dropWhile_suffix p (l := (cs.dropWhile p).reverse)).length_le
      rw [← List.length_reverse, ← trimWith, h, List.length_reverse] at hback
      exact hback
    refine ⟨hfront, ?_⟩
    rw [trimWith, hfront] at h
    rw [← List.reverse_reverse (cs.reverse.dropWhile p), h]
  · rintro ⟨hfront, hback⟩
    rw [trimWith, hfront, hback, List.reverse_reverse]

/-- Whether trimming leaves a text alone does not depend on a character in the middle. -/
theorem trimWith_eq_self_of_middle {p : Char → Bool} {a b : List Char} {c : Char} (ha : a ≠ [])
    (hb : b ≠ []) (h : trimWith p (a ++ c :: b) = a ++ c :: b) (d : Char) :
    trimWith p (a ++ d :: b) = a ++ d :: b := by
  obtain ⟨x, a, rfl⟩ := List.exists_cons_of_ne_nil ha
  obtain ⟨y, b, rfl⟩ := List.exists_cons_of_ne_nil hb
  rw [trimWith_eq_self_iff] at h ⊢
  simpa [List.getLast?_append, List.getLast?_cons] using h

/-- Trimming twice takes nothing more off. -/
theorem trimWith_trimWith (p : Char → Bool) (cs : List Char) :
    trimWith p (trimWith p cs) = trimWith p cs := by
  have hends (ds : List Char) : ∀ c ∈ (ds.dropWhile p).head?, p c = false := by
    intro c hc
    have h := List.head?_dropWhile_not p ds
    rw [Option.mem_def.mp hc] at h
    exact Bool.eq_false_iff.mpr (by simpa using h)
  rw [trimWith_eq_self_iff]
  constructor
  · -- what is left begins as the text does once its front is trimmed
    have hprefix : trimWith p cs <+: cs.dropWhile p := by
      have hsuffix := List.dropWhile_suffix p (l := (cs.dropWhile p).reverse)
      rw [← List.reverse_prefix, List.reverse_reverse] at hsuffix
      exact hsuffix
    intro c hc
    refine hends cs c ?_
    obtain ⟨ds, hds⟩ := hprefix
    rw [← hds, List.head?_append, Option.mem_def.mp hc]
    rfl
  · intro c hc
    rw [trimWith, List.getLast?_reverse] at hc
    exact hends _ c hc

/-- Trimming takes off whatever of the class stands around a text. -/
theorem trimWith_pad {p : Char → Bool} {a b : List Char} (ha : ∀ c ∈ a, p c = true)
    (hb : ∀ c ∈ b, p c = true) (cs : List Char) : trimWith p (a ++ cs ++ b) = trimWith p cs := by
  have hfront : (a ++ cs ++ b).dropWhile p = (cs ++ b).dropWhile p := by
    rw [List.append_assoc, List.dropWhile_append_of_pos ha]
  cases h : (cs.dropWhile p).isEmpty with
  | true =>
    -- nothing is left on either side
    have hcs : ∀ c ∈ cs, p c = true :=
      (dropWhile_eq_nil_iff_forall p cs).mp (List.isEmpty_iff.mp h)
    rw [(trimWith_eq_nil_iff p cs).mpr hcs, trimWith_eq_nil_iff]
    intro c hc
    simp only [List.mem_append] at hc
    rcases hc with (hc | hc) | hc
    · exact ha c hc
    · exact hcs c hc
    · exact hb c hc
  | false =>
    have hback : ∀ c ∈ b.reverse, p c = true := fun c hc => hb c (List.mem_reverse.mp hc)
    rw [trimWith, hfront, List.dropWhile_append, h, if_neg Bool.false_ne_true,
      List.reverse_append, List.dropWhile_append_of_pos hback]
    rfl

end Timebox.Text
