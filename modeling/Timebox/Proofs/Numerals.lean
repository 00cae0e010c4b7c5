import Mathlib.Data.Nat.Digits.Defs
import Timebox.Text.Cut
import Timebox.Text.Integer

/-!
# Numerals

The written forms of integers.  A numeral is a sign or none, and then digits of any scripts, which
single marks may keep apart; it has the value that the positions of its digits give it.  Reading
accepts the numerals that are not too long, and nothing else, and gives their values
(`Text.readInteger_eq_some_iff`).

Each way of reading on behind a digit is a lemma of its own, and reading whole groups of digits
follows from these by induction.
-/

namespace Timebox.Text

/-! ### Written forms -/

/-- A decimal digit of some script. -/
structure Digit where
  char : Char
  value : Nat
  digitValue?_char : digitValue? char = some value

/-- A sign, or none. -/
inductive Sign where
  | none
  | plus
  | minus
  deriving DecidableEq

namespace Sign

/-- How the sign is written. -/
def text : Sign → List Char
  | none => []
  | plus => ['+']
  | minus => ['-']

/-- A magnitude with the sign. -/
def apply : Sign → Nat → Int
  | minus, n => -(n : Int)
  | _, n => n

end Sign

/-- The mark that may stand between digits. -/
def digitMark : Char := '_'

/-- An integer as it is written: digits in groups, which single marks keep apart. -/
structure Numeral where
  sign : Sign
  groups : List (List Digit)
  groups_ne_nil : groups ≠ []
  group_ne_nil : ∀ g ∈ groups, g ≠ []

namespace Numeral

variable (x : Numeral)

/-- The characters of the groups, without the sign. -/
def body : List Char :=
  join digitMark (x.groups.map fun g => g.map Digit.char)

/-- The characters of the numeral. -/
def text : List Char :=
  x.sign.text ++ x.body

/-- All digits, from the highest to the lowest. -/
def digits : List Digit :=
  x.groups.flatten

/-- The numeral is not too long to be read. -/
def IsShort : Prop :=
  x.digits.length ≤ maxDigits

instance : Decidable x.IsShort :=
  inferInstanceAs (Decidable (x.digits.length ≤ maxDigits))

/-- The integer that the sign and the positions of the digits denote. -/
def value : Int :=
  x.sign.apply (Nat.ofDigits 10 (x.digits.map Digit.value).reverse)

end Numeral

/-! ### Digits -/

/-- The number that digits denote is the sum of their values at their positions. -/
theorem ofDigits_eq (base : Nat) (ds : List Nat) :
    ofDigits base ds = Nat.ofDigits base ds.reverse := by
  have hstep : (fun n d : Nat => base * n + d) = fun n d => d + base * n := by
    funext n d
    exact Nat.add_comm (base * n) d
  rw [Nat.ofDigits_eq_foldr, List.foldr_reverse, ofDigits, hstep]
  rfl

namespace Digit

variable (d : Digit) {cs : List Char}

theorem char_ne_of_digitValue?_eq_none {c : Char} (h : digitValue? c = none) : d.char ≠ c := by
  intro hc
  have hvalue := d.digitValue?_char
  rw [hc, h] at hvalue
  cases hvalue

theorem char_ne_digitMark : d.char ≠ digitMark :=
  d.char_ne_of_digitValue?_eq_none (by decide)

/-- No digit of any script is blank. -/
theorem isBlank_char : isBlank d.char = false := by
  have htable : ∀ z ∈ digitZeros, ∀ i : Fin 10, isBlank (Char.ofNat (z + i)) = false := by
    decide +kernel
  obtain ⟨z, hz, -⟩ := Option.map_eq_some_iff.mp d.digitValue?_char
  have hrange := List.find?_some hz
  simp only [Bool.and_eq_true, decide_eq_true_eq] at hrange
  have hchar : Char.ofNat (z + (d.char.toNat - z)) = d.char := by
    rw [Nat.add_sub_cancel' hrange.1, Char.ofNat_toNat]
  have hlt : d.char.toNat - z < 10 := by omega
  have hblank := htable z (List.mem_of_find?_eq_some hz) ⟨d.char.toNat - z, hlt⟩
  rwa [hchar] at hblank

/-- Behind its last digit a number ends. -/
theorem readDigits_last : readDigits digitValue? [d.char] = some [d.value] := by
  rw [readDigits, d.digitValue?_char]
  rfl

/-- Behind a digit and a mark it goes on. -/
theorem readDigits_mark (cs : List Char) :
    readDigits digitValue? (d.char :: digitMark :: cs) =
      (readDigits digitValue? cs).map (d.value :: ·) := by
  rw [digitMark, readDigits, d.digitValue?_char]
  cases readDigits digitValue? cs <;> rfl

/-- It goes on behind a digit with the next one. -/
theorem readDigits_next (e : Digit) (cs : List Char) :
    readDigits digitValue? (d.char :: e.char :: cs) =
      (readDigits digitValue? (e.char :: cs)).map (d.value :: ·) := by
  rw [readDigits, d.digitValue?_char]
  · cases readDigits digitValue? (e.char :: cs) <;> rfl
  · intro h
    cases h
  · intro cs' h
    exact e.char_ne_digitMark (List.cons.inj h).1

end Digit

/-! ### Groups of digits -/

/-- A group of digits is read in front of whatever is read behind it. -/
theorem readDigits_group {g : List Digit} (hg : g ≠ []) {rest : List Char} {ds : List Nat}
    (hrest : ∀ d : Digit, readDigits digitValue? (d.char :: rest) = some (d.value :: ds)) :
    readDigits digitValue? (g.map Digit.char ++ rest) = some (g.map Digit.value ++ ds) := by
  induction g with
  | nil => exact absurd rfl hg
  | cons d g ih =>
    cases g with
    | nil => exact hrest d
    | cons e g =>
      -- between two digits of a group no mark is needed
      have hnext := d.readDigits_next e (g.map Digit.char ++ rest)
      have hread : readDigits digitValue? (e.char :: (g.map Digit.char ++ rest)) =
          some (e.value :: (g.map Digit.value ++ ds)) := ih (List.cons_ne_nil e g)
      rw [hread] at hnext
      exact hnext

/-- Groups that marks keep apart are read as the digits of all of them. -/
theorem readDigits_join {gs : List (List Digit)} (hne : gs ≠ []) (hgs : ∀ g ∈ gs, g ≠ []) :
    readDigits digitValue? (join digitMark (gs.map fun g => g.map Digit.char)) =
      some (gs.flatten.map Digit.value) := by
  induction gs with
  | nil => exact absurd rfl hne
  | cons g gs ih =>
    have hg : g ≠ [] := hgs g List.mem_cons_self
    cases gs with
    | nil =>
      have hread : readDigits digitValue? (g.map Digit.char ++ []) =
          some (g.map Digit.value ++ []) := readDigits_group hg Digit.readDigits_last
      simpa [join] using hread
    | cons h gs =>
      have hrest := ih (List.cons_ne_nil h gs) fun k hk => hgs k (List.mem_cons_of_mem g hk)
      -- behind each digit of the group that is its last one, a mark leads on to the next group
      have hread := readDigits_group hg fun d => by
        rw [d.readDigits_mark, hrest, Option.map_some]
      simpa [join] using hread

/-- Whatever is read consists of such groups. -/
theorem exists_groups_of_readDigits {cs : List Char} {ds : List Nat}
    (h : readDigits digitValue? cs = some ds) :
    ∃ gs : List (List Digit), gs ≠ [] ∧ (∀ g ∈ gs, g ≠ []) ∧
      join digitMark (gs.map fun g => g.map Digit.char) = cs ∧ gs.flatten.map Digit.value = ds := by
  fun_induction readDigits digitValue? cs generalizing ds with
  | case1 => cases h
  | case2 c =>
    obtain ⟨n, hn, rfl⟩ := Option.map_eq_some_iff.mp h
    exact ⟨[[⟨c, n, hn⟩]], by simp, by simp, rfl, rfl⟩
  | case3 c cs ih =>
    simp only [Option.bind_eq_bind, Option.bind_eq_some_iff] at h
    obtain ⟨n, hn, ns, hns, hds⟩ := h
    obtain rfl := Option.some.inj hds
    obtain ⟨gs, hne, hgs, rfl, rfl⟩ := ih hns
    -- the digit is a group of its own
    obtain ⟨g, gs, rfl⟩ := List.exists_cons_of_ne_nil hne
    refine ⟨[⟨c, n, hn⟩] :: g :: gs, by simp, ?_, rfl, by simp⟩
    exact List.forall_mem_cons.mpr ⟨by simp, hgs⟩
  | case4 c cs hsingle hmark ih =>
    simp only [Option.bind_eq_bind, Option.bind_eq_some_iff] at h
    obtain ⟨n, hn, ns, hns, hds⟩ := h
    obtain rfl := Option.some.inj hds
    obtain ⟨gs, hne, hgs, rfl, rfl⟩ := ih hns
    -- the digit belongs to the first group of the rest
    obtain ⟨g, gs, rfl⟩ := List.exists_cons_of_ne_nil hne
    refine ⟨(⟨c, n, hn⟩ :: g) :: gs, by simp, ?_, ?_, by simp⟩
    · exact List.forall_mem_cons.mpr ⟨by simp, fun k hk => hgs k (List.mem_cons_of_mem g hk)⟩
    · cases gs <;> rfl

/-! ### Signs -/

namespace Sign

theorem signed_eq (s : Sign) (n : Nat) : signed (s == minus) n = s.apply n := by
  cases s <;> rfl

theorem isBlank_of_mem_text (s : Sign) {c : Char} (h : c ∈ s.text) : isBlank c = false := by
  cases s with
  | none => cases h
  | plus =>
    obtain rfl := List.mem_singleton.mp h
    decide
  | minus =>
    obtain rfl := List.mem_singleton.mp h
    decide

/-- A sign is taken off if no other sign follows it. -/
theorem takeSign_text (s : Sign) {c : Char} (hminus : c ≠ '-') (hplus : c ≠ '+')
    (cs : List Char) : takeSign (s.text ++ c :: cs) = (s == minus, c :: cs) := by
  cases s with
  | none =>
    show takeSign (c :: cs) = (false, c :: cs)
    unfold takeSign
    split
    · next h => exact absurd (List.cons.inj h).1 hminus
    · next h => exact absurd (List.cons.inj h).1 hplus
    · rfl
  | plus => rfl
  | minus => rfl

/-- Every text has a sign or none in front of what is left of it. -/
theorem exists_of_takeSign (cs : List Char) :
    ∃ s : Sign, cs = s.text ++ (takeSign cs).2 ∧ (takeSign cs).1 = (s == minus) := by
  unfold takeSign
  split
  · exact ⟨minus, rfl, rfl⟩
  · exact ⟨plus, rfl, rfl⟩
  · exact ⟨none, rfl, rfl⟩

end Sign

/-! ### Numerals -/

namespace Numeral

variable (x : Numeral)

/-- A numeral goes on behind its sign with a digit. -/
theorem exists_body_eq : ∃ (d : Digit) (cs : List Char), x.body = d.char :: cs := by
  obtain ⟨g, gs, hgs⟩ := List.exists_cons_of_ne_nil x.groups_ne_nil
  have hg : g ≠ [] := x.group_ne_nil g (hgs ▸ List.mem_cons_self)
  obtain ⟨d, g, rfl⟩ := List.exists_cons_of_ne_nil hg
  unfold body
  rw [hgs]
  cases gs with
  | nil => exact ⟨d, g.map Digit.char, rfl⟩
  | cons h gs => exact ⟨d, _, rfl⟩

theorem takeSign_text : takeSign x.text = (x.sign == .minus, x.body) := by
  obtain ⟨d, cs, hbody⟩ := x.exists_body_eq
  unfold text
  rw [hbody]
  exact x.sign.takeSign_text (d.char_ne_of_digitValue?_eq_none (by decide))
    (d.char_ne_of_digitValue?_eq_none (by decide)) cs

/-- No character of a numeral is blank. -/
theorem isBlank_of_mem_text {c : Char} (h : c ∈ x.text) : isBlank c = false := by
  rcases List.mem_append.mp h with hsign | hbody
  · exact x.sign.isBlank_of_mem_text hsign
  · rcases mem_join hbody with rfl | ⟨g, hg, hc⟩
    · decide
    · obtain ⟨ds, -, rfl⟩ := List.mem_map.mp hg
      obtain ⟨d, -, rfl⟩ := List.mem_map.mp hc
      exact d.isBlank_char

/-- So trimming takes off just what stands around it. -/
theorem trim_pad {before after : List Char} (hbefore : ∀ c ∈ before, isBlank c = true)
    (hafter : ∀ c ∈ after, isBlank c = true) : trim (before ++ x.text ++ after) = x.text := by
  unfold trim
  rw [trimWith_pad hbefore hafter, trimWith_eq_self_iff]
  exact ⟨fun c hc => x.isBlank_of_mem_text (List.mem_of_mem_head? hc),
    fun c hc => x.isBlank_of_mem_text (List.mem_of_mem_getLast? hc)⟩

/-- A numeral is read as its value, unless it is too long. -/
theorem readInteger_text :
    readInteger x.text = if x.IsShort then some x.value else none := by
  have hread : readDigits digitValue? x.body = some (x.digits.map Digit.value) :=
    readDigits_join x.groups_ne_nil x.group_ne_nil
  have hvalue : signed (x.sign == .minus) (ofDigits 10 (x.digits.map Digit.value)) = x.value := by
    rw [Sign.signed_eq, ofDigits_eq]
    rfl
  unfold readInteger
  simp only [takeSign_text, hread, Option.bind_eq_bind, Option.bind_some, hvalue,
    List.length_map]
  rfl

end Numeral

/-- Whatever is read is a numeral. -/
theorem exists_numeral_of_readInteger {cs : List Char} {n : Int} (h : readInteger cs = some n) :
    ∃ x : Numeral, x.text = cs := by
  obtain ⟨s, hcs, -⟩ := Sign.exists_of_takeSign cs
  unfold readInteger at h
  simp only [Option.bind_eq_bind, Option.bind_eq_some_iff] at h
  obtain ⟨ds, hds, -⟩ := h
  obtain ⟨gs, hne, hgs, hbody, -⟩ := exists_groups_of_readDigits hds
  refine ⟨⟨s, gs, hne, hgs⟩, ?_⟩
  rw [hcs, ← hbody]
  rfl

/-- **Reading accepts just the numerals that are not too long.** What is read is their value. -/
theorem readInteger_eq_some_iff {cs : List Char} {n : Int} :
    readInteger cs = some n ↔ ∃ x : Numeral, x.text = cs ∧ x.IsShort ∧ x.value = n := by
  constructor
  · intro h
    obtain ⟨x, rfl⟩ := exists_numeral_of_readInteger h
    rw [x.readInteger_text] at h
    split at h
    · next hshort => exact ⟨x, rfl, hshort, Option.some.inj h⟩
    · cases h
  · rintro ⟨x, rfl, hshort, rfl⟩
    rw [x.readInteger_text, if_pos hshort]

end Timebox.Text
