import Timebox.Proofs.Numerals
import Timebox.Value.Text

/-!
# Integers that read back

The text of an integer is a numeral (`Text.exists_numeral_of_toString`), and read as the integer if
it is not too long.  The same goes for the numerals that have more zeros in front of the same
digits, keep them apart with marks, and stand between blanks (`Text.writes_of_respells`).
-/

namespace Timebox.Text

/-! ### Western digits -/

theorem digitValue?_of_isDigit {c : Char} (h : c.isDigit = true) :
    digitValue? c = some (c.toNat - '0'.toNat) := by
  have hbounds : 0x30 ≤ c.toNat ∧ c.toNat ≤ 0x39 := Char.isDigit_iff_toNat.mp h
  have hlt : c.toNat - 0x30 < 10 := by omega
  have hwestern : westernDigit (c.toNat - 0x30) = c := by
    unfold westernDigit
    rw [Nat.mod_eq_of_lt hlt, Nat.add_sub_cancel' hbounds.1, Char.ofNat_toNat]
  have hread := digitValue?_westernDigit _ hlt
  rwa [hwestern] at hread

theorem isDigit_of_mem_toDigits {n : Nat} {c : Char} (h : c ∈ Nat.toDigits 10 n) :
    c.isDigit = true :=
  Nat.isDigit_of_mem_toDigits (by decide) (by decide) h

theorem exists_digits {cs : List Char} (h : ∀ c ∈ cs, c.isDigit = true) :
    ∃ ds : List Digit, ds.map Digit.char = cs := by
  induction cs with
  | nil => exact ⟨[], rfl⟩
  | cons c cs ih =>
    obtain ⟨hc, hcs⟩ := List.forall_mem_cons.mp h
    obtain ⟨ds, rfl⟩ := ih hcs
    exact ⟨⟨c, c.toNat - '0'.toNat, digitValue?_of_isDigit hc⟩ :: ds, rfl⟩

/-- The values of digits can be told from their characters. -/
theorem map_value_eq {ds : List Digit} (h : ∀ c ∈ ds.map Digit.char, c.isDigit = true) :
    ds.map Digit.value = (ds.map Digit.char).map fun c => c.toNat - '0'.toNat := by
  rw [List.map_map]
  refine List.map_congr_left fun d hd => ?_
  have hvalue := digitValue?_of_isDigit (h d.char (List.mem_map_of_mem hd))
  exact Option.some.inj (d.digitValue?_char.symm.trans hvalue)

/-- Digits that begin with zeros denote what the digits of a number behind them do. -/
theorem ofDigits_of_zeros {ds : List Digit} {zeros n : Nat}
    (h : ds.map Digit.char = List.replicate zeros '0' ++ Nat.toDigits 10 n) :
    Nat.ofDigits 10 (ds.map Digit.value).reverse = n := by
  have hdigit : ∀ c ∈ ds.map Digit.char, c.isDigit = true := by
    intro c hc
    rw [h] at hc
    rcases List.mem_append.mp hc with hc | hc
    · rw [List.eq_of_mem_replicate hc]
      decide
    · exact isDigit_of_mem_toDigits hc
  rw [map_value_eq hdigit, h, List.map_append, List.map_replicate, List.reverse_append,
    List.reverse_replicate]
  -- with the least digit first, the leading zeros come last and count for nothing
  show Nat.ofDigits 10 (_ ++ List.replicate zeros 0) = n
  rw [Nat.ofDigits_append_replicate_zero, ← ofDigits_eq, ofDigits, List.foldl_map]
  exact Nat.ofDigitChars_ten_toDigits

/-! ### Texts of integers -/

/-- The sign with which the text of an integer begins. -/
def Sign.of (n : Int) : Sign :=
  if n < 0 then minus else none

theorem Sign.apply_of (n : Int) : (Sign.of n).apply n.natAbs = n := by
  unfold Sign.of
  split
  · next h =>
    show -(n.natAbs : Int) = n
    omega
  · next h =>
    show (n.natAbs : Int) = n
    omega

/-- The text of an integer is its sign in front of the digits of its magnitude. -/
theorem toList_toString (n : Int) :
    (toString n).toList = (Sign.of n).text ++ Nat.toDigits 10 n.natAbs := by
  cases n with
  | ofNat k =>
    have hsign : Sign.of (.ofNat k) = .none := if_neg (Int.not_lt.mpr (Int.natCast_nonneg k))
    rw [hsign]
    exact Nat.toList_repr
  | negSucc k =>
    have hsign : Sign.of (.negSucc k) = .minus := if_pos (Int.negSucc_lt_zero k)
    rw [hsign]
    show ("-" ++ Nat.repr (k + 1)).toList = _
    rw [String.toList_append, Nat.toList_repr]
    rfl

namespace Numeral

variable {x : Numeral} {n : Int}

/-- The numeral has the sign and the digits of an integer's text, but that there may be zeros in
front of the digits. -/
def Respells (x : Numeral) (n : Int) : Prop :=
  x.sign = Sign.of n ∧
    ∃ zeros, x.digits.map Digit.char = List.replicate zeros '0' ++ Nat.toDigits 10 n.natAbs

/-- It has the value of the integer, however the digits are grouped. -/
theorem Respells.value (h : x.Respells n) : x.value = n := by
  obtain ⟨hsign, zeros, hdigits⟩ := h
  unfold Numeral.value
  rw [hsign, ofDigits_of_zeros hdigits, Sign.apply_of]

theorem isShort_of_digits (hdigits : x.digits.map Digit.char = Nat.toDigits 10 n.natAbs)
    (h : Value.isWritableInteger n = true) : x.IsShort := by
  have hn : n.natAbs < Nat.pow 10 maxDigits := of_decide_eq_true h
  have hpos : 0 < maxDigits := by decide
  unfold IsShort
  rw [← List.length_map Digit.char, hdigits]
  -- the power of ten is too large to be computed
  generalize maxDigits = most at hn hpos ⊢
  exact (Nat.length_toDigits_le_iff (by decide) hpos).mpr hn

end Numeral

/-- The text of an integer is a numeral, and not too long if the integer has a text at all. -/
theorem exists_numeral_of_toString (n : Int) :
    ∃ x : Numeral, x.text = (toString n).toList ∧ x.Respells n ∧
      (Value.isWritableInteger n = true → x.IsShort) := by
  obtain ⟨ds, hds⟩ := exists_digits fun _ => isDigit_of_mem_toDigits (n := n.natAbs)
  have hne : ds ≠ [] := by
    intro h
    rw [h] at hds
    exact Nat.toDigits_ne_nil hds.symm
  let x : Numeral := ⟨Sign.of n, [ds], by simp, by simpa using hne⟩
  have hdigits : x.digits.map Digit.char = Nat.toDigits 10 n.natAbs := by
    show ([ds].flatten).map Digit.char = _
    rw [List.flatten_singleton, hds]
  refine ⟨x, ?_, ⟨rfl, 0, hdigits⟩, Numeral.isShort_of_digits hdigits⟩
  rw [toList_toString, ← hds]
  rfl

/-! ### Reading between blanks -/

/-- Without the blanks around it, the text is a numeral that is not too long, and the integer is
its value. -/
def Writes (s : String) (n : Int) : Prop :=
  ∃ x : Numeral, x.text = trim s.toList ∧ x.IsShort ∧ x.value = n

/-- Reading between blanks gives the integer that a text writes. -/
theorem readBlankedInteger_eq_some_iff {s : String} {n : Int} :
    readBlankedInteger s = some n ↔ Writes s n :=
  readInteger_eq_some_iff

theorem readBlankedInteger_eq_none_iff {s : String} :
    readBlankedInteger s = none ↔ ∀ n, ¬ Writes s n := by
  rw [Option.eq_none_iff_forall_ne_some]
  exact forall_congr' fun n => not_congr readBlankedInteger_eq_some_iff

/-- Nothing is read off blanks. -/
theorem readBlankedInteger_of_isAllBlank {s : String} (h : isAllBlank s = true) :
    readBlankedInteger s = none := by
  unfold readBlankedInteger
  rw [(trim_eq_nil_iff _).mpr (List.all_eq_true.mp h)]
  rfl

/-- What may be said is blanks, if it is anything, or else a text that can be read. -/
theorem unsaid_or_said (said : Option String) :
    (∀ s ∈ said, isAllBlank s = true) ∨ ∃ s, said = some s ∧ isAllBlank s = false := by
  cases said with
  | none => exact .inl fun s hs => nomatch hs
  | some s =>
    cases hblank : isAllBlank s with
    | true =>
      refine .inl fun t ht => ?_
      obtain rfl := Option.some.inj ht
      exact hblank
    | false => exact .inr ⟨s, rfl, hblank⟩

/-- A text that writes an integer is not blank. -/
theorem Writes.isAllBlank_eq_false {s : String} {n : Int} (h : Writes s n) :
    isAllBlank s = false := by
  rw [← readBlankedInteger_eq_some_iff] at h
  refine Bool.eq_false_iff.mpr fun hblank => ?_
  rw [readBlankedInteger_of_isAllBlank hblank] at h
  cases h

/-- Every numeral that respells an integer writes it, whatever blanks stand around that. -/
theorem writes_of_respells {x : Numeral} {n : Int} (h : x.Respells n) (hshort : x.IsShort)
    {before after : List Char} (hbefore : ∀ c ∈ before, isBlank c = true)
    (hafter : ∀ c ∈ after, isBlank c = true) :
    Writes (String.ofList (before ++ x.text ++ after)) n := by
  refine ⟨x, ?_, hshort, h.value⟩
  rw [String.toList_ofList, x.trim_pad hbefore hafter]

/-- An integer that has a text is read off it. -/
theorem readBlankedInteger_toString {n : Int} (h : Value.isWritableInteger n = true) :
    readBlankedInteger (toString n) = some n := by
  obtain ⟨x, htext, hspells, hshort⟩ := exists_numeral_of_toString n
  have hwrites := writes_of_respells hspells (hshort h) (List.forall_mem_nil _)
    (List.forall_mem_nil _)
  rw [List.nil_append, List.append_nil, htext, String.ofList_toList] at hwrites
  exact readBlankedInteger_eq_some_iff.mpr hwrites

end Timebox.Text
