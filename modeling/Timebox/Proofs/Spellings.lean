import Mathlib.Logic.Basic
import Timebox.Scenario

/-!
# Two spellings of extra arguments

Extra arguments may be written as a mapping or as a list of records.  With scalars as values, both
are accepted if every value has a text at all (`ScalarArgument.IsWritable`), and else neither is.
They give the same keys with the same texts, truth values apart: a mapping gives the display of the
value, and a record gives truth values in small letters.  So the two spellings agree exactly if
there is no truth value (`Scenario.spellings_agree_iff`).
-/

namespace Timebox

open Validation

/-! ### Scalars -/

/-- A value without parts that stands for itself. -/
inductive Scalar where
  | text (s : String)
  | int (n : Int)
  | real (x : Binary64)
  | bool (b : Bool)

namespace Scalar

/-- The scalar as a value. -/
def value : Scalar → Value
  | text s => .text s
  | int n => .int n
  | real x => .real x
  | bool b => .bool b

/-- The text of the scalar in a record. -/
def word : Scalar → String
  | bool b => if b then "true" else "false"
  | x => x.value.display

/-- The scalar is a truth value. -/
def IsTruth (x : Scalar) : Prop :=
  ∃ b, x = bool b

theorem scalarText?_value (x : Scalar) : ExtraArgument.scalarText? x.value = some x.word := by
  cases x <;> rfl

theorem word_eq_display_iff (x : Scalar) : x.word = x.value.display ↔ ¬ x.IsTruth := by
  cases x with
  | bool b => cases b <;> simp [word, value, Value.display, Value.listing, IsTruth]
  | _ => simp [word, IsTruth]

end Scalar

/-- An argument with a scalar as its value. -/
structure ScalarArgument where
  key : String
  key_ne_empty : key ≠ ""
  scalar : Scalar

namespace ScalarArgument

/-- The argument as a record. -/
def record (x : ScalarArgument) : Value :=
  .map [(.text "key", .text x.key), (.text "value", x.scalar.value)]

/-- Arguments as a list of records. -/
def records (xs : List ScalarArgument) : Value :=
  .list (xs.map record)

/-- Arguments as a mapping. -/
def mapping (xs : List ScalarArgument) : Value :=
  .map (xs.map fun x => (.text x.key, x.scalar.value))

/-- Every value has a text. -/
def IsWritable (xs : List ScalarArgument) : Prop :=
  ∀ x ∈ xs, x.scalar.value.isWritable = true

end ScalarArgument

/-- An integer of few enough digits has a text. -/
theorem Value.isWritableInteger_of_lt {n : Int} {digits : Nat} (hdigits : digits ≤ Text.maxDigits)
    (h : n.natAbs < Nat.pow 10 digits) : isWritableInteger n = true := by
  unfold isWritableInteger
  -- the power of ten is too large to be computed
  generalize Text.maxDigits = most at hdigits ⊢
  exact decide_eq_true (Nat.lt_of_lt_of_le h (Nat.pow_le_pow_right (by decide) hdigits))

/-! ### Lists of items -/

namespace Validation

variable {α β : Type} {check : Value → Checked α} {f : β → Value} {g : β → α} {xs : List β}

/-- A list is accepted if each of its members is. -/
theorem checkItems_of_ok (h : ∀ x ∈ xs, check (f x) = .ok (g x)) (position : Nat) :
    checkItems check position (xs.map f) = .ok (xs.map g) := by
  induction xs generalizing position with
  | nil => rfl
  | cons x xs ih =>
    rw [List.map_cons, checkItems, h x List.mem_cons_self,
      ih (fun y hy => h y (List.mem_cons_of_mem x hy)) (position + 1)]
    rfl

/-- A list is refused if one of its members is. -/
theorem checkItems_of_error (h : ∃ x ∈ xs, ∃ issues, check (f x) = .error issues)
    (position : Nat) : ∃ issues, checkItems check position (xs.map f) = .error issues := by
  induction xs generalizing position with
  | nil =>
    obtain ⟨x, hx, -⟩ := h
    cases hx
  | cons x xs ih =>
    rw [List.map_cons, checkItems]
    obtain ⟨y, hy, issues, hissues⟩ := h
    rcases List.mem_cons.mp hy with rfl | hy
    · rw [hissues]
      cases checkItems check (position + 1) (xs.map f) <;> exact ⟨_, rfl⟩
    · -- the member is further on, where positions are one higher
      obtain ⟨rest, hrest⟩ := ih ⟨y, hy, issues, hissues⟩ (position + 1)
      rw [hrest]
      cases check (f x) <;> exact ⟨_, rfl⟩

end Validation

/-! ### Extra arguments -/

namespace ExtraArgument

/-- A record is what its value is checked to be. -/
theorem ofValue_record {key : String} (hkey : key ≠ "") (v : Value) :
    ofValue (.map [(.text "key", .text key), (.text "value", v)]) =
      ((checkScalar v).at (.field "value")).map fun s => ⟨key, s⟩ := by
  have hchecked : checkKey (.text key) = .ok key := by simp [checkKey, checkText, hkey]
  have hknown :
      unknownFields ["key", "value"] [("key", .text key), ("value", v)] = .ok () := rfl
  simp only [ofValue, fieldsOf, List.map_cons, List.map_nil, Value.display, ofFields, hknown,
    requiredField]
  cases hvalue : checkScalar v <;>
    simp [List.lookup_cons, hchecked, hvalue, Checked.both, Checked.at, Except.map]

open ScalarArgument

variable {xs : List ScalarArgument}

theorem ofValue_of_writable (x : ScalarArgument) (h : x.scalar.value.isWritable = true) :
    ofValue x.record = .ok ⟨x.key, x.scalar.word⟩ := by
  rw [record, ofValue_record x.key_ne_empty, checkScalar, x.scalar.scalarText?_value]
  simp only [h, if_true]
  rfl

theorem ofValue_of_not_writable (x : ScalarArgument) (h : x.scalar.value.isWritable = false) :
    ∃ issues, ofValue x.record = .error issues := by
  rw [record, ofValue_record x.key_ne_empty, checkScalar, x.scalar.scalarText?_value]
  simp only [h, Bool.false_eq_true, if_false]
  exact ⟨_, rfl⟩

/-- What a list of records gives. -/
theorem checkAll_records (h : IsWritable xs) :
    checkAll (records xs) = .ok (xs.map fun x => ⟨x.key, x.scalar.word⟩) :=
  checkItems_of_ok (fun x hx => ofValue_of_writable x (h x hx)) 0

theorem checkAll_records_of_not (h : ¬ IsWritable xs) :
    ∃ issues, checkAll (records xs) = .error issues := by
  simp only [IsWritable, not_forall, Bool.not_eq_true] at h
  obtain ⟨x, hx, hwritable⟩ := h
  exact checkItems_of_error ⟨x, hx, ofValue_of_not_writable x hwritable⟩ 0

theorem areEntriesWritable_iff :
    Value.areEntriesWritable (xs.map fun x => (.text x.key, x.scalar.value)) = true ↔
      IsWritable xs := by
  induction xs with
  | nil => simp [Value.areEntriesWritable, IsWritable]
  | cons x xs ih =>
    rw [List.map_cons, Value.areEntriesWritable, Bool.and_eq_true, ih]
    simp [IsWritable, Value.isWritable]

/-- What a mapping gives. -/
theorem checkAll_mapping (h : IsWritable xs) :
    checkAll (mapping xs) = .ok (xs.map fun x => ⟨x.key, x.scalar.value.display⟩) := by
  rw [mapping, checkAll, if_pos (areEntriesWritable_iff.mpr h), List.map_map]
  -- an entry becomes a record of two texts, and a text always has a text
  exact checkItems_of_ok (fun x _ => ofValue_record x.key_ne_empty (.text x.scalar.value.display)) 0

theorem checkAll_mapping_of_not (h : ¬ IsWritable xs) :
    ∃ issues, checkAll (mapping xs) = .error issues := by
  rw [mapping, checkAll, if_neg (mt areEntriesWritable_iff.mp h)]
  exact ⟨_, rfl⟩

/-- Without truth values the two spellings come to the same. -/
theorem checkAll_mapping_eq (h : ∀ x ∈ xs, ¬ x.scalar.IsTruth) (hwritable : IsWritable xs) :
    checkAll (mapping xs) = checkAll (records xs) := by
  rw [checkAll_mapping hwritable, checkAll_records hwritable]
  refine congrArg Except.ok (List.map_congr_left fun x hx => ?_)
  rw [(x.scalar.word_eq_display_iff).mpr (h x hx)]

end ExtraArgument

/-! ### Scenarios -/

namespace Scenario

variable {v w : Value} {before after : Fields}

/-- A scenario with extra arguments alone is what they are checked to be. -/
theorem ofFields_extras (v : Value) :
    ofFields [("extras", v)] =
      ((ExtraArgument.checkAll v).at (.field "extras")).map fun extras => { extras } := by
  have hunknown :
      unknownFields ["at", "journey", "after_test", "extras"] [("extras", v)] = .ok () := rfl
  simp only [ofFields, hunknown, optionalField]
  cases hextras : ExtraArgument.checkAll v <;>
    simp [List.lookup_cons, List.lookup_nil, hextras, Checked.both, Checked.at, Except.map]

theorem ofFields_extras_of_ok {extras : List ExtraArgument}
    (h : ExtraArgument.checkAll v = .ok extras) : ofFields [("extras", v)] = .ok { extras } := by
  rw [ofFields_extras, h]
  rfl

theorem ofFields_extras_of_error {issues : List Issue}
    (h : ExtraArgument.checkAll v = .error issues) :
    ∃ issues, ofFields [("extras", v)] = .error issues := by
  rw [ofFields_extras, h]
  exact ⟨_, rfl⟩

theorem optionalField_congr {α : Type} {name : String} {default : α} {check : Value → Checked α}
    (h : name ≠ "extras" ∨ check v = check w) :
    optionalField (before ++ ("extras", v) :: after) name default check =
      optionalField (before ++ ("extras", w) :: after) name default check := by
  simp only [optionalField, List.lookup_append, List.lookup_cons]
  cases before.lookup name with
  | some u => rfl
  | none =>
    -- the first field of this name counts: it is the one for extra arguments, or a later one
    by_cases hname : name = "extras"
    · simp only [hname, beq_self_eq_true, Option.none_or, h.resolve_left (· hname)]
    · have hbeq : (name == "extras") = false := by simpa using hname
      simp only [hbeq]

theorem unknownFields_congr {known : List String} (h : known.contains "extras" = true) :
    unknownFields known (before ++ ("extras", v) :: after) =
      unknownFields known (before ++ ("extras", w) :: after) := by
  simp only [unknownFields, List.filter_append, List.filter_cons, h, Bool.not_true,
    Bool.false_eq_true, if_false]

/-- A scenario depends on its extra arguments only through what they are checked to be. -/
theorem ofFields_congr (h : ExtraArgument.checkAll v = ExtraArgument.checkAll w) :
    ofFields (before ++ ("extras", v) :: after) = ofFields (before ++ ("extras", w) :: after) := by
  -- no field but that of the extras can tell the two spellings apart
  have htext (name : String) (hname : name ≠ "extras") :
      optionalField (before ++ ("extras", v) :: after) name "" checkText =
        optionalField (before ++ ("extras", w) :: after) name "" checkText :=
    optionalField_congr (.inl hname)
  have hafterTest :
      optionalField (before ++ ("extras", v) :: after) "after_test" .stayInApp checkAfterTest =
        optionalField (before ++ ("extras", w) :: after) "after_test" .stayInApp checkAfterTest :=
    optionalField_congr (.inl (by decide))
  have hextras :
      optionalField (before ++ ("extras", v) :: after) "extras" [] ExtraArgument.checkAll =
        optionalField (before ++ ("extras", w) :: after) "extras" [] ExtraArgument.checkAll :=
    optionalField_congr (.inr h)
  have hunknown :
      unknownFields ["at", "journey", "after_test", "extras"]
          (before ++ ("extras", v) :: after) =
        unknownFields ["at", "journey", "after_test", "extras"]
          (before ++ ("extras", w) :: after) :=
    unknownFields_congr (by decide)
  simp only [ofFields, htext "at" (by decide), htext "journey" (by decide), hafterTest, hextras,
    hunknown]

/-- **The two spellings of extra arguments agree but for truth values.**  Both are accepted if every
value has a text, and refused if not.  A mapping gives the displays of the values, a list of records
their words, and these are the same exactly if there is no truth value; then the two spellings can
stand for each other in every scenario. -/
theorem spellings_agree_iff (xs : List ScalarArgument) :
    (ScalarArgument.IsWritable xs →
      ∃ s t, ofFields [("extras", ScalarArgument.mapping xs)] = .ok s ∧
        ofFields [("extras", ScalarArgument.records xs)] = .ok t ∧
        s.pairs = xs.map (fun x => (x.key, x.scalar.value.display)) ∧
        t.pairs = xs.map (fun x => (x.key, x.scalar.word)) ∧
        (s.pairs = t.pairs ↔ ∀ x ∈ xs, ¬ x.scalar.IsTruth)) ∧
    (¬ ScalarArgument.IsWritable xs →
      (∃ issues, ofFields [("extras", ScalarArgument.mapping xs)] = .error issues) ∧
        ∃ issues, ofFields [("extras", ScalarArgument.records xs)] = .error issues) ∧
    ((∀ x ∈ xs, ¬ x.scalar.IsTruth) → ScalarArgument.IsWritable xs → ∀ before after : Fields,
      ofFields (before ++ ("extras", ScalarArgument.mapping xs) :: after) =
        ofFields (before ++ ("extras", ScalarArgument.records xs) :: after)) := by
  refine ⟨fun h => ?_, fun h => ?_, fun htruth h before after =>
    ofFields_congr (ExtraArgument.checkAll_mapping_eq htruth h)⟩
  · refine ⟨_, _, ofFields_extras_of_ok (ExtraArgument.checkAll_mapping h),
      ofFields_extras_of_ok (ExtraArgument.checkAll_records h), ?_, ?_, ?_⟩
    · simp only [pairs, List.map_map]
      rfl
    · simp only [pairs, List.map_map]
      rfl
    · simp only [pairs, List.map_map, List.map_inj_left]
      refine forall₂_congr fun x _ => ?_
      rw [← x.scalar.word_eq_display_iff, eq_comm]
      simp [ExtraArgument.pair]
  -- an integer with too many digits has no text in either spelling
  · obtain ⟨issues, hmapping⟩ := ExtraArgument.checkAll_mapping_of_not h
    obtain ⟨issues', hrecords⟩ := ExtraArgument.checkAll_records_of_not h
    exact ⟨ofFields_extras_of_error hmapping, ofFields_extras_of_error hrecords⟩

/-- A truth value and a number in both spellings, and a number that is too long for a text. -/
theorem spellings_agree_iff_of_flag :
    let flag : ScalarArgument := ⟨"flag", by decide, .bool true⟩
    let count : ScalarArgument := ⟨"count", by decide, .int 3⟩
    let huge : ScalarArgument := ⟨"count", by decide, .int (Nat.pow 10 Text.maxDigits)⟩
    ScalarArgument.IsWritable [flag, count] ∧
      (∃ s t, ofFields [("extras", ScalarArgument.mapping [flag, count])] = .ok s ∧
        ofFields [("extras", ScalarArgument.records [flag, count])] = .ok t ∧
        s.pairs = [("flag", "True"), ("count", "3")] ∧
        t.pairs = [("flag", "true"), ("count", "3")]) ∧
      ¬ ScalarArgument.IsWritable [huge] ∧
      (∃ issues, ofFields [("extras", ScalarArgument.mapping [huge])] = .error issues) ∧
      (∀ x ∈ [count], ¬ x.scalar.IsTruth) ∧
      ofFields [("extras", ScalarArgument.mapping [count]), ("at", .text "noon")] =
        ofFields [("extras", ScalarArgument.records [count]), ("at", .text "noon")] := by
  intro flag count huge
  have hthree : Value.isWritableInteger 3 = true :=
    Value.isWritableInteger_of_lt (by decide : 1 ≤ Text.maxDigits) (by decide)
  have hwritable : ScalarArgument.IsWritable [flag, count] := by
    intro x hx
    rcases List.mem_cons.mp hx with rfl | hx
    · rfl
    · rw [List.mem_singleton.mp hx]
      exact hthree
  have hcount : ScalarArgument.IsWritable [count] :=
    fun x hx => hwritable x (List.mem_cons_of_mem flag hx)
  have hhuge : ¬ ScalarArgument.IsWritable [huge] := by
    intro h
    have hhas := h huge List.mem_cons_self
    simp only [huge, Scalar.value, Value.isWritable, Value.isWritableInteger_limit,
      Bool.false_eq_true] at hhas
  have hplain : ∀ x ∈ [count], ¬ x.scalar.IsTruth := by
    intro x hx
    rw [List.mem_singleton.mp hx]
    rintro ⟨b, hb⟩
    cases hb
  obtain ⟨s, t, hs, ht, hsp, htp, -⟩ := (spellings_agree_iff [flag, count]).1 hwritable
  exact ⟨hwritable, ⟨s, t, hs, ht, hsp, htp⟩, hhuge, ((spellings_agree_iff [huge]).2.1 hhuge).1,
    hplain, (spellings_agree_iff [count]).2.2 hplain hcount [] [("at", .text "noon")]⟩

/-- The two spellings of a truth value give different texts. -/
theorem not_forall_spellings_agree :
    ¬ ∀ xs : List ScalarArgument,
      ∃ s t, ofFields [("extras", ScalarArgument.mapping xs)] = .ok s ∧
        ofFields [("extras", ScalarArgument.records xs)] = .ok t ∧ s.pairs = t.pairs := by
  intro h
  obtain ⟨s, t, hs, ht, hpairs⟩ := h [⟨"flag", by decide, .bool true⟩]
  obtain rfl : { extras := [⟨"flag", "True"⟩] } = s := Except.ok.inj hs
  obtain rfl : { extras := [⟨"flag", "true"⟩] } = t := Except.ok.inj ht
  exact absurd hpairs (by decide)

end Scenario

end Timebox
