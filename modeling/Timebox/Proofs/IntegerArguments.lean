import Timebox.Proofs.Decimals
import Timebox.Proofs.Layers

/-!
# Integers among arguments and options

An argument that is bound to a text other than blanks reads as the integer that the text writes, and
not at all if it writes none; the default stands in for all other arguments
(`Arguments.integer_of_written`).  The leeway is read from options by a reader of its own, which
accepts the same texts with the same values, but for the negative ones
(`Plan.prepare_iff_integer`).
-/

namespace Timebox

/-! ### Arguments -/

namespace Arguments

variable {a : Arguments} {key s : String}

/-- The default stands in for what is not bound or blank. -/
theorem integer_of_unsaid (h : ∀ s ∈ a.get? key, Text.isAllBlank s = true) (default : Int) :
    a.integer key default = .ok default := by
  unfold integer
  cases hs : a.get? key with
  | none => rfl
  | some s => exact if_pos (h s hs)

section

variable (hs : a.get? key = some s) (hblank : Text.isAllBlank s = false) (default : Int)

include hs hblank

/-- Every other argument is read, whatever the default is. -/
theorem integer_of_said : a.integer key default =
    match Text.readBlankedInteger s with
    | some n => .ok n
    | none => .error (.badArgument (key ++ "=" ++ Text.quoted s ++ " is not an integer")) := by
  unfold integer
  rw [hs]
  exact if_neg (Bool.eq_false_iff.mp hblank)

theorem integer_eq_ok_iff (n : Int) : a.integer key default = .ok n ↔ Text.Writes s n := by
  rw [integer_of_said hs hblank, ← Text.readBlankedInteger_eq_some_iff]
  cases Text.readBlankedInteger s <;> simp

/-- What writes no integer is a faulty argument. -/
theorem integer_of_not_writes (h : ∀ n, ¬ Text.Writes s n) :
    a.integer key default =
      .error (.badArgument (key ++ "=" ++ Text.quoted s ++ " is not an integer")) := by
  rw [integer_of_said hs hblank, Text.readBlankedInteger_eq_none_iff.mpr h]

end

/-- **An argument reads as the integer that it writes.** The default is read just if the argument is
not bound or blank. Any other argument has to be a numeral that is not too long, between blanks, and
reads as the value of that; if it is none, it is faulty. In particular the text of every integer
that has one reads back, with whatever blanks around it, zeros in front of its digits and marks
between them, if that does not make it too long. -/
theorem integer_of_written (a : Arguments) (key : String) :
    ((∀ default, a.integer key default = .ok default) ↔
      ∀ s ∈ a.get? key, Text.isAllBlank s = true) ∧
    (∀ s ∈ a.get? key, Text.isAllBlank s = false → ∀ default,
      (∀ n, a.integer key default = .ok n ↔ Text.Writes s n) ∧
      ((∀ n, ¬ Text.Writes s n) →
        ∃ f, a.integer key default = .error f ∧ f.className = "ArgumentError")) ∧
    (∀ (n : Int) (x : Text.Numeral) (before after : List Char), x.Respells n → x.IsShort →
      (∀ c ∈ before, Text.isBlank c = true) → (∀ c ∈ after, Text.isBlank c = true) →
        a.get? key = some (String.ofList (before ++ x.text ++ after)) →
          ∀ default, a.integer key default = .ok n) ∧
    ∀ n : Int, Value.isWritableInteger n = true →
      ∃ x : Text.Numeral, x.text = (toString n).toList ∧ x.Respells n ∧ x.IsShort := by
  refine ⟨⟨fun h s hs => ?_, integer_of_unsaid⟩, fun s hs hblank default => ⟨?_, fun h => ?_⟩, ?_,
    fun n hn => ?_⟩
  · -- a text that is not blank reads the same whatever the default is
    cases hblank : Text.isAllBlank s with
    | true => rfl
    | false =>
      have hzero := (integer_eq_ok_iff hs hblank 0 0).mp (h 0)
      have hone := ((integer_eq_ok_iff hs hblank 1 0).mpr hzero).symm.trans (h 1)
      cases hone
  · exact integer_eq_ok_iff hs hblank default
  · exact ⟨_, integer_of_not_writes hs hblank default h, rfl⟩
  · intro n x before after hspells hshort hbefore hafter hs default
    have hwrites := Text.writes_of_respells hspells hshort hbefore hafter
    exact (integer_eq_ok_iff hs hwrites.isAllBlank_eq_false default n).mpr hwrites
  · obtain ⟨x, htext, hspells, hshort⟩ := Text.exists_numeral_of_toString n
    exact ⟨x, htext, hspells, hshort hn⟩

/-- Digits of three scripts with a mark between two of them, zeros and marks between blanks, two
marks side by side, and nothing but a separator. -/
theorem integer_of_written_of_scripts :
    let a : Arguments := .ofPairs
      [("scripts", "\u00a0-0_\u0664\u0968\n"), ("zeros", "\t-00_4_2 "), ("marks", "4__2"),
        ("blank", "\x1f")]
    a.integer "scripts" 7 = .ok (-42) ∧ a.integer "zeros" 7 = .ok (-42) ∧
      (∃ f, a.integer "marks" 7 = .error f ∧ f.className = "ArgumentError") ∧
      ∀ default, a.integer "blank" default = .ok default := by
  intro a
  have hscripts : Text.Writes "\u00a0-0_\u0664\u0968\n" (-42) :=
    Text.readBlankedInteger_eq_some_iff.mp (by decide)
  have hmarks : ∀ n, ¬ Text.Writes "4__2" n := Text.readBlankedInteger_eq_none_iff.mp (by decide)
  -- the numeral -00_4_2, group by group
  let x : Text.Numeral :=
    { sign := .minus
      groups := [[⟨'0', 0, by decide⟩, ⟨'0', 0, by decide⟩], [⟨'4', 4, by decide⟩],
        [⟨'2', 2, by decide⟩]]
      groups_ne_nil := by simp
      group_ne_nil := by simp }
  have hspells : x.Respells (-42) := ⟨rfl, 2, by decide⟩
  refine ⟨?_, ?_, ?_, ?_⟩
  · exact (((integer_of_written a "scripts").2.1 _ rfl (by decide) 7).1 (-42)).mpr hscripts
  · exact (integer_of_written a "zeros").2.2.1 (-42) x ['\t'] [' '] hspells (by decide)
      (List.all_eq_true.mp (by decide)) (List.all_eq_true.mp (by decide)) (by decide) 7
  · exact ((integer_of_written a "marks").2.1 _ rfl (by decide) 7).2 hmarks
  · exact (integer_of_written a "blank").1.mpr fun s hs => by
      obtain rfl := Option.some.inj hs
      decide

end Arguments

/-! ### Leeways -/

/-- Without a text other than blanks, the leeway is that of nothing said. -/
theorem statesLeeway_iff_of_unsaid {said : Option String} {n : Nat}
    (h : ∀ s ∈ said, Text.isAllBlank s = true) : StatesLeeway said n ↔ n = 3000 := by
  constructor
  · intro hn
    cases hn with
    | unsaid => rfl
    | blank => rfl
    | integer hread => cases hread.symm.trans (Text.readBlankedInteger_of_isAllBlank (h _ rfl))
  · rintro rfl
    cases said with
    | none => exact .unsaid
    | some s => exact .blank (h s rfl)

/-- Any other text states the leeway that it writes. -/
theorem statesLeeway_iff_writes {s : String} {n : Nat} (h : Text.isAllBlank s = false) :
    StatesLeeway (some s) n ↔ Text.Writes s n := by
  rw [← Text.readBlankedInteger_eq_some_iff]
  constructor
  · intro hn
    cases hn with
    | blank hblank => cases h.symm.trans hblank
    | integer hread => exact hread
  · exact .integer

/-- The two readers agree on the leeways that there can be. -/
theorem leewayOf_eq_ok_iff_integer {options : Bindings} {n : Nat} :
    leewayOf options = .ok n ↔
      Arguments.integer options leewayOption defaultLeeway = .ok (n : Int) := by
  rw [leewayOf_eq_ok_iff]
  rcases Text.unsaid_or_said (options.get? leewayOption) with hunsaid | ⟨s, hs, hblank⟩
  · rw [statesLeeway_iff_of_unsaid hunsaid, Arguments.integer_of_unsaid hunsaid, Except.ok.injEq]
    show n = 3000 ↔ ((3000 : Nat) : Int) = n
    omega
  · rw [Arguments.integer_eq_ok_iff hs hblank, hs, statesLeeway_iff_writes hblank]

/-- There is no leeway just where the argument is faulty or negative. -/
theorem exists_leewayOf_error_iff {options : Bindings} :
    (∃ e, leewayOf options = .error e) ↔
      (∃ f, Arguments.integer options leewayOption defaultLeeway = .error f) ∨
        ∃ n < 0, Arguments.integer options leewayOption defaultLeeway = .ok n := by
  cases hleeway : leewayOf options with
  | ok n =>
    rw [leewayOf_eq_ok_iff_integer] at hleeway
    constructor
    · rintro ⟨e, ⟨⟩⟩
    · rintro (⟨f, hf⟩ | ⟨m, hm, hread⟩)
      · cases hleeway.symm.trans hf
      · have hn : (n : Int) = m := Except.ok.inj (hleeway.symm.trans hread)
        omega
  | error e =>
    refine ⟨fun _ => ?_, fun _ => ⟨e, rfl⟩⟩
    cases hread : Arguments.integer options leewayOption defaultLeeway with
    | error f => exact .inl ⟨f, rfl⟩
    | ok n =>
      refine .inr ⟨n, Int.not_le.mp fun hn => ?_, rfl⟩
      -- it would be the leeway
      obtain ⟨n, rfl⟩ := Int.eq_ofNat_of_zero_le hn
      cases hleeway.symm.trans (leewayOf_eq_ok_iff_integer.mpr hread)

theorem Arguments.className_of_integer_eq_error {a : Arguments} {key : String} {default : Int}
    {f : Fault} (h : a.integer key default = .error f) : f.className = "ArgumentError" := by
  rcases Text.unsaid_or_said (a.get? key) with hunsaid | ⟨s, hs, hblank⟩
  · rw [integer_of_unsaid hunsaid] at h
    cases h
  · rw [integer_of_said hs hblank] at h
    split at h
    · cases h
    · obtain rfl := Except.error.inj h
      rfl

theorem LeewayError.className_fault (e : LeewayError) : e.fault.className = "ArgumentError" := by
  cases e <;> rfl

namespace Plan

section

variable {cat : Catalogue} {target : Target} {scenario : Scenario} {window idles : Value}
  {given : Option Bindings} {arguments : Arguments} {j : Journey} {w : Int}
  (hj : target.resolve cat = .ok j) (hw : window.wholeNumber = .ok w)

include hj hw

theorem exists_prepare_eq_ok_iff {n : Int} :
    (∃ p, prepare cat target scenario window idles given arguments = .ok p ∧ p.leeway = n) ↔
      ∃ leeway : Nat, leewayOf (given.getD arguments) = .ok leeway ∧ leeway = n := by
  rw [prepare_eq hj hw]
  cases leewayOf (given.getD arguments) with
  | error e => simp [Except.map, Except.mapError]
  | ok leeway => simp [Except.map, Except.mapError]

theorem exists_prepare_eq_error_iff :
    (∃ e, prepare cat target scenario window idles given arguments = .error (.leeway e)) ↔
      ∃ e, leewayOf (given.getD arguments) = .error e := by
  rw [prepare_eq hj hw]
  cases leewayOf (given.getD arguments) with
  | error e => simp [Except.map, Except.mapError]
  | ok leeway => simp [Except.map, Except.mapError]

/-- **Leeways are integer arguments.**  With a journey and a window there is a plan just if the
option reads as an argument of that key does, with the same default, and not below zero; and then it
has this leeway.  If the argument is faulty or negative, the plan is refused as a faulty argument.
It does not matter whether the options are given or are the arguments themselves. -/
theorem prepare_iff_integer (options : Bindings) :
    (∀ n : Int, (∃ p, prepare cat target scenario window idles (some options) arguments = .ok p ∧
        p.leeway = n) ↔
      Arguments.integer options leewayOption defaultLeeway = .ok n ∧ 0 ≤ n) ∧
    ((∃ e, prepare cat target scenario window idles (some options) arguments =
        .error (.leeway e) ∧ e.fault.className = "ArgumentError") ↔
      (∃ f, Arguments.integer options leewayOption defaultLeeway = .error f ∧
          f.className = "ArgumentError") ∨
        ∃ n < 0, Arguments.integer options leewayOption defaultLeeway = .ok n) ∧
    prepare cat target scenario window idles none options =
      prepare cat target scenario window idles (some options) arguments := by
  refine ⟨fun n => ?_, ?_, ?_⟩
  · rw [exists_prepare_eq_ok_iff hj hw]
    constructor
    · rintro ⟨leeway, hleeway, rfl⟩
      exact ⟨leewayOf_eq_ok_iff_integer.mp hleeway, Int.natCast_nonneg leeway⟩
    · rintro ⟨hread, hn⟩
      obtain ⟨leeway, rfl⟩ := Int.eq_ofNat_of_zero_le hn
      exact ⟨leeway, leewayOf_eq_ok_iff_integer.mpr hread, rfl⟩
  · -- both are faulty arguments, whatever is wrong
    simp only [LeewayError.className_fault, and_true]
    rw [exists_prepare_eq_error_iff hj hw, Option.getD_some, exists_leewayOf_error_iff]
    refine or_congr_left (exists_congr fun f => ?_)
    exact ⟨fun h => ⟨h, Arguments.className_of_integer_eq_error h⟩, And.left⟩
  · rw [prepare_eq hj hw, prepare_eq hj hw]
    rfl

end

/-- An option between blanks with a mark in it, one that is negative, and one that is no integer. -/
theorem prepare_iff_integer_of_texts :
    let cat : Catalogue := { modules := [] }
    let target : Target := .blueprint { name := "J", module := "m", run := .steps [] }
    let stated (s : String) : Bindings := .ofPairs [(leewayOption, s)]
    (∃ j, target.resolve cat = .ok j) ∧ (Value.int 5000).wholeNumber = .ok 5000 ∧
      (∃ p, prepare cat target {} (.int 5000) (.bool true) none (stated " 1_00 ") = .ok p ∧
        p.leeway = (100 : Int)) ∧
      (∃ e, prepare cat target {} (.int 5000) (.bool true) (some (stated "-1")) .empty =
        .error (.leeway e) ∧ e.fault.className = "ArgumentError") ∧
      ∃ e, prepare cat target {} (.int 5000) (.bool true) (some (stated "soon")) .empty =
        .error (.leeway e) ∧ e.fault.className = "ArgumentError" := by
  intro cat target stated
  have hj : ∃ j, target.resolve cat = .ok j := ⟨_, rfl⟩
  refine ⟨hj, rfl, ?_⟩
  obtain ⟨j, hj⟩ := hj
  have hread : Arguments.integer (stated " 1_00 ") leewayOption defaultLeeway = .ok 100 :=
    (Arguments.integer_eq_ok_iff rfl (by decide) _ 100).mpr
      (Text.readBlankedInteger_eq_some_iff.mp (by decide))
  have hnegative : Arguments.integer (stated "-1") leewayOption defaultLeeway = .ok (-1) :=
    (Arguments.integer_eq_ok_iff rfl (by decide) _ (-1)).mpr
      (Text.readBlankedInteger_eq_some_iff.mp (by decide))
  have hfaulty : Arguments.integer (stated "soon") leewayOption defaultLeeway = .error _ :=
    Arguments.integer_of_not_writes rfl (by decide) _
      (Text.readBlankedInteger_eq_none_iff.mp (by decide))
  refine ⟨?_, ?_, ?_⟩
  · have hroute : prepare cat target {} (.int 5000) (.bool true) none (stated " 1_00 ") =
        prepare cat target {} (.int 5000) (.bool true) (some (stated " 1_00 ")) .empty :=
      (prepare_iff_integer hj rfl (stated " 1_00 ")).2.2
    rw [hroute]
    exact ((prepare_iff_integer hj rfl (stated " 1_00 ")).1 100).mpr ⟨hread, by decide⟩
  · exact (prepare_iff_integer hj rfl (stated "-1")).2.1.mpr
      (.inr ⟨-1, by decide, hnegative⟩)
  · exact (prepare_iff_integer hj rfl (stated "soon")).2.1.mpr (.inl ⟨_, hfaulty, rfl⟩)

end Plan

end Timebox
