import Timebox.Json.Encode

/-!
# Lines of printable characters

Whatever a value holds, its line is made of printable ASCII characters (`Json.printable_encode`), so
no text in it can break the line.
-/

namespace Timebox.Json

open Text

/-! ### Characters -/

/-- All characters are printable ones of ASCII. -/
def Printable (cs : List Char) : Prop :=
  ∀ c ∈ cs, 0x20 ≤ c.toNat ∧ c.toNat ≤ 0x7E

instance (cs : List Char) : Decidable (Printable cs) :=
  List.decidableBAll (fun c : Char => 0x20 ≤ c.toNat ∧ c.toNat ≤ 0x7E) cs

theorem printable_append {cs ds : List Char} (hcs : Printable cs) (hds : Printable ds) :
    Printable (cs ++ ds) := by
  intro c hc
  rcases List.mem_append.mp hc with hc | hc
  · exact hcs c hc
  · exact hds c hc

theorem printable_cons {c : Char} {cs : List Char} (hc : 0x20 ≤ c.toNat ∧ c.toNat ≤ 0x7E)
    (hcs : Printable cs) : Printable (c :: cs) :=
  List.forall_mem_cons.mpr ⟨hc, hcs⟩

theorem printable_hexDigits (width n : Nat) : Printable (hexDigits width n) := by
  have hdigit : ∀ d : Fin 16, Printable [hexDigit d] := by decide
  induction width generalizing n with
  | zero => exact List.forall_mem_nil _
  | succ w ih =>
    -- a digit depends on the remainder only, so that sixteen cases are enough
    have hn : hexDigit n = hexDigit (n % 16) := by
      unfold hexDigit
      rw [Nat.mod_mod]
    rw [hexDigits, hn]
    exact printable_append (ih _) (hdigit ⟨n % 16, Nat.mod_lt n (by decide)⟩)

theorem printable_unitEscape (n : Nat) : Printable (unitEscape n) :=
  printable_cons (by decide) (printable_cons (by decide) (printable_hexDigits 4 n))

theorem printable_escapeChar (c : Char) : Printable (escapeChar c) := by
  unfold escapeChar
  dsimp only
  -- one case for every way to write a character, in the order of the definition
  split
  · next h => rcases h with rfl | rfl <;> decide
  split
  · next h => exact printable_cons h (List.forall_mem_nil _)
  split
  · decide
  split
  · decide
  split
  · decide
  split
  · decide
  split
  · decide
  split
  · exact printable_unitEscape _
  · exact printable_append (printable_unitEscape _) (printable_unitEscape _)

theorem printable_encodeText (s : String) : Printable (encodeText s) := by
  have hescaped : Printable (s.toList.flatMap escapeChar) := by
    intro c hc
    obtain ⟨d, -, hd⟩ := List.mem_flatMap.mp hc
    exact printable_escapeChar d c hd
  exact printable_append (printable_cons (by decide) hescaped) (by decide)

theorem printable_of_isDigit {c : Char} (h : c.isDigit = true) :
    0x20 ≤ c.toNat ∧ c.toNat ≤ 0x7E := by
  obtain ⟨hlow, hhigh⟩ := Char.isDigit_iff_toNat.mp h
  have hzero : '0'.toNat = 48 := rfl
  have hnine : '9'.toNat = 57 := rfl
  omega

theorem printable_toDigits (n : Nat) : Printable (Nat.toDigits 10 n) :=
  fun _ hc => printable_of_isDigit (Nat.isDigit_of_mem_toDigits (by decide) (by decide) hc)

theorem printable_zeros (n : Nat) : Printable (List.replicate n '0') := by
  intro c hc
  rw [List.eq_of_mem_replicate hc]
  decide

/-! ### Numbers -/

theorem printable_toString (n : Int) : Printable (toString n).toList := by
  cases n with
  | ofNat k =>
    show Printable (Nat.repr k).toList
    rw [Nat.toList_repr]
    exact printable_toDigits k
  | negSucc k =>
    show Printable ("-" ++ Nat.repr (k + 1)).toList
    rw [String.toList_append, Nat.toList_repr]
    exact printable_append (by decide) (printable_toDigits (k + 1))

/-- A decimal is laid out with digits, a point, a sign and the mark of an exponent. -/
theorem printable_render (l : Binary64.Layout) (d : Binary64.Decimal) :
    Printable (l.render d) := by
  have hds : Printable (Nat.toDigits 10 d.digits) := printable_toDigits d.digits
  have htake : ∀ n, Printable ((Nat.toDigits 10 d.digits).take n) :=
    fun n c hc => hds c (List.mem_of_mem_take hc)
  have hdrop : ∀ n, Printable ((Nat.toDigits 10 d.digits).drop n) :=
    fun n c hc => hds c (List.mem_of_mem_drop hc)
  unfold Binary64.Layout.render
  dsimp only
  split
  -- without an exponent: the point comes before the digits, after them or among them
  · split
    · exact printable_cons (by decide) (printable_cons (by decide)
        (printable_append (printable_zeros _) hds))
    · split
      · exact printable_append (printable_append hds (printable_zeros _)) (by decide)
      · exact printable_append (htake _) (printable_cons (by decide) (hdrop _))
  · have hexponent : ∀ n, Printable (Binary64.padLeft l.exponentWidth (Nat.toDigits 10 n)) :=
      fun n => printable_append (printable_zeros _) (printable_toDigits n)
    refine printable_append (printable_append (printable_append (htake 1) ?_) ?_) (hexponent _)
    · split
      · exact List.forall_mem_nil _
      · exact printable_cons (by decide) (hdrop 1)
    · split <;> decide

theorem printable_text (x : Binary64) : Printable x.text.toList := by
  unfold Binary64.text
  split
  · decide
  · split <;> decide
  · rw [String.toList_ofList]
    split
    · refine printable_cons (by decide) ?_
      split
      · decide
      · exact printable_render _ _
    · split
      · decide
      · exact printable_render _ _

theorem printable_encodeReal (x : Binary64) : Printable (encodeReal x) := by
  unfold encodeReal
  split
  · decide
  · split <;> decide
  · exact printable_text x

/-! ### Values -/

theorem printable_separated {ms : List (List Char)} (h : ∀ m ∈ ms, Printable m) :
    Printable (separated ms) := by
  induction ms with
  | nil => exact List.forall_mem_nil _
  | cons m ms ih =>
    obtain ⟨hm, hms⟩ := List.forall_mem_cons.mp h
    cases ms with
    | nil => exact hm
    | cons n ns =>
      exact printable_append hm (printable_cons (by decide) (printable_cons (by decide) (ih hms)))

theorem printable_encodeField {f : String × List Char} (h : Printable f.2) :
    Printable (encodeField f) :=
  printable_append (printable_encodeText f.1)
    (printable_cons (by decide) (printable_cons (by decide) h))

mutual

/-- **A value is written with printable characters.** -/
theorem printable_encode (j : Json) : Printable (encode j) := by
  cases j with
  | null => exact (by decide : Printable "null".toList)
  | bool b =>
    cases b with
    | true => exact (by decide : Printable "true".toList)
    | false => exact (by decide : Printable "false".toList)
  | int n => exact printable_toString n
  | real x => exact printable_encodeReal x
  | text s => exact printable_encodeText s
  | list items =>
    have hitems : Printable (separated (encodeItems items)) :=
      printable_separated (printable_encodeItems items)
    exact printable_append (printable_cons (by decide) hitems) (by decide)
  | object fields =>
    -- sorting the fields changes their order and not which they are
    have hfields : ∀ m ∈ (sortFields (encodeFields fields)).map encodeField, Printable m := by
      intro m hm
      obtain ⟨f, hf, rfl⟩ := List.mem_map.mp hm
      exact printable_encodeField (printable_encodeFields fields f (List.mem_mergeSort.mp hf))
    exact printable_append (printable_cons (by decide) (printable_separated hfields)) (by decide)

theorem printable_encodeItems (items : List Json) : ∀ m ∈ encodeItems items, Printable m := by
  cases items with
  | nil => exact List.forall_mem_nil _
  | cons j js =>
    exact List.forall_mem_cons.mpr ⟨printable_encode j, printable_encodeItems js⟩

theorem printable_encodeFields (fields : List (String × Json)) :
    ∀ f ∈ encodeFields fields, Printable f.2 := by
  cases fields with
  | nil => exact List.forall_mem_nil _
  | cons f fs =>
    obtain ⟨k, j⟩ := f
    exact List.forall_mem_cons.mpr ⟨printable_encode j, printable_encodeFields fs⟩

end

/-- The line of an object is not empty, and it does not break. -/
theorem printable_line_object (fields : List (String × Json)) :
    (object fields).line ≠ "" ∧ Printable (object fields).line.toList := by
  have hchars : (object fields).line.toList = encode (object fields) := String.toList_ofList
  constructor
  · intro h
    rw [h] at hchars
    cases hchars
  · rw [hchars]
    exact printable_encode _

end Timebox.Json
