import Mathlib.Data.List.DropRight
import Timebox.Fault.Reason

/-!
# Reason codes read off texts

A fault without a code of its own has the one that its text carries: what stands before the first
colon, without the blanks around it, if that is in capitals and holds no space
(`leadingCode_eq_some_iff`).  So a code survives when the text of a fault is told again
(`Fault.reason_retold`).  A code that is read off a text is one token, but for the texts that have
some other blank than a space among their capitals (`Fault.reason_isToken_iff`).
-/

namespace Timebox

/-! ### Trimming around a mark -/

namespace Text

variable {p : Char → Bool} {mark : Char}

/-- Dropping a class stops at a mark that is not of it. -/
theorem dropWhile_append_mark (hmark : p mark = false) (a b : List Char) :
    (a ++ mark :: b).dropWhile p = a.dropWhile p ++ mark :: b := by
  rw [List.dropWhile_append]
  split
  · next h =>
    rw [List.isEmpty_iff.mp h, List.dropWhile_cons, hmark]
    rfl
  · rfl

/-- So the mark stays in the text when that is trimmed, and so does what stands before it, but for
the class in front. -/
theorem trimWith_append_mark (hmark : p mark = false) (a b : List Char) :
    ∃ rest, trimWith p (a ++ mark :: b) = a.dropWhile p ++ mark :: rest := by
  refine ⟨(b.reverse.dropWhile p).reverse, ?_⟩
  unfold trimWith
  -- the end is trimmed as the front of the reverse, where dropping stops at the mark too
  rw [dropWhile_append_mark hmark, List.reverse_append, List.reverse_cons, List.append_assoc,
    List.singleton_append, dropWhile_append_mark hmark, List.reverse_append, List.reverse_cons,
    List.reverse_reverse, List.append_assoc, List.singleton_append]

theorem trimWith_dropWhile (p : Char → Bool) (cs : List Char) :
    trimWith p (cs.dropWhile p) = trimWith p cs := by
  unfold trimWith
  rw [List.dropWhile_idempotent]

theorem trimWith_sublist (p : Char → Bool) (cs : List Char) : (trimWith p cs).Sublist cs := by
  have hback := (List.dropWhile_suffix p (l := (cs.dropWhile p).reverse)).sublist.reverse
  rw [List.reverse_reverse] at hback
  exact hback.trans (List.dropWhile_suffix p).sublist

end Text

/-! ### Heads of texts -/

/-- What stands in a text before its first colon, without the blanks around it. -/
def IsHead (head text : List Char) : Prop :=
  ∃ before after, text = before ++ ':' :: after ∧ ':' ∉ before ∧ Text.trim before = head

variable {head text code : List Char}

theorem exists_isHead (h : ':' ∈ text) : ∃ head, IsHead head text := by
  obtain ⟨before, after, rfl, hbefore⟩ := List.eq_append_cons_of_mem h
  exact ⟨_, before, after, rfl, hbefore, rfl⟩

namespace IsHead

/-- The head of a text does not change when the text is trimmed. -/
theorem cutFirst_trim (h : IsHead head text) :
    ∃ before after, Text.cutFirst ':' (Text.trim text) = some (before, after) ∧
      Text.trim before = head := by
  obtain ⟨before, after, rfl, hbefore, rfl⟩ := h
  have hmark : Text.isBlank ':' = false := by decide
  obtain ⟨rest, htrim⟩ := Text.trimWith_append_mark hmark before after
  -- what is left before the colon holds no other one, so that this stays the first
  have hdropped : ':' ∉ before.dropWhile Text.isBlank :=
    fun hc => hbefore ((List.dropWhile_suffix _).subset hc)
  refine ⟨before.dropWhile Text.isBlank, rest, ?_, Text.trimWith_dropWhile _ _⟩
  unfold Text.trim
  rw [htrim, Text.cutFirst_append hdropped]

/-- A text has no other code than its head. -/
theorem leadingCode_eq (h : IsHead head text) : leadingCode text =
    if Text.isAllCapitals head && !head.contains ' ' then some head else none := by
  obtain ⟨before, after, hcut, rfl⟩ := h.cutFirst_trim
  unfold leadingCode
  rw [hcut]

theorem colon_notMem (h : IsHead head text) : ':' ∉ head := by
  obtain ⟨before, after, -, hbefore, rfl⟩ := h
  exact fun hc => hbefore ((Text.trimWith_sublist _ _).subset hc)

end IsHead

/-- A text without a colon has no code. -/
theorem leadingCode_of_notMem (h : ':' ∉ text) : leadingCode text = none := by
  have htrim : ':' ∉ Text.trim text := fun hc => h ((Text.trimWith_sublist _ _).subset hc)
  unfold leadingCode
  rw [Text.cutFirst_eq_none_iff.mpr htrim]

/-- The code of a text is its head, if that is in capitals and holds no space. -/
theorem leadingCode_eq_some_iff :
    leadingCode text = some code ↔
      IsHead code text ∧ Text.isAllCapitals code = true ∧ ' ' ∉ code := by
  constructor
  · intro h
    have hcolon : ':' ∈ text := by
      refine Decidable.byContradiction fun hcolon => ?_
      rw [leadingCode_of_notMem hcolon] at h
      cases h
    obtain ⟨head, hhead⟩ := exists_isHead hcolon
    rw [hhead.leadingCode_eq] at h
    split at h
    · next hcode =>
      obtain rfl := Option.some.inj h
      simpa [hhead] using hcode
    · cases h
  · rintro ⟨hhead, hcapitals, hspace⟩
    rw [hhead.leadingCode_eq]
    simp [hcapitals, hspace]

/-! ### Faults without a code of their own -/

theorem Text.ne_nil_of_isAllCapitals {cs : List Char} (h : isAllCapitals cs = true) :
    cs ≠ [] := by
  rintro rfl
  cases h

theorem Text.isBlank_eq_false_of_any {cs : List Char} (h : cs.any isBlank = false) :
    ∀ c ∈ cs, isBlank c = false :=
  fun c hc => Bool.eq_false_iff.mpr (List.any_eq_false.mp h c hc)

namespace Fault

/-- The fault neither brings a code nor has a fixed one. -/
def IsUncoded : Fault → Prop
  | coded .. => False
  | overrun .. => False
  | general .assertion _ => False
  | _ => True

variable {f : Fault}

theorem IsUncoded.reason_eq (h : f.IsUncoded) : f.reason = derivedReason f.message := by
  cases f with
  | general kind message => cases kind <;> first | rfl | exact h.elim
  | coded => exact h.elim
  | overrun => exact h.elim
  | custom => rfl
  | rejected => rfl

/-- Its code is the one that its text carries. -/
theorem IsUncoded.reason_of_isHead (h : f.IsUncoded) (hhead : IsHead head f.message.toList)
    (hcapitals : Text.isAllCapitals head = true) (hspace : ' ' ∉ head) :
    f.reason = String.ofList head := by
  rw [h.reason_eq, derivedReason, leadingCode_eq_some_iff.mpr ⟨hhead, hcapitals, hspace⟩]

/-- If its text carries none, it is that of all such faults. -/
theorem IsUncoded.reason_cases (h : f.IsUncoded) :
    f.reason = "RUNTIME_FAILURE" ∨ IsHead f.reason.toList f.message.toList ∧
      Text.isAllCapitals f.reason.toList = true ∧ ' ' ∉ f.reason.toList := by
  rw [h.reason_eq]
  unfold derivedReason
  cases hcode : leadingCode f.message.toList with
  | none => exact .inl rfl
  | some code =>
    refine .inr ?_
    rw [String.toList_ofList]
    exact leadingCode_eq_some_iff.mp hcode

/-! ### Telling a text again -/

/-- The text can be told as a code: it is in capitals, holds neither a colon nor a space, and no
blank stands at either end of it. -/
structure IsCode (code : String) : Prop where
  capitals : Text.isAllCapitals code.toList = true
  colon_notMem : ':' ∉ code.toList
  space_notMem : ' ' ∉ code.toList
  first : ∀ c ∈ code.toList.head?, Text.isBlank c = false
  last : ∀ c ∈ code.toList.getLast?, Text.isBlank c = false

variable {code detail : String}

theorem IsCode.codeOf_eq (h : IsCode code) (kind : CodedKind) : codeOf kind (some code) = code := by
  have hne : code.isEmpty = false := by
    refine Bool.eq_false_iff.mpr fun hempty => ?_
    rw [String.isEmpty_iff] at hempty
    exact Text.ne_nil_of_isAllCapitals h.capitals (by rw [hempty]; rfl)
  unfold codeOf
  simp only [hne, Bool.false_eq_true, if_false]

/-- A code is the head of the text that tells it with a detail. -/
theorem IsCode.isHead (h : IsCode code) (hdetail : detail ≠ "") (kind : CodedKind) :
    IsHead code.toList (coded kind (some detail) (some code)).message.toList := by
  have hne : detail.isEmpty = false := by
    simpa [String.isEmpty_iff, Bool.eq_false_iff] using hdetail
  refine ⟨code.toList, detail.toList, ?_, h.colon_notMem,
    (Text.trimWith_eq_self_iff _ _).mpr ⟨h.first, h.last⟩⟩
  unfold message codedText
  simp only [hne, Bool.false_eq_true, if_false, h.codeOf_eq]
  rw [String.toList_append, String.toList_append, List.append_assoc]
  rfl

/-- **A code survives when the text of its fault is told again.** A fault with a code and a detail
has this code, and so has a runtime fault with the same text, whatever the detail is. -/
theorem reason_retold (h : IsCode code) (hdetail : detail ≠ "") (kind : CodedKind) :
    (coded kind (some detail) (some code)).reason = code ∧
      (general .runtime (some (coded kind (some detail) (some code)).message)).reason = code := by
  refine ⟨h.codeOf_eq kind, ?_⟩
  have huncoded :
      (general .runtime (some (coded kind (some detail) (some code)).message)).IsUncoded := trivial
  rw [huncoded.reason_of_isHead (h.isHead hdetail kind) h.capitals h.space_notMem,
    String.ofList_toList]

/-- The detail begins with a blank, holds colons and line feeds, and ends with one. -/
theorem reason_retold_of_lines :
    let told : Fault := .coded .runner (some " usb: gone\nsince 12:00\n") (some "ADB_2")
    IsCode "ADB_2" ∧ told.reason = "ADB_2" ∧
      (Fault.general .runtime (some told.message)).reason = "ADB_2" := by
  have hcode : IsCode "ADB_2" :=
    { capitals := by decide +kernel
      colon_notMem := by decide
      space_notMem := by decide
      first := by
        rintro c ⟨⟩
        decide
      last := by
        rintro c ⟨⟩
        decide }
  exact ⟨hcode, reason_retold hcode (by decide) .runner⟩

/-! ### Tokens -/

/-- The code is a single word in capitals. -/
structure IsToken (code : String) : Prop where
  ne_empty : code ≠ ""
  not_blank : ∀ c ∈ code.toList, Text.isBlank c = false
  colon_notMem : ':' ∉ code.toList
  capital : ∃ c ∈ code.toList, Text.isCapital c = true
  not_small : ∀ c ∈ code.toList, Text.isSmallOrTitle c = false

/-- The head of the text is in capitals and holds no space, but some other blank. -/
def HasSplitHead (f : Fault) : Prop :=
  ∃ head, IsHead head f.message.toList ∧ Text.isAllCapitals head = true ∧ ' ' ∉ head ∧
    ∃ c ∈ head, Text.isBlank c = true

theorem isToken_of_isHead {text : List Char} (hhead : IsHead code.toList text)
    (hcapitals : Text.isAllCapitals code.toList = true)
    (hblank : ∀ c ∈ code.toList, Text.isBlank c = false) : IsToken code := by
  have hcase := hcapitals
  simp only [Text.isAllCapitals, Bool.and_eq_true, Bool.not_eq_true', List.any_eq_true,
    List.any_eq_false, Bool.not_eq_true] at hcase
  refine ⟨?_, hblank, hhead.colon_notMem, hcase.1, hcase.2⟩
  rintro rfl
  exact Text.ne_nil_of_isAllCapitals hcapitals rfl

/-- **A code that is read off a text is a token, or the text has a split head.** A fault without a
code of its own has the code of all such faults, or one that is a single word in capitals and the
head of its text; but for the texts whose head is in capitals, with blanks among them none of which
is a space. Every head in capitals without a space is the code, a split one too. -/
theorem reason_isToken_iff (h : f.IsUncoded) :
    (f.reason = "RUNTIME_FAILURE" ∨
        IsToken f.reason ∧ IsHead f.reason.toList f.message.toList ↔ ¬ f.HasSplitHead) ∧
      ∀ head, IsHead head f.message.toList → Text.isAllCapitals head = true → ' ' ∉ head →
        f.reason = String.ofList head := by
  refine ⟨⟨?_, fun hsplit => ?_⟩, fun head => h.reason_of_isHead⟩
  · rintro hreason ⟨head, hhead, hcapitals, hspace, c, hc, hblank⟩
    -- the split head is the code, but neither the fixed code nor a token holds a blank
    rw [h.reason_of_isHead hhead hcapitals hspace] at hreason
    rcases hreason with hfixed | ⟨htoken, -⟩
    · have hnone : ∀ c ∈ "RUNTIME_FAILURE".toList, Text.isBlank c = false :=
        Text.isBlank_eq_false_of_any (by decide)
      rw [← hfixed, String.toList_ofList] at hnone
      cases hblank.symm.trans (hnone c hc)
    · have hnone := htoken.not_blank
      rw [String.toList_ofList] at hnone
      cases hblank.symm.trans (hnone c hc)
  · refine h.reason_cases.imp_right fun ⟨hhead, hcapitals, hspace⟩ => ⟨?_, hhead⟩
    refine isToken_of_isHead hhead hcapitals fun c hc => Bool.eq_false_iff.mpr fun hblank => ?_
    exact hsplit ⟨_, hhead, hcapitals, hspace, c, hc, hblank⟩

/-- A head between blanks in front of two colons, and one with a tab between its two words. -/
theorem reason_isToken_iff_of_tab :
    let whole : Fault := .custom (some "\n DEVICE_OFFLINE\t: lost: twice") none none
    let split : Fault := .general .badValue (some "DEVICE\tOFFLINE:adb lost")
    whole.IsUncoded ∧ whole.reason = "DEVICE_OFFLINE" ∧ ¬ whole.HasSplitHead ∧
      split.IsUncoded ∧ split.HasSplitHead ∧ split.reason = "DEVICE\tOFFLINE" := by
  intro whole split
  have hwhole : IsHead "DEVICE_OFFLINE".toList whole.message.toList :=
    ⟨"\n DEVICE_OFFLINE\t".toList, " lost: twice".toList, by decide, by decide, by decide⟩
  have hsplit : IsHead "DEVICE\tOFFLINE".toList split.message.toList :=
    ⟨"DEVICE\tOFFLINE".toList, "adb lost".toList, by decide, by decide, by decide⟩
  -- characters without case do not keep a head from being in capitals
  have hcapitals : Text.isAllCapitals "DEVICE_OFFLINE".toList = true := by decide +kernel
  have hcapitals' : Text.isAllCapitals "DEVICE\tOFFLINE".toList = true := by decide +kernel
  have hw : whole.IsUncoded := trivial
  have hs : split.IsUncoded := trivial
  have hreason : whole.reason = "DEVICE_OFFLINE" :=
    (reason_isToken_iff hw).2 _ hwhole hcapitals (by decide)
  refine ⟨hw, hreason, ?_, hs, ⟨_, hsplit, hcapitals', by decide, '\t', by decide⟩,
    (reason_isToken_iff hs).2 _ hsplit hcapitals' (by decide)⟩
  refine (reason_isToken_iff hw).1.mp (.inr ?_)
  rw [hreason]
  exact ⟨isToken_of_isHead hwhole hcapitals (Text.isBlank_eq_false_of_any (by decide)), hwhole⟩

/-- Two words with a tab between them are a code. -/
theorem not_forall_reason_isToken :
    ¬ ∀ f : Fault, f.IsUncoded → f.reason = "RUNTIME_FAILURE" ∨
      IsToken f.reason ∧ IsHead f.reason.toList f.message.toList := by
  intro h
  have hreason : (general .runtime (some "DEVICE\tOFFLINE:adb lost")).reason =
      "DEVICE\tOFFLINE" := by decide +kernel
  rcases h (.general .runtime (some "DEVICE\tOFFLINE:adb lost")) trivial with hfixed | ⟨htoken, -⟩
  · exact absurd (hreason.symm.trans hfixed) (by decide)
  · have htab := htoken.not_blank '\t'
    rw [hreason] at htab
    exact absurd (htab (by decide)) (by decide)

end Fault

end Timebox
