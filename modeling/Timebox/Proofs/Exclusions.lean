import Timebox.Exclusion

/-!
# The algebra of exclusions

A specification of several texts between commas names what each of them names
(`namesIn_intercalate`), so what it excludes does not depend on the order of its entries, on how
often or with what blanks around it an entry is written, on blank entries, or on which of the two
marks separates a module from its journey (`Reworded`, `Reworded.mem_namesOf_iff`). The names are in
normal form and none is empty, whatever they were read from (`normal_of_mem_namesOf`).
Main statement: `exclusion_laws`.
-/

namespace Timebox.Exclusion

open Text (splitAt isAllBlank)

variable {xs ys : List String} {a b e n s : String}

/-! ### The names among entries -/

theorem mem_namesOf :
    n ∈ namesOf xs ↔ ∃ e ∈ xs, normalize e = n ∧ isAllBlank e = false := by
  simp only [namesOf, List.mem_map, List.mem_filter, Bool.not_eq_true']
  exact exists_congr fun e => by rw [and_assoc, and_comm (a := isAllBlank e = false)]

theorem mem_namesOf_cons :
    n ∈ namesOf (e :: xs) ↔ (normalize e = n ∧ isAllBlank e = false) ∨ n ∈ namesOf xs := by
  simp only [mem_namesOf, List.mem_cons, exists_eq_or_imp]

theorem namesOf_append (xs ys : List String) : namesOf (xs ++ ys) = namesOf xs ++ namesOf ys := by
  simp only [namesOf, List.filter_append, List.map_append]

theorem namesOf_flatMap (f : String → List String) (xs : List String) :
    namesOf (xs.flatMap f) = xs.flatMap fun x => namesOf (f x) := by
  simp only [namesOf, List.filter_flatMap, List.map_flatMap]

/-- No name among entries is empty, and all of them are in normal form. -/
theorem normal_of_mem_namesOf (h : n ∈ namesOf xs) : n ≠ "" ∧ normalize n = n := by
  obtain ⟨e, -, rfl, he⟩ := mem_namesOf.mp h
  refine ⟨fun hempty => ?_, normalize_normalize e⟩
  rw [normalize_eq_empty_iff, he] at hempty
  cases hempty

/-! ### Texts -/

/-- The names in joined texts are those in each. -/
theorem namesIn_intercalate (xs : List String) :
    namesIn (",".intercalate xs) = xs.flatMap namesIn := by
  cases xs with
  | nil => rfl
  | cons x xs =>
    have hsplit := Text.splitAt_intercalate ',' (List.cons_ne_nil x xs)
    unfold namesIn
    rw [← namesOf_flatMap, ← hsplit]

/-- A text without commas is an entry. -/
theorem namesIn_of_not_mem (h : ',' ∉ s.toList) : namesIn s = namesOf [s] := by
  rw [namesIn, splitAt, Text.pieces_of_not_mem h, List.map_singleton, String.ofList_toList]

/-- Texts without commas are the entries of the text that they are joined to. -/
theorem namesIn_intercalate_of_not_mem (h : ∀ x ∈ xs, ',' ∉ x.toList) :
    namesIn (",".intercalate xs) = namesOf xs := by
  rw [namesIn_intercalate]
  induction xs with
  | nil => rfl
  | cons x xs ih =>
    rw [List.flatMap_cons, namesIn_of_not_mem (h x List.mem_cons_self),
      ih fun y hy => h y (List.mem_cons_of_mem x hy), ← namesOf_append, List.singleton_append]

/-! ### Collections -/

theorem namesOf_singleton_of_isEmpty (h : s.isEmpty = true) : namesOf [s] = [] := by
  obtain rfl := String.isEmpty_iff.mp h
  rfl

/-- The names in a collection of texts are those among its members. -/
theorem namesOfMembers_texts (xs : List String) :
    namesOfMembers (xs.map .text) = .ok (namesOf xs) := by
  induction xs with
  | nil => rfl
  | cons x xs ih =>
    have happend : namesOf (x :: xs) = namesOf [x] ++ namesOf xs := namesOf_append [x] xs
    rw [List.map_cons, namesOfMembers, ih, happend]
    split
    · next h => rw [namesOf_singleton_of_isEmpty h, List.nil_append]
    · rfl

/-- The names that members give are names among entries. -/
theorem exists_namesOf_of_namesOfMembers {vs : List Value} {ns : List String}
    (h : namesOfMembers vs = .ok ns) : ∃ xs, ns = namesOf xs := by
  induction vs generalizing ns with
  | nil =>
    obtain rfl := Except.ok.inj h
    exact ⟨[], rfl⟩
  | cons v vs ih =>
    unfold namesOfMembers at h
    split at h
    · exact ih h
    · cases v with
      | text x =>
        -- the names in a text come before those of the members after it
        cases hvs : namesOfMembers vs with
        | error e =>
          rw [hvs] at h
          cases h
        | ok ms =>
          rw [hvs] at h
          obtain rfl := Except.ok.inj h
          obtain ⟨xs, rfl⟩ := ih hvs
          exact ⟨[x] ++ xs, (namesOf_append [x] xs).symm⟩
      | _ => cases h

/-- The names that a value specifies are names among entries. -/
theorem exists_namesOf_of_names {spec : Value} {ns : List String} (h : names spec = .ok ns) :
    ∃ xs, ns = namesOf xs := by
  cases spec with
  | null => exact ⟨[], (Except.ok.inj h).symm⟩
  | text s => exact ⟨splitAt ',' s, (Except.ok.inj h).symm⟩
  | list items => exact exists_namesOf_of_namesOfMembers h
  | map entries => exact exists_namesOf_of_namesOfMembers h
  | _ => cases h

/-! ### Rewording -/

/-- Lists of entries that differ only in the order of the entries, in entries that are repeated or
blank, in blanks around entries, and in the marks inside them. -/
inductive Reworded : List String → List String → Prop
  | refl (xs : List String) : Reworded xs xs
  | symm {xs ys : List String} (h : Reworded xs ys) : Reworded ys xs
  | trans {xs ys zs : List String} (h : Reworded xs ys) (h' : Reworded ys zs) : Reworded xs zs
  | reordered {xs ys : List String} (h : xs.Perm ys) : Reworded xs ys
  | repeated {e : String} {xs : List String} (h : e ∈ xs) : Reworded (e :: xs) xs
  | blank {e : String} (xs : List String) (h : isAllBlank e = true) : Reworded (e :: xs) xs
  | padded {a b : String} (e : String) (xs : List String) (ha : isAllBlank a = true)
    (hb : isAllBlank b = true) : Reworded ((a ++ e ++ b) :: xs) (e :: xs)
  | respelled (before after : String) (xs : List String) :
    Reworded ((before ++ ":" ++ after) :: xs) ((before ++ "." ++ after) :: xs)

theorem forall_isBlank_of_isAllBlank (h : isAllBlank a = true) :
    ∀ c ∈ a.toList, Text.isBlank c = true :=
  List.all_eq_true.mp h

/-- Blanks around an entry do not show in its normal form. -/
theorem normalize_pad (ha : isAllBlank a = true) (hb : isAllBlank b = true) (e : String) :
    normalize (a ++ e ++ b) = normalize e := by
  have htrim : Text.trim (a ++ e ++ b).toList = Text.trim e.toList := by
    rw [String.toList_append, String.toList_append]
    exact Text.trimWith_pad (forall_isBlank_of_isAllBlank ha) (forall_isBlank_of_isAllBlank hb) _
  simp only [normalize, normalizeChars, htrim]

/-- Nor does it show in it which mark an entry is written with. -/
theorem normalize_respell (before after : String) :
    normalize (before ++ ":" ++ after) = normalize (before ++ "." ++ after) := by
  have hmarks : (before ++ ":" ++ after).toList.map unifyMark
      = (before ++ "." ++ after).toList.map unifyMark := by
    simp only [String.toList_append, List.map_append]
    rfl
  simp only [normalize, normalizeChars, ← trim_map_unifyMark, hmarks]

/-- Entries with the same normal form are blank together. -/
theorem isAllBlank_eq_of_normalize_eq (h : normalize a = normalize b) :
    isAllBlank a = isAllBlank b := by
  rw [Bool.eq_iff_iff, ← normalize_eq_empty_iff, ← normalize_eq_empty_iff, h]

/-- The names do not depend on the wording. -/
theorem Reworded.mem_namesOf_iff (h : Reworded xs ys) (n : String) :
    n ∈ namesOf xs ↔ n ∈ namesOf ys := by
  -- an entry may stand for another one with the same normal form
  have hentry {e e' : String} (zs : List String) (he : normalize e = normalize e') :
      n ∈ namesOf (e :: zs) ↔ n ∈ namesOf (e' :: zs) := by
    rw [mem_namesOf_cons, mem_namesOf_cons, he, isAllBlank_eq_of_normalize_eq he]
  induction h with
  | refl xs => exact Iff.rfl
  | symm _ ih => exact ih.symm
  | trans _ _ ih ih' => exact ih.trans ih'
  | reordered h => simp only [mem_namesOf, h.mem_iff]
  | @repeated e xs h =>
    rw [mem_namesOf_cons, or_iff_right_iff_imp]
    exact fun he => mem_namesOf.mpr ⟨e, h, he⟩
  | @blank e xs h => simp only [mem_namesOf_cons, h, Bool.true_eq_false, and_false, false_or]
  | padded e xs ha hb => exact hentry xs (normalize_pad ha hb e)
  | respelled before after xs => exact hentry xs (normalize_respell before after)

/-! ### What is excluded -/

/-- Values that specify the same names exclude the same journeys. -/
theorem excludesBy_congr {spec spec' : Value} {ns ns' : List String} (h : names spec = .ok ns)
    (h' : names spec' = .ok ns') (hmem : ∀ n, n ∈ ns ↔ n ∈ ns') (name : String) :
    excludesBy spec name = excludesBy spec' name := by
  have hcontains : ns.contains (normalize name) = ns'.contains (normalize name) := by
    rw [Bool.eq_iff_iff, List.contains_iff_mem, List.contains_iff_mem]
    exact hmem _
  simp only [excludesBy, h, h', Except.map, hcontains]

theorem excludesBy_text (s name : String) :
    excludesBy (.text s) name = .ok (excludes (some s) name) := by
  unfold excludesBy excludes
  cases name.isEmpty <;> rfl

/-- What is excluded are the journeys that one of the names names; no text names none. -/
theorem excludes_iff (spec : Option String) (name : String) :
    excludes spec name = true ↔ normalize name ∈ namesIn (spec.getD "") := by
  cases spec with
  | none => exact iff_of_false Bool.false_ne_true List.not_mem_nil
  | some s =>
    simp only [excludes, Bool.and_eq_true, Bool.not_eq_true', List.contains_iff_mem,
      String.isEmpty_eq_false_iff, Option.getD_some, and_iff_right_iff_imp]
    -- the empty name has an empty normal form, and no name has
    rintro hmem rfl
    exact (normal_of_mem_namesOf hmem).1 rfl

/-- **The laws of exclusions.** Texts joined by commas specify the names that each of them
specifies, and if no comma stands in any of them, those that the collection of them does. So it does
not matter for what is excluded how entries are worded, in a text or in a collection. Names are not
empty and in normal form, and normalizing a name twice is normalizing it once. A text excludes a
journey with a name exactly if an entry that is not blank has the normal form of that name. -/
theorem exclusion_laws :
    (∀ xs : List String, ∃ ns, names (.text (",".intercalate xs)) = .ok ns ∧
      ∀ n, n ∈ ns ↔ ∃ x ∈ xs, ∃ ms, names (.text x) = .ok ms ∧ n ∈ ms) ∧
    (∀ xs : List String, (∀ x ∈ xs, ',' ∉ x.toList) →
      names (.text (",".intercalate xs)) = names (.list (xs.map .text))) ∧
    (∀ s t : String, Reworded (splitAt ',' s) (splitAt ',' t) →
      ∀ name, excludesBy (.text s) name = excludesBy (.text t) name) ∧
    (∀ xs ys : List String, Reworded xs ys →
      ∀ name, excludesBy (.list (xs.map .text)) name = excludesBy (.list (ys.map .text)) name) ∧
    (∀ spec ns, names spec = .ok ns → ∀ n ∈ ns, n ≠ "" ∧ normalize n = n) ∧
    (∀ name, normalize (normalize name) = normalize name) ∧
    ∀ s name : String, ∃ excluded, excludesBy (.text s) name = .ok excluded ∧
      (excluded = true ↔
        ∃ e ∈ splitAt ',' s, normalize e = normalize name ∧ isAllBlank e = false) := by
  refine ⟨?joined, ?collected, ?texts, ?collections, ?normal, normalize_normalize, ?entries⟩
  case joined =>
    intro xs
    refine ⟨xs.flatMap namesIn, congrArg Except.ok (namesIn_intercalate xs), fun n => ?_⟩
    simp only [names, Except.ok.injEq, exists_eq_left', List.mem_flatMap]
  case collected =>
    intro xs hxs
    calc names (.text (",".intercalate xs))
      _ = .ok (namesIn (",".intercalate xs)) := rfl
      _ = .ok (namesOf xs) := by rw [namesIn_intercalate_of_not_mem hxs]
      _ = names (.list (xs.map .text)) := (namesOfMembers_texts xs).symm
  case texts =>
    intro s t h
    exact excludesBy_congr rfl rfl h.mem_namesOf_iff
  case collections =>
    intro xs ys h
    exact excludesBy_congr (namesOfMembers_texts xs) (namesOfMembers_texts ys) h.mem_namesOf_iff
  case normal =>
    intro spec ns h n hn
    obtain ⟨xs, rfl⟩ := exists_namesOf_of_names h
    exact normal_of_mem_namesOf hn
  case entries =>
    intro s name
    refine ⟨_, excludesBy_text s name, ?_⟩
    rw [excludes_iff, Option.getD_some, namesIn, mem_namesOf]

/-- Two wordings of two names: with an entry that is padded, a blank and a repeated one, and with a
colon; and with none of that, in the other order. -/
theorem exclusion_laws_two_wordings :
    (∀ x ∈ [" a:A ", "", "b:B"], ',' ∉ x.toList) ∧
      names (.text " a:A ,,b:B") = names (.list ([" a:A ", "", "b:B"].map .text)) ∧
      Reworded (splitAt ',' " a:A ,,b:B,b:B") (splitAt ',' "b:B,a.A") ∧
      excludesBy (.text " a:A ,,b:B,b:B") "a:A" = excludesBy (.text "b:B,a.A") "a:A" ∧
      excludesBy (.list ([" a:A ", "", "b:B", "b:B"].map .text)) "b.B" =
        excludesBy (.list (["b:B", "a.A"].map .text)) "b.B" ∧
      names (.list [.null, .text " a:A "]) = .ok ["a.A"] ∧
      "a.A" ≠ "" ∧ normalize "a.A" = "a.A" := by
  obtain ⟨-, hcollected, htexts, hcollections, hnormal, -, -⟩ := exclusion_laws
  have hcommas : ∀ x ∈ [" a:A ", "", "b:B"], ',' ∉ x.toList := by decide
  have hnames : names (.list [.null, .text " a:A "]) = .ok ["a.A"] := rfl
  -- one rewording of every kind, one after the other
  have hreworded : Reworded [" a:A ", "", "b:B", "b:B"] ["b:B", "a.A"] := by
    have hpadded : Reworded [" a:A ", "", "b:B", "b:B"] ["a:A", "", "b:B", "b:B"] :=
      .padded (a := " ") (b := " ") "a:A" _ (by decide) (by decide)
    have hrespelled : Reworded ["a:A", "", "b:B", "b:B"] ["a.A", "", "b:B", "b:B"] :=
      .respelled "a" "A" _
    have hreordered : Reworded ["a.A", "", "b:B", "b:B"] ["", "b:B", "b:B", "a.A"] :=
      .reordered (by decide)
    have hblank : Reworded ["", "b:B", "b:B", "a.A"] ["b:B", "b:B", "a.A"] := .blank _ (by decide)
    exact hpadded.trans (hrespelled.trans (hreordered.trans
      (hblank.trans (.repeated (by decide)))))
  have hsplit : splitAt ',' " a:A ,,b:B,b:B" = [" a:A ", "", "b:B", "b:B"] := by decide
  have hsplit' : splitAt ',' "b:B,a.A" = ["b:B", "a.A"] := by decide
  have hjoined : ",".intercalate [" a:A ", "", "b:B"] = " a:A ,,b:B" := by decide
  have hreworded' : Reworded (splitAt ',' " a:A ,,b:B,b:B") (splitAt ',' "b:B,a.A") := by
    rw [hsplit, hsplit']
    exact hreworded
  exact ⟨hcommas, hjoined ▸ hcollected _ hcommas, hreworded', htexts _ _ hreworded' _,
    hcollections _ _ hreworded _, hnames, (hnormal _ _ hnames _ (by decide)).1,
    (hnormal _ _ hnames _ (by decide)).2⟩

end Timebox.Exclusion
