import Timebox.Catalogue.BuiltIn

/-!
# Resolution of identifiers

An identifier leads to a class that can be run (`Catalogue.Finds`), or it is reported as one that
leads to no journey (`Catalogue.Misses`), or what it names as a module is relative: then the search
ends in a fault of another class (`resolve_finds_or_misses`).

A dotted name is split after the longest prefix that is a module, and it leads where the same name
with a colon in that place leads; no shorter prefix is tried after that (`resolve_dotted`).
-/

namespace Timebox.Catalogue

variable {cat : Catalogue} {id name : String} {parts : List String}

/-! ### Opening modules -/

section Opening

variable {c : Char} {cs : List Char}

/-- A module of this name can be opened. -/
def Opens (cat : Catalogue) (name : String) : Prop :=
  ∃ m, cat.openModule name = .ok m

/-- There is no module of this name. -/
def Absent (cat : Catalogue) (name : String) : Prop :=
  ∃ message, cat.openModule name = .error (.absent message)

theorem front_of_toList (h : name.toList = c :: cs) : name.isEmpty = false ∧ name.front = c := by
  constructor
  · rw [String.isEmpty_eq_false_iff, ne_eq, ← String.toList_eq_nil_iff, h]
    exact List.cons_ne_nil c cs
  · rw [String.front_eq, String.front?_eq, h, List.head?_cons, Option.getD_some]

theorem openModule_of_period (h : name.toList = '.' :: cs) :
    cat.openModule name = .error .relativeName := by
  obtain ⟨hne, hfront⟩ := front_of_toList h
  rw [openModule, hne, hfront, if_neg Bool.false_ne_true, if_pos rfl]

/-- A name that does not start with a period is that of a module, or there is none. -/
theorem opens_or_absent (h : name.toList = c :: cs) (hc : c ≠ '.') :
    cat.Opens name ∨ cat.Absent name := by
  obtain ⟨hne, hfront⟩ := front_of_toList h
  unfold Opens Absent openModule
  rw [hne, hfront, if_neg Bool.false_ne_true, if_neg hc]
  cases cat.module? name with
  | some m => exact .inl ⟨m, rfl⟩
  | none => exact .inr ⟨_, rfl⟩

end Opening

/-! ### Dotted names -/

section Dotted

variable {p : String} {ps qs : List String} {c : Char} {cs : List Char}

theorem toList_dotted_append (hp : ps ≠ []) (hq : qs ≠ []) :
    (dotted (ps ++ qs)).toList = (dotted ps).toList ++ '.' :: (dotted qs).toList := by
  simp only [dotted, Text.joinTexts, String.toList_ofList, List.map_append]
  exact Text.join_append (by simpa using hp) (by simpa using hq)

theorem toList_dotted_singleton (p : String) : (dotted [p]).toList = p.toList := by
  simp [dotted, Text.joinTexts, Text.join]

/-- A dotted name starts with its first part. -/
theorem exists_toList_dotted (p : String) (ps : List String) :
    ∃ cs, (dotted (p :: ps)).toList = p.toList ++ cs := by
  cases ps with
  | nil => exact ⟨[], by rw [toList_dotted_singleton, List.append_nil]⟩
  | cons q ps =>
    refine ⟨'.' :: (dotted (q :: ps)).toList, ?_⟩
    rw [← List.singleton_append, toList_dotted_append (by simp) (by simp), toList_dotted_singleton]

theorem toList_dotted_ne_nil (hne : ps ≠ []) (h : ∀ p ∈ ps, p.toList ≠ []) :
    (dotted ps).toList ≠ [] := by
  obtain ⟨p, ps, rfl⟩ := List.exists_cons_of_ne_nil hne
  obtain ⟨cs, hcs⟩ := exists_toList_dotted p ps
  rw [hcs]
  exact List.append_ne_nil_of_left_ne_nil (h p List.mem_cons_self) cs

theorem colon_notMem_dotted (h : ∀ p ∈ ps, ':' ∉ p.toList) : ':' ∉ (dotted ps).toList := by
  rw [dotted, Text.joinTexts, String.toList_ofList]
  intro hmem
  rcases Text.mem_join hmem with hcolon | ⟨q, hq, hcolon⟩
  · exact absurd hcolon (by decide)
  · obtain ⟨p, hp, rfl⟩ := List.mem_map.mp hq
    exact h p hp hcolon

theorem splitAt_dotted (hne : ps ≠ []) (h : ∀ p ∈ ps, '.' ∉ p.toList) :
    Text.splitAt '.' (dotted ps) = ps := by
  rw [Text.splitAt, dotted, Text.joinTexts, String.toList_ofList, Text.pieces_join]
  · simp
  · simpa using hne
  · simpa using h

/-- A prefix of a name that does not start with a period is a module, or there is none. -/
theorem opens_or_absent_take (hp : p.toList = c :: cs) (hc : c ≠ '.') (ps : List String) {j : Nat}
    (hj : 0 < j) :
    cat.Opens (dotted ((p :: ps).take j)) ∨ cat.Absent (dotted ((p :: ps).take j)) := by
  obtain ⟨j, rfl⟩ := Nat.exists_eq_succ_of_ne_zero (Nat.ne_of_gt hj)
  rw [List.take_succ_cons]
  obtain ⟨rest, hrest⟩ := exists_toList_dotted p (ps.take j)
  rw [hp] at hrest
  exact opens_or_absent hrest hc

end Dotted

/-! ### Searching -/

section Searching

variable {m : ModuleEntry} {k n : Nat} {e : ResolveError}

/-- What is wrong with a path of attributes is reported for the identifier. -/
theorem followFor_eq_error (h : cat.followFor id m parts = .error e) :
    ∃ message, e = .notFound id message := by
  unfold followFor at h
  split at h
  · cases h
  · next message _ => exact ⟨message, (Except.error.inj h).symm⟩

/-- If no prefix is a module, the search ends without one. -/
theorem searchPrefix_of_absent (h : ∀ j, 0 < j → j ≤ n → cat.Absent (dotted (parts.take j))) :
    cat.searchPrefix id parts n =
      .error (.notFound id ("no importable module in " ++ Text.quoted id)) := by
  induction n with
  | zero => rfl
  | succ n ih =>
    obtain ⟨message, habsent⟩ := h (n + 1) (Nat.succ_pos n) (Nat.le_refl _)
    rw [searchPrefix, habsent]
    exact ih fun j hj hjn => h j hj (Nat.le_succ_of_le hjn)

/-- The search takes the longest prefix that is a module and follows the path from there, wherever
that leads. -/
theorem searchPrefix_of_longest (hk : 0 < k) (hkn : k ≤ n)
    (hopen : cat.openModule (dotted (parts.take k)) = .ok m)
    (h : ∀ j, k < j → j ≤ n → cat.Absent (dotted (parts.take j))) :
    cat.searchPrefix id parts n = cat.followFor id m (parts.drop k) := by
  induction n with
  | zero => omega
  | succ n ih =>
    -- the search comes down through the longer prefixes until it reaches this one
    rcases Nat.lt_or_eq_of_le hkn with hlt | rfl
    · obtain ⟨message, habsent⟩ := h (n + 1) hlt (Nat.le_refl _)
      rw [searchPrefix, habsent]
      exact ih (Nat.le_of_lt_succ hlt) fun j hj hjn => h j hj (Nat.le_succ_of_le hjn)
    · rw [searchPrefix, hopen]

/-- If every prefix either is a module or is not, the search fails only for want of a module or of
an attribute. -/
theorem searchPrefix_eq_error
    (hplain : ∀ j, 0 < j → cat.Opens (dotted (parts.take j)) ∨ cat.Absent (dotted (parts.take j)))
    (h : cat.searchPrefix id parts n = .error e) : ∃ message, e = .notFound id message := by
  induction n with
  | zero => exact ⟨_, (Except.error.inj h).symm⟩
  | succ n ih =>
    rw [searchPrefix] at h
    rcases hplain (n + 1) (Nat.succ_pos n) with ⟨m, hopen⟩ | ⟨message, habsent⟩
    · rw [hopen] at h
      exact followFor_eq_error h
    · rw [habsent] at h
      exact ih h

end Searching

/-! ### Locating -/

section Locating

variable {e : ResolveError}

/-- What the identifier names as a module starts with a period: with a colon it is all before that,
and without a colon it is all before the last period. -/
def IsRelative (id : String) : Prop :=
  ∃ cs, id.toList = '.' :: cs ∧ (':' ∈ cs ∨ '.' ∈ cs)

section Colon

variable {module path : List Char} {m : ModuleEntry}

theorem locate_of_open (hid : id.toList = module ++ ':' :: path) (hmodule : ':' ∉ module)
    (hopen : cat.openModule (String.ofList module) = .ok m) :
    cat.locate id = cat.followFor id m (Text.splitAt '.' (String.ofList path)) := by
  simp only [locate, hid, Text.cutFirst_append hmodule, hopen]

theorem locate_of_relative (hid : id.toList = module ++ ':' :: path) (hmodule : ':' ∉ module)
    (hopen : cat.openModule (String.ofList module) = .error .relativeName) :
    cat.locate id = .error .relativeModule := by
  simp only [locate, hid, Text.cutFirst_append hmodule, hopen]

theorem eq_notFound_of_colon (hid : id.toList = module ++ ':' :: path) (hmodule : ':' ∉ module)
    (hperiod : ∀ cs, module ≠ '.' :: cs) (h : cat.locate id = .error e) :
    ∃ message, e = .notFound id message := by
  simp only [locate, hid, Text.cutFirst_append hmodule] at h
  cases module with
  | nil =>
    -- an empty name is refused, and this counts as not found
    exact ⟨_, (Except.error.inj h).symm⟩
  | cons c cs =>
    have hc : c ≠ '.' := fun hc => hperiod cs (hc ▸ rfl)
    have hopens : cat.Opens (String.ofList (c :: cs)) ∨ cat.Absent (String.ofList (c :: cs)) :=
      opens_or_absent String.toList_ofList hc
    rcases hopens with ⟨m, hopen⟩ | ⟨message, habsent⟩
    · rw [hopen] at h
      exact followFor_eq_error h
    · rw [habsent] at h
      exact ⟨_, (Except.error.inj h).symm⟩

end Colon

section Periods

variable {cs : List Char}

theorem locate_of_no_colon (h : ':' ∉ id.toList) :
    cat.locate id =
      cat.searchPrefix id (Text.splitAt '.' id) ((Text.splitAt '.' id).length - 1) := by
  simp only [locate, Text.cutFirst_eq_none_iff.mpr h]

/-- Two periods, one of them in front, make the longest prefix relative. -/
theorem locate_of_periods (hid : id.toList = '.' :: cs) (hcolon : ':' ∉ id.toList)
    (hperiod : '.' ∈ cs) : cat.locate id = .error .relativeModule := by
  obtain ⟨p, rest, rfl, hp⟩ := List.eq_append_cons_of_mem hperiod
  obtain ⟨q, qs, hrest⟩ := List.exists_cons_of_ne_nil (Text.pieces_ne_nil '.' rest)
  have hparts : Text.splitAt '.' id = "" :: String.ofList p :: (q :: qs).map String.ofList := by
    rw [Text.splitAt, hid, Text.pieces, if_pos rfl, Text.pieces_append hp, hrest]
    rfl
  have hlength : (Text.splitAt '.' id).length - 1 = qs.length + 1 + 1 := by
    rw [hparts]
    simp
  -- this prefix has an empty part and one more, so it starts with the period between them
  have hopen : cat.openModule (dotted ((Text.splitAt '.' id).take (qs.length + 1 + 1))) =
      .error .relativeName := by
    rw [hparts, List.take_succ_cons, List.take_succ_cons, ← List.singleton_append]
    exact openModule_of_period (toList_dotted_append (by simp) (by simp))
  rw [locate_of_no_colon hcolon, hlength, searchPrefix, hopen]

theorem eq_notFound_of_no_colon (hcolon : ':' ∉ id.toList)
    (hperiod : ∀ cs, id.toList = '.' :: cs → '.' ∉ cs) (h : cat.locate id = .error e) :
    ∃ message, e = .notFound id message := by
  rw [locate_of_no_colon hcolon] at h
  match hid : id.toList with
  | [] =>
    -- one part has no prefixes
    have hparts : Text.splitAt '.' id = [""] := by
      rw [Text.splitAt, hid]
      rfl
    rw [hparts] at h
    exact ⟨_, (Except.error.inj h).symm⟩
  | c :: cs =>
    by_cases hc : c = '.'
    · -- the only prefix is the empty name in front of the period
      subst hc
      have hparts : Text.splitAt '.' id = ["", String.ofList cs] := by
        rw [Text.splitAt, hid, Text.pieces, if_pos rfl,
          Text.pieces_of_not_mem (hperiod cs hid)]
        rfl
      rw [hparts] at h
      exact ⟨_, (Except.error.inj h).symm⟩
    · obtain ⟨p, ps, hparts⟩ := Text.exists_pieces_cons hc cs
      rw [Text.splitAt, hid, hparts, List.map_cons] at h
      exact searchPrefix_eq_error
        (fun j hj => opens_or_absent_take String.toList_ofList hc _ hj) h

end Periods

theorem locate_of_isRelative (h : IsRelative id) : cat.locate id = .error .relativeModule := by
  obtain ⟨cs, hid, hcs⟩ := h
  by_cases hcolon : ':' ∈ id.toList
  · obtain ⟨module, path, hcut, hmodule⟩ := List.eq_append_cons_of_mem hcolon
    -- the identifier starts with a period, so the colon is not in front
    cases module with
    | nil =>
      rw [hid, List.nil_append] at hcut
      exact absurd (List.cons.inj hcut).1 (by decide)
    | cons c module =>
      obtain rfl : '.' = c := (List.cons.inj (hid.symm.trans hcut)).1
      exact locate_of_relative hcut hmodule (openModule_of_period String.toList_ofList)
  · have hperiod : '.' ∈ cs := by
      refine hcs.resolve_left fun hcs => hcolon ?_
      rw [hid]
      exact List.mem_cons_of_mem '.' hcs
    exact locate_of_periods hid hcolon hperiod

theorem eq_notFound_of_locate (hrelative : ¬ IsRelative id) (h : cat.locate id = .error e) :
    ∃ message, e = .notFound id message := by
  by_cases hcolon : ':' ∈ id.toList
  · obtain ⟨module, path, hid, hmodule⟩ := List.eq_append_cons_of_mem hcolon
    refine eq_notFound_of_colon hid hmodule (fun cs hcs => ?_) h
    subst hcs
    exact hrelative ⟨cs ++ ':' :: path, hid, .inl (by simp)⟩
  · exact eq_notFound_of_no_colon hcolon (fun cs hid hcs => hrelative ⟨cs, hid, .inr hcs⟩) h

end Locating

/-! ### Resolving -/

section Resolving

variable {identifier key : String} {j : Journey} {e : ResolveError}

/-- The item is a class that can be run. -/
def Runs (cat : Catalogue) (item : Item) (key : String) (j : Journey) : Prop :=
  item = .class key ∧ cat.journeys.lookup key = some j

/-- The identifier leads to a class that can be run. -/
def Finds (cat : Catalogue) (identifier key : String) (j : Journey) : Prop :=
  (∃ item, cat.locate (Text.strip identifier) = .ok item ∧ cat.Runs item key j) ∧
    cat.resolve identifier = .ok j

/-- The identifier leads to no journey, and this is reported as such. -/
def Misses (cat : Catalogue) (identifier : String) : Prop :=
  ∃ e, cat.resolve identifier = .error e ∧ e.fault.className = "InitializationError"

/-- What is found, as a journey. -/
def journeyOf (cat : Catalogue) (id : String) : Item → Except ResolveError Journey
  | .class key => (cat.journeys.lookup key).elim (.error (.notRunnable id)) .ok
  | _ => .error (.notAClass id)

/-- Resolving is locating, and making a journey of what is found. -/
theorem resolve_eq (hid : Text.strip identifier = id) (hne : id ≠ "") :
    cat.resolve identifier = (cat.locate id).bind (cat.journeyOf id) := by
  have hempty : id.isEmpty = false := by rwa [String.isEmpty_eq_false_iff]
  simp only [resolve, hid, hempty, Bool.false_eq_true, if_false]
  cases cat.locate id with
  | error e => rfl
  | ok item =>
    cases item with
    | «class» key =>
      simp only [Except.bind, journeyOf]
      cases cat.journeys.lookup key <;> rfl
    | _ => rfl

theorem resolve_of_error (hid : Text.strip identifier = id) (hne : id ≠ "")
    (hlocate : cat.locate id = .error e) : cat.resolve identifier = .error e := by
  rw [resolve_eq hid hne, hlocate]
  rfl

section Found

variable {item : Item}

theorem resolve_of_ok (hid : Text.strip identifier = id) (hne : id ≠ "")
    (hlocate : cat.locate id = .ok item) : cat.resolve identifier = cat.journeyOf id item := by
  rw [resolve_eq hid hne, hlocate]
  rfl

theorem journeyOf_of_runs (h : cat.Runs item key j) : cat.journeyOf id item = .ok j := by
  obtain ⟨rfl, hkey⟩ := h
  rw [journeyOf, hkey]
  rfl

theorem journeyOf_of_not_runs (h : ∀ key j, ¬ cat.Runs item key j) :
    ∃ e, cat.journeyOf id item = .error e ∧ e.fault.className = "InitializationError" := by
  cases item with
  | «class» key =>
    have hkey : cat.journeys.lookup key = none :=
      Option.eq_none_iff_forall_ne_some.mpr fun j hj => h key j ⟨rfl, hj⟩
    rw [journeyOf, hkey]
    exact ⟨.notRunnable id, rfl, rfl⟩
  | _ => exact ⟨.notAClass id, rfl, rfl⟩

theorem finds_of_runs (hid : Text.strip identifier = id) (hne : id ≠ "")
    (hlocate : cat.locate id = .ok item) (h : cat.Runs item key j) :
    cat.Finds identifier key j :=
  ⟨⟨item, hid ▸ hlocate, h⟩, (resolve_of_ok hid hne hlocate).trans (journeyOf_of_runs h)⟩

theorem misses_of_not_runs (hid : Text.strip identifier = id) (hne : id ≠ "")
    (hlocate : cat.locate id = .ok item) (h : ∀ key j, ¬ cat.Runs item key j) :
    cat.Misses identifier := by
  rw [Misses, resolve_of_ok hid hne hlocate]
  exact journeyOf_of_not_runs h

end Found

/-- **Resolving fails in one way, but for relative modules.**  An identifier leads to a class that
can be run, or it is reported that it leads to no journey; one that names a relative module is
reported by a fault of another class. -/
theorem resolve_finds_or_misses (cat : Catalogue) (identifier : String) :
    (¬ IsRelative (Text.strip identifier) →
      (∃ key j, cat.Finds identifier key j) ∨ cat.Misses identifier) ∧
    (IsRelative (Text.strip identifier) →
      ∃ e, cat.resolve identifier = .error e ∧ e.fault.className = "TypeError") := by
  constructor
  · intro hrelative
    -- resolving may end at the name, at what it names, or at whether that runs
    by_cases hne : Text.strip identifier = ""
    · refine .inr ⟨.emptyIdentifier, ?_, rfl⟩
      rw [resolve, hne]
      rfl
    · cases hlocate : cat.locate (Text.strip identifier) with
      | error e =>
        obtain ⟨message, rfl⟩ := eq_notFound_of_locate hrelative hlocate
        exact .inr ⟨_, resolve_of_error rfl hne hlocate, rfl⟩
      | ok item =>
        by_cases h : ∃ key j, cat.Runs item key j
        · obtain ⟨key, j, h⟩ := h
          exact .inl ⟨key, j, finds_of_runs rfl hne hlocate h⟩
        · exact .inr (misses_of_not_runs rfl hne hlocate fun key j hruns => h ⟨key, j, hruns⟩)
  · intro hrelative
    have hne : Text.strip identifier ≠ "" := by
      obtain ⟨cs, hid, -⟩ := hrelative
      intro hempty
      rw [hempty] at hid
      cases hid
    exact ⟨_, resolve_of_error rfl hne (locate_of_isRelative hrelative), rfl⟩

/-- Two periods in front of a name make it relative; elsewhere they leave an empty part, which no
module has. -/
theorem resolve_finds_or_misses_of_periods :
    (¬ IsRelative (Text.strip " a..b ") ∧ builtIn.Misses " a..b ") ∧
    (IsRelative (Text.strip "..a") ∧
      ∃ e, builtIn.resolve "..a" = .error e ∧ e.fault.className = "TypeError") := by
  have hinner : ¬ IsRelative (Text.strip " a..b ") := by
    rintro ⟨cs, hid, -⟩
    exact absurd (List.cons.inj hid).1 (by decide)
  have hfront : IsRelative (Text.strip "..a") := ⟨['.', 'a'], rfl, .inr List.mem_cons_self⟩
  refine ⟨⟨hinner, ?_⟩, hfront, (resolve_finds_or_misses builtIn "..a").2 hfront⟩
  refine ((resolve_finds_or_misses builtIn " a..b ").1 hinner).resolve_left ?_
  rintro ⟨key, j, -, hj⟩
  have herror : ∃ e, builtIn.resolve " a..b " = .error e := ⟨_, rfl⟩
  obtain ⟨e, he⟩ := herror
  rw [he] at hj
  cases hj

/-- A relative name is not reported as one that leads to no journey. -/
theorem not_forall_finds_or_misses :
    ¬ ∀ (cat : Catalogue) (identifier : String),
      (∃ key j, cat.Finds identifier key j) ∨ cat.Misses identifier := by
  intro h
  have hrelative : builtIn.resolve ".a.b" = .error .relativeModule :=
    resolve_of_error rfl (by decide)
      (locate_of_isRelative ⟨['a', '.', 'b'], rfl, .inr (by decide)⟩)
  rcases h builtIn ".a.b" with ⟨key, j, -, hj⟩ | ⟨e, he, hclass⟩
  · rw [hrelative] at hj
    cases hj
  · rw [hrelative] at he
    obtain rfl := Except.error.inj he
    exact absurd hclass (by decide)

end Resolving

/-! ### Dotted names and names with a colon -/

/-- A dotted name: at least one part, none of them empty or with a mark in it, and no blanks around
the name. -/
structure DottedName where
  parts : List String
  ne_nil : parts ≠ []
  ne_empty : ∀ p ∈ parts, p.toList ≠ []
  no_period : ∀ p ∈ parts, '.' ∉ p.toList
  no_colon : ∀ p ∈ parts, ':' ∉ p.toList
  unpadded : Text.strip (dotted parts) = dotted parts

namespace DottedName

variable {k : Nat} (name : DottedName)

/-- The name as it is written. -/
def text : String :=
  dotted name.parts

/-- The name with a colon in place of the period after the first `k` parts. -/
def withColon (k : Nat) : String :=
  dotted (name.parts.take k) ++ ":" ++ dotted (name.parts.drop k)

/-- The first `k` parts of the name are its longest prefix that is a module; all parts are not a
prefix. -/
structure Longest (cat : Catalogue) (k : Nat) (m : ModuleEntry) : Prop where
  pos : 0 < k
  lt : k < name.parts.length
  opens : cat.openModule (dotted (name.parts.take k)) = .ok m
  longest : ∀ j, k < j → j < name.parts.length → ¬ cat.Opens (dotted (name.parts.take j))

variable {name} {cat : Catalogue} {m : ModuleEntry}

theorem take_ne_nil (hk : 0 < k) : name.parts.take k ≠ [] := by
  obtain ⟨p, ps, hparts⟩ := List.exists_cons_of_ne_nil name.ne_nil
  simp only [hparts, ne_eq, List.take_eq_nil_iff, reduceCtorEq, or_false]
  omega

theorem drop_ne_nil (hk : k < name.parts.length) : name.parts.drop k ≠ [] := by
  simpa using hk

theorem toList_text (hk : 0 < k) (hlt : k < name.parts.length) :
    name.text.toList =
      (dotted (name.parts.take k)).toList ++ '.' :: (dotted (name.parts.drop k)).toList := by
  rw [← toList_dotted_append (take_ne_nil hk) (drop_ne_nil hlt), List.take_append_drop, text]

theorem toList_withColon (name : DottedName) (k : Nat) :
    (name.withColon k).toList =
      (dotted (name.parts.take k)).toList ++ ':' :: (dotted (name.parts.drop k)).toList := by
  simp [withColon]

/-- The mark in the middle makes no difference to what trimming does. -/
theorem strip_withColon (hk : 0 < k) (hlt : k < name.parts.length) :
    Text.strip (name.withColon k) = name.withColon k := by
  have hfirst := toList_dotted_ne_nil (take_ne_nil hk)
    fun p hp => name.ne_empty p (List.mem_of_mem_take hp)
  have hrest := toList_dotted_ne_nil (drop_ne_nil hlt)
    fun p hp => name.ne_empty p (List.mem_of_mem_drop hp)
  -- the name keeps its ends, and with a colon it has the same ends
  have htext : Text.trim name.text.toList = name.text.toList := by
    have hstrip := congrArg String.toList name.unpadded
    rwa [Text.strip, String.toList_ofList] at hstrip
  rw [toList_text hk hlt] at htext
  have hcolon := Text.trimWith_eq_self_of_middle hfirst hrest htext ':'
  rw [Text.strip, toList_withColon, Text.trim, hcolon, ← toList_withColon, String.ofList_toList]

theorem opens_or_absent_parts (hk : 0 < k) :
    cat.Opens (dotted (name.parts.take k)) ∨ cat.Absent (dotted (name.parts.take k)) := by
  obtain ⟨p, ps, hparts⟩ := List.exists_cons_of_ne_nil name.ne_nil
  have hmem : p ∈ name.parts := by rw [hparts]; exact List.mem_cons_self
  obtain ⟨c, cs, hp⟩ := List.exists_cons_of_ne_nil (name.ne_empty p hmem)
  have hc : c ≠ '.' := by
    rintro rfl
    exact name.no_period p hmem (hp ▸ List.mem_cons_self)
  rw [hparts]
  exact opens_or_absent_take hp hc ps hk

theorem locate_text_eq (cat : Catalogue) (name : DottedName) :
    cat.locate name.text = cat.searchPrefix name.text name.parts (name.parts.length - 1) := by
  have hcolon : ':' ∉ name.text.toList := colon_notMem_dotted name.no_colon
  have hsplit : Text.splitAt '.' name.text = name.parts :=
    splitAt_dotted name.ne_nil name.no_period
  rw [locate_of_no_colon hcolon, hsplit]

theorem locate_text (h : name.Longest cat k m) :
    cat.locate name.text = cat.followFor name.text m (name.parts.drop k) := by
  rw [locate_text_eq]
  refine searchPrefix_of_longest h.pos (Nat.le_sub_one_of_lt h.lt) h.opens fun j hj hjn => ?_
  exact (opens_or_absent_parts (by omega)).resolve_left (h.longest j hj (by omega))

theorem locate_withColon (h : name.Longest cat k m) :
    cat.locate (name.withColon k) = cat.followFor (name.withColon k) m (name.parts.drop k) := by
  have hmodule : ':' ∉ (dotted (name.parts.take k)).toList :=
    colon_notMem_dotted fun p hp => name.no_colon p (List.mem_of_mem_take hp)
  have hopen : cat.openModule (String.ofList (dotted (name.parts.take k)).toList) = .ok m := by
    rw [String.ofList_toList]
    exact h.opens
  rw [locate_of_open (toList_withColon name k) hmodule hopen, String.ofList_toList,
    splitAt_dotted (drop_ne_nil h.lt)]
  exact fun p hp => name.no_period p (List.mem_of_mem_drop hp)

theorem strip_text (name : DottedName) : Text.strip name.text = name.text := name.unpadded

theorem text_ne_empty (name : DottedName) : name.text ≠ "" := by
  rw [ne_eq, ← String.toList_eq_nil_iff]
  exact toList_dotted_ne_nil name.ne_nil name.ne_empty

theorem withColon_ne_empty (name : DottedName) (k : Nat) : name.withColon k ≠ "" := by
  rw [ne_eq, ← String.toList_eq_nil_iff, toList_withColon]
  simp

end DottedName

/-- A path of attributes that leads nowhere is reported for the identifier. -/
theorem followFor_of_error {m : ModuleEntry} {message : String}
    (h : cat.follow (.module m.path) parts = .error message) :
    cat.followFor id m parts = .error (.notFound id message) := by
  rw [followFor, h]

theorem followFor_of_ok {m : ModuleEntry} {item : Item}
    (h : cat.follow (.module m.path) parts = .ok item) : cat.followFor id m parts = .ok item := by
  rw [followFor, h]

/-- **A dotted name is split after its longest prefix that is a module.**  If there is none, the
name leads to no journey.  Otherwise it leads to the class to which the name leads that has a colon
there, or neither leads to a journey; and if the path leads nowhere from that module, this is the
end of the search, whatever a shorter prefix is. -/
theorem resolve_dotted (cat : Catalogue) (name : DottedName) :
    ((∀ k, 0 < k → k < name.parts.length → ¬ cat.Opens (dotted (name.parts.take k))) →
      cat.Misses name.text) ∧
    ∀ k m, name.Longest cat k m →
      ((∃ key j, cat.Finds name.text key j ∧ cat.Finds (name.withColon k) key j) ∨
        (cat.Misses name.text ∧ cat.Misses (name.withColon k))) ∧
      ∀ message, cat.follow (.module m.path) (name.parts.drop k) = .error message →
        cat.resolve name.text = .error (.notFound name.text message) := by
  constructor
  · intro hnone
    have hlocate : cat.locate name.text =
        .error (.notFound name.text ("no importable module in " ++ Text.quoted name.text)) := by
      rw [name.locate_text_eq]
      refine searchPrefix_of_absent fun j hj hjn => ?_
      exact (DottedName.opens_or_absent_parts hj).resolve_left (hnone j hj (by omega))
    exact ⟨_, resolve_of_error name.strip_text name.text_ne_empty hlocate, rfl⟩
  · intro k m h
    have hcolon : Text.strip (name.withColon k) = name.withColon k :=
      DottedName.strip_withColon h.pos h.lt
    have htextLocate := DottedName.locate_text h
    have hcolonLocate := DottedName.locate_withColon h
    cases hfollow : cat.follow (.module m.path) (name.parts.drop k) with
    | error message =>
      -- the same attribute is missing from the same item, so both end with the same message
      rw [followFor_of_error hfollow] at htextLocate hcolonLocate
      have htext := resolve_of_error name.strip_text name.text_ne_empty htextLocate
      have hwith := resolve_of_error hcolon (name.withColon_ne_empty k) hcolonLocate
      refine ⟨.inr ⟨⟨_, htext, rfl⟩, ⟨_, hwith, rfl⟩⟩, fun message' hmessage => ?_⟩
      obtain rfl := Except.error.inj hmessage
      exact htext
    | ok item =>
      rw [followFor_of_ok hfollow] at htextLocate hcolonLocate
      refine ⟨?_, fun message hmessage => nomatch hmessage⟩
      by_cases hruns : ∃ key j, cat.Runs item key j
      · obtain ⟨key, j, hruns⟩ := hruns
        exact .inl ⟨key, j, finds_of_runs name.strip_text name.text_ne_empty htextLocate hruns,
          finds_of_runs hcolon (name.withColon_ne_empty k) hcolonLocate hruns⟩
      · have hruns' : ∀ key j, ¬ cat.Runs item key j := fun key j h => hruns ⟨key, j, h⟩
        exact .inr ⟨misses_of_not_runs name.strip_text name.text_ne_empty htextLocate hruns',
          misses_of_not_runs hcolon (name.withColon_ne_empty k) hcolonLocate hruns'⟩

/-- A catalogue in which a module and an attribute of its package have the same name. -/
def shadowing : Catalogue :=
  { modules :=
      [{ path := "a", isPackage := true, attributes := [(.class "Inner", ["b"])] },
       { path := "a.b", attributes := [(.class "Job", ["Job"])] }]
    kinds := [{ key := "Inner", onClass := [(.class "Job", ["Task"])] }]
    journeys := [("Job", { name := "a.b.Job" })] }

/-- The module is taken, not the attribute: what only the attribute has is not found, although the
path from the package leads to it.  Parts are not looked for outside their package. -/
theorem resolve_dotted_of_shadowing :
    let job : DottedName :=
      ⟨["a", "b", "Job"], by decide, by decide, by decide, by decide, by decide⟩
    let task : DottedName :=
      ⟨["a", "b", "Task"], by decide, by decide, by decide, by decide, by decide⟩
    let m : ModuleEntry := { path := "a.b", attributes := [(.class "Job", ["Job"])] }
    job.Longest shadowing 2 m ∧
      (∃ key j, shadowing.Finds "a.b.Job" key j ∧ shadowing.Finds "a.b:Job" key j) ∧
      task.Longest shadowing 2 m ∧ (∃ j, shadowing.resolve "a:b.Task" = .ok j) ∧
      shadowing.resolve "a.b.Task" =
        .error (.notFound "a.b.Task" "module 'a.b' has no attribute 'Task'") ∧
      shadowing.Misses "b.Job" := by
  intro job task m
  have hopen : shadowing.openModule "a.b" = .ok m := rfl
  have hjobTake : dotted (job.parts.take 2) = "a.b" := by decide
  have htaskTake : dotted (task.parts.take 2) = "a.b" := by decide
  have hjob : job.Longest shadowing 2 m :=
    ⟨by decide, by decide, hjobTake ▸ hopen, fun j hj hjn => absurd hjn (Nat.not_lt.mpr hj)⟩
  have htask : task.Longest shadowing 2 m :=
    ⟨by decide, by decide, htaskTake ▸ hopen, fun j hj hjn => absurd hjn (Nat.not_lt.mpr hj)⟩
  have hjobText : job.text = "a.b.Job" := by decide
  have hjobColon : job.withColon 2 = "a.b:Job" := by decide
  have htaskText : task.text = "a.b.Task" := by decide
  have hfound : ∃ j, shadowing.resolve "a.b.Job" = .ok j := ⟨_, rfl⟩
  refine ⟨hjob, ?_, htask, ⟨_, rfl⟩, ?_, ?_⟩
  · have hboth := ((resolve_dotted shadowing job).2 2 m hjob).1
    rw [hjobText, hjobColon] at hboth
    refine hboth.resolve_right ?_
    rintro ⟨⟨e, he, -⟩, -⟩
    obtain ⟨j, hj⟩ := hfound
    rw [hj] at he
    cases he
  · have hlacks : shadowing.follow (.module m.path) (task.parts.drop 2) =
        .error "module 'a.b' has no attribute 'Task'" := rfl
    have hmissed := ((resolve_dotted shadowing task).2 2 m htask).2 _ hlacks
    rwa [htaskText] at hmissed
  -- of the two parts of `b.Job` only the first could be a module, and it is none
  · let outer : DottedName :=
      ⟨["b", "Job"], by decide, by decide, by decide, by decide, by decide⟩
    have houter : outer.text = "b.Job" := by decide
    rw [← houter]
    refine (resolve_dotted shadowing outer).1 fun k hk hlt => ?_
    obtain rfl : k = 1 := Nat.le_antisymm (Nat.le_of_lt_succ hlt) hk
    have htake : dotted (outer.parts.take 1) = "b" := by decide
    have habsent : ∃ e, shadowing.openModule "b" = .error e := ⟨_, rfl⟩
    obtain ⟨e, he⟩ := habsent
    rw [htake]
    rintro ⟨m, hm⟩
    rw [he] at hm
    cases hm

end Timebox.Catalogue
