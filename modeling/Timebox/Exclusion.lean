import Timebox.Text.Blank
import Timebox.Text.Cut
import Timebox.Value.Basic

/-!
# Exclusion of journeys

Journeys are excluded by name. A specification lists names between commas, or is a collection of
names. Names are compared in normal form: without blanks around them, and with a period wherever
a colon separates the module from the journey. Blank entries name nothing.

Main statement: normalizing a name twice is the same as normalizing it once
(`normalizeChars_idempotent`).
-/

namespace Timebox.Exclusion

/-- A period for a colon. -/
def unifyMark (c : Char) : Char :=
  if c = ':' then '.' else c

/-- The normal form of a name. -/
def normalizeChars (cs : List Char) : List Char :=
  (Text.trim cs).map unifyMark

/-- The normal form of a name. -/
def normalize (name : String) : String :=
  String.ofList (normalizeChars name.toList)

/-- The names among entries: blank entries are passed over. -/
def namesOf (entries : List String) : List String :=
  (entries.filter fun e => !Text.isAllBlank e).map normalize

/-- The names in a text, separated by commas. -/
def namesIn (spec : String) : List String :=
  namesOf (Text.splitAt ',' spec)

/-- The text excludes the journey of a name; the empty name is never excluded. -/
def excludes (spec : Option String) (journey : String) : Bool :=
  match spec with
  | none => false
  | some s => !journey.isEmpty && (namesIn s).contains (normalize journey)

/-- Why a value specifies no names. -/
inductive SpecError where
  /-- It is no collection. -/
  | noCollection
  /-- A member that counts as true is no text. -/
  | memberNotText
  deriving DecidableEq, Repr

/-- The members of a specification that is not a text. -/
def membersOf : Value → Except SpecError (List Value)
  | .list items => .ok items
  | .map entries => .ok (entries.map Prod.fst)
  | _ => .error .noCollection

/-- The names among members; members that do not count as true are passed over. -/
def namesOfMembers : List Value → Except SpecError (List String)
  | [] => .ok []
  | v :: vs =>
    if v.isEmptyish then namesOfMembers vs
    else match v with
      | .text s => (namesOfMembers vs).map fun names => namesOf [s] ++ names
      | _ => .error .memberNotText

/-- The names that a value specifies. -/
def names : Value → Except SpecError (List String)
  | .null => .ok []
  | .text s => .ok (namesIn s)
  | v =>
    match membersOf v with
    | .error e => .error e
    | .ok members => namesOfMembers members

/-- The value excludes the journey of a name. The empty name is never excluded, and the value is
not looked at for it. -/
def excludesBy (spec : Value) (journey : String) : Except SpecError Bool :=
  if journey.isEmpty then .ok false
  else (names spec).map fun ns => ns.contains (normalize journey)

/-- Names in order, each once. -/
def sorted (ns : List String) : List String :=
  (ns.mergeSort fun a b => !(b < a)).eraseDups

/-- Unifying marks twice changes nothing more. -/
theorem unifyMark_unifyMark (c : Char) : unifyMark (unifyMark c) = unifyMark c := by
  unfold unifyMark
  split <;> simp_all

/-- Unifying marks keeps blanks. -/
theorem isBlank_unifyMark (c : Char) : Text.isBlank (unifyMark c) = Text.isBlank c := by
  unfold unifyMark
  split
  · next h => subst h; decide
  · rfl

/-- Dropping blanks from the front commutes with unifying marks. -/
theorem dropWhile_map_unifyMark (cs : List Char) :
    (cs.map unifyMark).dropWhile Text.isBlank = (cs.dropWhile Text.isBlank).map unifyMark := by
  induction cs with
  | nil => rfl
  | cons c cs ih =>
    cases h : Text.isBlank c <;> simp [List.dropWhile, isBlank_unifyMark, h, ih]

/-- Trimming commutes with unifying marks. -/
theorem trim_map_unifyMark (cs : List Char) :
    Text.trim (cs.map unifyMark) = (Text.trim cs).map unifyMark := by
  simp only [Text.trim, Text.trimWith, dropWhile_map_unifyMark, ← List.map_reverse]

/-- Normalizing a name twice is the same as normalizing it once. -/
theorem normalizeChars_idempotent (cs : List Char) :
    normalizeChars (normalizeChars cs) = normalizeChars cs := by
  have hmarks : unifyMark ∘ unifyMark = unifyMark := funext unifyMark_unifyMark
  unfold normalizeChars
  rw [trim_map_unifyMark, List.map_map, hmarks]
  exact congrArg (List.map unifyMark) (Text.trimWith_trimWith _ _)

theorem normalize_normalize (name : String) : normalize (normalize name) = normalize name := by
  unfold normalize
  rw [String.toList_ofList, normalizeChars_idempotent]

/-- Only blank names have an empty normal form. -/
theorem normalize_eq_empty_iff (name : String) :
    normalize name = "" ↔ Text.isAllBlank name = true := by
  have hempty : normalize name = "" ↔ normalizeChars name.toList = [] := String.ofList_eq_empty_iff
  rw [hempty, normalizeChars, List.map_eq_nil_iff, Text.trim_eq_nil_iff, Text.isAllBlank,
    List.all_eq_true]

end Timebox.Exclusion
