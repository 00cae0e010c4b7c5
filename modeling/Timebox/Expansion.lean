import Timebox.Bindings
import Timebox.Fault.Basic
import Timebox.Text.Blank
import Timebox.Text.Cut

/-!
# Expansion of environment tokens

Texts in configuration may hold tokens of the form `${NAME}` or `${NAME:-default}`. A text is read
as literal characters and tokens; each token is replaced once by the variable's text, or by the
default when the variable is blank, and what is put in is not looked at again. A token is one or
more characters other than the closing brace. In structured data only texts are expanded; keys
are turned into texts and left alone.
-/

namespace Timebox.Expansion

/-- A part of a text. -/
inductive Piece where
  | literal (c : Char)
  /-- What stands between the braces of a token. -/
  | token (content : List Char)
  deriving DecidableEq, Repr

/-- The content of a token whose opening has been read, and what follows its closing brace. -/
def tokenAfterOpening (cs : List Char) : Option (List Char × List Char) :=
  match Text.cutFirst '\x7d' cs with
  | some (content, rest) => if content.isEmpty then none else some (content, rest)
  | none => none

/-- A token is read up to the first closing brace, and something stands before that. -/
theorem tokenAfterOpening_eq_some_iff {cs content rest : List Char} :
    tokenAfterOpening cs = some (content, rest) ↔
      cs = content ++ '\x7d' :: rest ∧ content ≠ [] ∧ '\x7d' ∉ content := by
  constructor
  · intro h
    unfold tokenAfterOpening at h
    split at h
    · next a b hcut =>
      obtain ⟨rfl, hclosed⟩ := Text.cutFirst_eq_some_iff.mp hcut
      split at h
      · cases h
      · next hne =>
        cases h
        exact ⟨rfl, by simpa using hne, hclosed⟩
    · cases h
  · rintro ⟨rfl, hne, hclosed⟩
    simp [tokenAfterOpening, Text.cutFirst_append hclosed, hne]

/-- What follows a token is shorter. -/
theorem length_lt_of_tokenAfterOpening {cs content rest : List Char}
    (h : tokenAfterOpening cs = some (content, rest)) : rest.length < cs.length := by
  obtain ⟨rfl, -⟩ := tokenAfterOpening_eq_some_iff.mp h
  simp only [List.length_append, List.length_cons]
  omega

/-- The parts of a text, from left to right. -/
def pieces : List Char → List Piece
  | [] => []
  | '$' :: '\x7b' :: cs =>
    match _h : tokenAfterOpening cs with
    | some (content, rest) => .token content :: pieces rest
    | none => .literal '$' :: pieces ('\x7b' :: cs)
  | c :: cs => .literal c :: pieces cs
termination_by cs => cs.length
decreasing_by
  · have := length_lt_of_tokenAfterOpening _h
    simp only [List.length_cons]
    omega
  · simp
  · simp

/-- Why a text cannot be expanded. -/
inductive Failure where
  /-- The variable of a token without a default is blank or not there. -/
  | missingVariable (name : String)
  /-- A key has no text. -/
  | noKeyText
  deriving DecidableEq, Repr

/-- The fault that reports a failure. -/
def Failure.fault : Failure → Fault
  | missingVariable name => .coded .profile (some ("missing environment variable: " ++ name)) none
  | noKeyText => .general .badValue (some "a key has no text")

/-- The text of a variable; one that is not there is empty. -/
def textOf (env : Bindings) (name : List Char) : String :=
  (env.get? (String.ofList name)).getD ""

/-- What replaces a token. -/
def replacement (env : Bindings) (content : List Char) : Except Failure (List Char) :=
  match Text.cutFirstPair ':' '-' content with
  | some (name, default) =>
    let actual := textOf env name
    .ok (if Text.isAllBlank actual then default else actual.toList)
  | none =>
    let actual := textOf env content
    if Text.isAllBlank actual then .error (.missingVariable (String.ofList content))
    else .ok actual.toList

/-- The variable that a token names. -/
def variableOf (content : List Char) : String :=
  match Text.cutFirstPair ':' '-' content with
  | some (name, _) => String.ofList name
  | none => String.ofList content

/-- The variables that the tokens of a text name. -/
def variablesInText (s : String) : List String :=
  (pieces s.toList).filterMap fun
    | .literal _ => none
    | .token content => some (variableOf content)

/-- What replaces a part. -/
def Piece.expand (env : Bindings) : Piece → Except Failure (List Char)
  | .literal c => .ok [c]
  | .token content => replacement env content

/-- What replaces parts, or the failure of the first that fails. -/
def expandPieces (env : Bindings) : List Piece → Except Failure (List Char)
  | [] => .ok []
  | p :: ps =>
    match p.expand env with
    | .error e => .error e
    | .ok cs =>
      match expandPieces env ps with
      | .error e => .error e
      | .ok rest => .ok (cs ++ rest)

/-- A text with its tokens replaced. -/
def expandText (env : Bindings) (s : String) : Except Failure String :=
  (expandPieces env (pieces s.toList)).map String.ofList

/-- Set a text key's value: in its place if it is there, at the end otherwise. -/
def setField (key : String) (value : Value) : List (Value × Value) → List (Value × Value)
  | [] => [(.text key, value)]
  | (.text k, v) :: rest =>
    if k = key then (.text k, value) :: rest else (.text k, v) :: setField key value rest
  | entry :: rest => entry :: setField key value rest

mutual

/-- Structured data with the tokens in its texts replaced and its keys turned into texts. -/
def expand (env : Bindings) : Value → Except Failure Value
  | .text s => (expandText env s).map .text
  | .list items => (expandItems env items).map .list
  | .map entries =>
    (expandEntries env entries).map fun es =>
      .map (es.foldl (fun acc (k, v) => setField k v acc) [])
  | v => .ok v

/-- The members of a list, expanded. -/
def expandItems (env : Bindings) : List Value → Except Failure (List Value)
  | [] => .ok []
  | v :: vs =>
    match expand env v with
    | .error e => .error e
    | .ok v =>
      match expandItems env vs with
      | .error e => .error e
      | .ok vs => .ok (v :: vs)

/-- The entries of a mapping with keys as texts and values expanded. -/
def expandEntries (env : Bindings) : List (Value × Value) → Except Failure (List (String × Value))
  | [] => .ok []
  | (k, v) :: rest =>
    if k.isWritable then
      match expand env v with
      | .error e => .error e
      | .ok v =>
        match expandEntries env rest with
        | .error e => .error e
        | .ok rest => .ok ((k.display, v) :: rest)
    else .error .noKeyText

end

mutual

/-- The variables that the tokens in structured data name. -/
def variablesOf : Value → List String
  | .text s => variablesInText s
  | .list items => variablesInItems items
  | .map entries => variablesInEntries entries
  | _ => []

/-- The variables that the tokens in the members of a list name. -/
def variablesInItems : List Value → List String
  | [] => []
  | v :: vs => variablesOf v ++ variablesInItems vs

/-- The variables that the tokens in the values of a mapping name. -/
def variablesInEntries : List (Value × Value) → List String
  | [] => []
  | (_, v) :: rest => variablesOf v ++ variablesInEntries rest

end

end Timebox.Expansion
