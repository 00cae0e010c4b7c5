import Timebox.Expansion
import Timebox.Markup.Document
import Timebox.Profile
import Timebox.Scenario

/-!
# Loading profiles and scenarios

Profiles and scenarios are kept as markup texts. A text is read, has to be a mapping, gets its
environment tokens expanded, and is checked field by field. A text that holds nothing is an empty
mapping. A scenario may stand under a key of its own, and then everything beside it is passed over.

How a text is read is up to a reader, of which loading takes no more than that it gives data, finds
the text not well formed, or raises a fault when it converts something in the text.
-/

namespace Timebox

namespace Markup

/-- Why a text is not read. -/
inductive ReadError where
  | malformed
  /-- The conversion of something in the text raises a fault. -/
  | raised (f : Fault)
  deriving Repr

/-- A reader of markup texts. -/
abbrev Reader := String → Except ReadError Value

/-- How a defect is reported: a scalar without a value is a bad value. -/
def Defect.error : Defect → ReadError
  | malformed => .malformed
  | noValue => .raised (.general .badValue (some "a scalar has no value"))
  | tooLarge => .raised (.general .tooLarge (some "a number is out of range"))

/-- The reader of the program. -/
def reader : Reader := fun text => (read text).mapError Defect.error

end Markup

/-- Why a profile or a scenario cannot be loaded. -/
inductive LoadError where
  /-- The text is not read. -/
  | unread (e : Markup.ReadError)
  | notAMapping
  /-- A token cannot be expanded. -/
  | expansion (f : Expansion.Failure)
  | invalid (issues : List Validation.Issue)
  deriving Repr

/-- The fault that reports the error for the file of a path. What the reader raises is reported as
it is, and not as a faulty profile. -/
def LoadError.fault (path : String) : LoadError → Fault
  | expansion f => f.fault
  | unread .malformed => about "not well formed"
  | unread (.raised f) => f
  | notAMapping => about "expected a mapping"
  | invalid issues => about ("; ".intercalate (issues.map Validation.Issue.text))
where
  /-- A fault of the file. -/
  about (detail : String) : Fault :=
    .coded .profile (some (path ++ ": " ++ detail)) none

/-- The text of the error for the file of a path. -/
def LoadError.message (path : String) (e : LoadError) : String :=
  (e.fault path).message

namespace Loading

/-- The entries of a value; an absent value has none. -/
def entriesOf : Value → Except LoadError (List (Value × Value))
  | .null => .ok []
  | .map entries => .ok entries
  | _ => .error .notAMapping

/-- The expanded entries of a mapping. -/
def expandEntries (env : Bindings) (entries : List (Value × Value)) :
    Except LoadError (List (Value × Value)) :=
  match Expansion.expand env (.map entries) with
  | .ok (.map es) => .ok es
  | .ok _ => .error .notAMapping
  | .error f => .error (.expansion f)

/-- The expanded entries of a text. -/
def readEntries (read : Markup.Reader) (env : Bindings) (text : String) :
    Except LoadError (List (Value × Value)) :=
  match read text with
  | .error e => .error (.unread e)
  | .ok v => (entriesOf v).bind (expandEntries env)

/-- The variables that a text names in its tokens; a text that is not read names none. -/
def variablesOf (read : Markup.Reader) (text : String) : List String :=
  match read text with
  | .ok v => Expansion.variablesOf v
  | .error _ => []

/-- Check entries field by field. -/
def check {α : Type} (ofFields : Validation.Fields → Validation.Checked α)
    (entries : List (Value × Value)) : Except LoadError α :=
  match ofFields (Validation.fieldsOf entries) with
  | .ok a => .ok a
  | .error issues => .error (.invalid issues)

/-- The key under which a scenario may stand. -/
def scenarioKey : String := "scenario"

/-- The entries of the scenario among entries. -/
def unwrap (entries : List (Value × Value)) : List (Value × Value) :=
  match Value.lookup scenarioKey entries with
  | some (.map inner) => inner
  | _ => entries

end Loading

/-- Load a profile from a text. -/
def Profile.load (read : Markup.Reader) (env : Bindings) (text : String) :
    Except LoadError Profile :=
  (Loading.readEntries read env text).bind (Loading.check Profile.ofFields)

/-- Load a scenario from a text. -/
def Scenario.load (read : Markup.Reader) (env : Bindings) (text : String) :
    Except LoadError Scenario :=
  (Loading.readEntries read env text).bind fun es =>
    Loading.check Scenario.ofFields (Loading.unwrap es)

end Timebox
