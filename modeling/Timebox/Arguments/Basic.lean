import Timebox.Bindings
import Timebox.Fault.Basic
import Timebox.Text.Integer

/-!
# Arguments

Journeys read named texts from a shared collection of arguments, as texts or as integers. A scenario
overrides some of them for a while: an override takes all of its items or none, and it hands out a
token with which the collection is put back to what it was. A token works once.
-/

namespace Timebox

/-- The arguments that journeys read. -/
abbrev Arguments := Bindings

/-- What the arguments were before an override, and whether they have been put back. -/
structure Token where
  snapshot : Arguments
  restored : Bool := false
  deriving DecidableEq, Repr

/-- The parts of a value: list members, characters, or keys. -/
def Value.parts? : Value → Option (List Value)
  | .list items => some items
  | .text s => some (s.toList.map fun c => .text (String.ofList [c]))
  | .map entries => some (entries.map Prod.fst)
  | _ => none

/-- A value without parts. -/
abbrev Indivisible := { v : Value // v.parts? = none }

/-- An item of an override: a checked pair, or anything that may turn out to be one. -/
inductive OverrideItem where
  | pair (key value : String)
  | loose (v : Value)
  deriving Repr

/-- The items of an override, or a value that holds no items. -/
inductive OverrideItems where
  | items (xs : List OverrideItem)
  | single (v : Indivisible)
  deriving Repr

/-- The items that a value holds: its parts. -/
def OverrideItems.ofValue (v : Value) : OverrideItems :=
  match h : v.parts? with
  | some parts => .items (parts.map .loose)
  | none => .single ⟨v, h⟩

/-- Why an item is not a pair of texts. -/
inductive PairError where
  /-- The value has no parts. -/
  | indivisible (v : Value)
  /-- The value has not two parts. -/
  | partCount (n : Nat)
  /-- One of the two parts is not a text. -/
  | notTexts (key value : Value)
  deriving Repr

namespace PairError

/-- The class name of a kind of value. -/
def kindName : Value → String
  | .null => "NoneType"
  | .bool _ => "bool"
  | .int _ => "int"
  | .real _ => "float"
  | .text _ => "str"
  | .date _ => "datetime.date"
  | .timestamp _ => "datetime.datetime"
  | .list _ => "list"
  | .map _ => "dict"

/-- The fault of a value that holds no items at all. -/
def noItems (v : Value) : Fault :=
  .general .badType (some ("'" ++ kindName v ++ "' object is not iterable"))

/-- The fault that reports the error. Two parts that are not both texts are shown, which fails if
there is an integer in them with too many digits. -/
def fault : PairError → Fault
  | indivisible v =>
    .general .badType (some ("cannot unpack non-iterable " ++ kindName v ++ " object"))
  | partCount n =>
    if n < 2 then
      .general .badValue
        (some ("not enough values to unpack (expected 2, got " ++ toString n ++ ")"))
    else .general .badValue (some "too many values to unpack (expected 2)")
  | notTexts key value =>
    if key.isWritable && value.isWritable then
      .badArgument ("extra argument must be str->str, got " ++ key.listing ++ "=" ++ value.listing)
    else .tooManyDigits

end PairError

/-- The pair of texts that an item is. -/
def OverrideItem.toPair : OverrideItem → Except PairError (String × String)
  | pair key value => .ok (key, value)
  | loose v =>
    match v.parts? with
    | none => .error (.indivisible v)
    | some [.text key, .text value] => .ok (key, value)
    | some [key, value] => .error (.notTexts key value)
    | some parts => .error (.partCount parts.length)

namespace Arguments

/-- The integer that an argument writes; the default if it is not bound or blank. -/
def integer (a : Arguments) (key : String) (default : Int) : Except Fault Int :=
  match a.get? key with
  | none => .ok default
  | some raw =>
    if Text.isAllBlank raw then .ok default
    else match Text.readBlankedInteger raw with
      | some n => .ok n
      | none => .error (.badArgument (key ++ "=" ++ Text.quoted raw ++ " is not an integer"))

/-- A token for the arguments as they are. -/
def save (a : Arguments) : Token := { snapshot := a }

/-- Put the arguments back to what they were when the token was made, once. -/
def restore (a : Arguments) (token : Token) : Arguments × Token :=
  if token.restored then (a, token) else (token.snapshot, { token with restored := true })

/-- Write items one after the other: the arguments as far as this gets, and the error of the first
item that is no pair. -/
def writePairs : Arguments → List OverrideItem → Arguments × Option PairError
  | a, [] => (a, none)
  | a, x :: xs =>
    match x.toPair with
    | .error e => (a, some e)
    | .ok (key, value) => writePairs (a.set key value) xs

/-- Write the items of an override, as far as this gets. -/
def write (a : Arguments) : OverrideItems → Arguments × Option Fault
  | .single v => (a, some (PairError.noItems v))
  | .items xs =>
    let (written, error) := a.writePairs xs
    (written, error.map PairError.fault)

/-- Override some arguments: what they are then, and the token that puts them back. A fault on the
way puts them back at once. -/
def override (a : Arguments) (items : OverrideItems) : Arguments × Except Fault Token :=
  let token := a.save
  match a.write items with
  | (written, none) => (written, .ok token)
  | (written, some f) => ((written.restore token).1, .error f)

end Arguments

end Timebox
