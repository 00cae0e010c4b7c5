import Timebox.Arguments.Basic
import Timebox.Scenario

/-!
# Programs over arguments

A small language of operations on arguments: reading, overriding, saving and restoring by named
tokens, comparing, and blocks that hold for the duration of an override. Running a program gives one
reply per operation, each with the arguments as they are after it; a faulty operation does not stop
the program.
-/

namespace Timebox

/-- An item as it is written down: a record to be checked, or a loose value. -/
inductive WrittenItem where
  | record (fields : Validation.Fields)
  | loose (v : Value)
  deriving Repr

/-- The items of an override as they are written down: one by one, or as any other value. -/
inductive WrittenItems where
  | items (xs : List WrittenItem)
  | value (v : Value)
  deriving Repr

/-- An operation on arguments. -/
inductive ArgumentOp where
  | get (key : String) (default : Option String)
  | integer (key : String) (default : Int)
  | contains (key : String)
  | size
  | save (token : String)
  | override (items : WrittenItems) (token : String)
  | restore (token : String)
  /-- Compare with the texts among some entries. -/
  | sameTexts (other : List (Value × Value))
  /-- Compare with arguments made from some entries. -/
  | sameArguments (other : List (Value × Value))
  /-- Run operations under an override, then raise a fault if one is given. -/
  | block (items : WrittenItems) (body : List ArgumentOp) (fault : Option Fault)
  deriving Repr

/-- A value that an operation answers. -/
inductive ArgumentValue where
  | text (s : Option String)
  | integer (n : Int)
  | flag (b : Bool)
  | count (n : Nat)
  | arguments (a : Arguments)
  | token (t : Token)
  deriving Repr

/-- Why a block was left early: it could not be entered, or its body raised a fault. -/
inductive BlockEnd where
  | refused (f : Fault)
  | raised (f : Fault)
  deriving Repr

/-- What an operation answers, and the arguments after it. -/
inductive Reply where
  | value (v : ArgumentValue) (after : Arguments)
  | fault (f : Fault) (after : Arguments)
  /-- A block: the replies inside it, and how it was left. -/
  | block (inner : List Reply) (outcome : Option BlockEnd) (after : Arguments)
  deriving Repr

/-- Arguments with named tokens. -/
structure ArgumentState where
  arguments : Arguments
  tokens : List (String × Token) := []

namespace WrittenItems

/-- Check the records among written items, first to last. -/
def checkRecords : List WrittenItem → Except Fault (List OverrideItem)
  | [] => .ok []
  | .loose v :: xs => (checkRecords xs).map (.loose v :: ·)
  | .record fields :: xs =>
    match ExtraArgument.ofFields fields with
    | .error issues => .error (.rejected issues)
    | .ok x => (checkRecords xs).map (.pair x.key x.value :: ·)

/-- The items of an override, all records checked before it starts. -/
def check : WrittenItems → Except Fault OverrideItems
  | .value v => .ok (.ofValue v)
  | .items xs => (checkRecords xs).map .items

end WrittenItems

namespace Arguments

/-- Override arguments with items as they are written down: what the arguments are then, and the
token that puts them back. -/
def overrideWritten (a : Arguments) (items : WrittenItems) : Arguments × Except Fault Token :=
  match items.check with
  | .error f => (a, .error f)
  | .ok items => a.override items

/-- The texts among some entries, bound to the displays of their keys. -/
def textsOf (entries : List (Value × Value)) : Bindings :=
  .ofPairs (entries.filterMap fun (k, v) => v.text?.map fun s => (k.display, s))

end Arguments

namespace ArgumentState

/-- Keep a token under a name; a token kept there before is given up. -/
def keep (s : ArgumentState) (name : String) (token : Token) : ArgumentState :=
  { s with tokens := (name, token) :: s.tokens.filter fun t => t.1 != name }

/-- The token kept under a name. -/
def token? (s : ArgumentState) (name : String) : Option Token :=
  s.tokens.lookup name

/-- The fault of a name that keeps no token. -/
def noToken (name : String) : Fault :=
  .general .missingKey (some name)

/-- Restore the token of a name; it stays there, used. -/
def restoreNamed (s : ArgumentState) (name : String) : Reply × ArgumentState :=
  match s.token? name with
  | none => (.fault (noToken name) s.arguments, s)
  | some token =>
    let (arguments, token) := s.arguments.restore token
    (.value (.flag token.restored) arguments, { s with arguments }.keep name token)

end ArgumentState

/-- Answer a value and leave the state as it is. -/
def ArgumentState.answer (s : ArgumentState) (v : ArgumentValue) : Reply × ArgumentState :=
  (.value v s.arguments, s)

mutual

/-- Run one operation. -/
def ArgumentOp.run : ArgumentOp → ArgumentState → Reply × ArgumentState
  | .get key default, s => s.answer (.text ((s.arguments.get? key).or default))
  | .integer key default, s =>
    match Arguments.integer s.arguments key default with
    | .ok n => s.answer (.integer n)
    | .error f => (.fault f s.arguments, s)
  | .contains key, s => s.answer (.flag (s.arguments.contains key))
  | .size, s => s.answer (.count s.arguments.size)
  | .save name, s =>
    (.value (.arguments s.arguments) s.arguments, s.keep name (Arguments.save s.arguments))
  | .override items name, s =>
    match Arguments.overrideWritten s.arguments items with
    | (arguments, .error f) => (.fault f arguments, { s with arguments })
    | (arguments, .ok token) =>
      (.value (.token token) arguments, { s with arguments }.keep name token)
  | .restore name, s => s.restoreNamed name
  | .sameTexts other, s => s.answer (.flag (s.arguments.sameAs (Arguments.textsOf other)))
  | .sameArguments other, s => s.answer (.flag (s.arguments.sameAs (.ofEntries other)))
  | .block items body fault, s =>
    match Arguments.overrideWritten s.arguments items with
    | (arguments, .error f) => (.block [] (some (.refused f)) arguments, { s with arguments })
    | (arguments, .ok token) =>
      let (replies, inner) := ArgumentOp.runAll body { s with arguments }
      let (arguments, _) := Arguments.restore inner.arguments token
      (.block replies (fault.map .raised) arguments, { inner with arguments })

/-- Run operations in order. -/
def ArgumentOp.runAll : List ArgumentOp → ArgumentState → List Reply × ArgumentState
  | [], s => ([], s)
  | op :: ops, s =>
    let (reply, s) := op.run s
    let (replies, s) := ArgumentOp.runAll ops s
    (reply :: replies, s)

end

end Timebox
