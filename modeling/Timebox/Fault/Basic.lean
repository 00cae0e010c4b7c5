import Timebox.Validation.Issue
import Timebox.Value.Text

/-!
# Faults

What can go wrong in a journey or in one of the collaborators of a run. A fault has a class name and
a text: faults that cannot tell their text, such as one whose only argument is an integer with too
many digits, are not among these. *Ordinary* faults are contained where observers are guarded; a
request to exit and an interrupt are not ordinary and pass through such guards.
-/

namespace Timebox

/-- The general kinds of fault. -/
inductive GeneralKind where
  | runtime
  | badValue
  | missingKey
  | assertion
  | badType
  | unspecific
  | notImplemented
  | timeout
  /-- A number is too large for its use. -/
  | tooLarge
  | exitRequest
  | interrupt
  deriving DecidableEq, Repr

/-- The kinds of fault that carry a reason code. -/
inductive CodedKind where
  | runner
  | initialization
  | argument
  | profile
  | cancelled
  deriving DecidableEq, Repr

/-- A fault. -/
inductive Fault where
  /-- A fault of a general kind, with or without a text. -/
  | general (kind : GeneralKind) (message : Option String)
  /-- A fault with a reason code: the kind's own unless another is given. -/
  | coded (kind : CodedKind) (detail code : Option String)
  /-- A journey did not complete within its budget. -/
  | overrun (timeout unit : Value)
  /-- A fault of a journey's own making, which may name a time limit. -/
  | custom (message : Option String) (timeout unit : Option Value)
  /-- Data that was refused. -/
  | rejected (issues : List Validation.Issue)
  deriving Repr

namespace GeneralKind

/-- The class name of a kind. -/
def className : GeneralKind → String
  | runtime => "RuntimeError"
  | badValue => "ValueError"
  | missingKey => "KeyError"
  | assertion => "AssertionError"
  | badType => "TypeError"
  | unspecific => "Exception"
  | notImplemented => "NotImplementedError"
  | timeout => "TimeoutError"
  | tooLarge => "OverflowError"
  | exitRequest => "SystemExit"
  | interrupt => "KeyboardInterrupt"

end GeneralKind

namespace CodedKind

/-- The class name of a kind. -/
def className : CodedKind → String
  | runner => "ScheduledRunnerError"
  | initialization => "InitializationError"
  | argument => "ArgumentError"
  | profile => "ProfileError"
  | cancelled => "JourneyCancelled"

/-- The reason code of a kind. -/
def code : CodedKind → String
  | runner => "RUNNER_ERROR"
  | initialization => "JOURNEY_UNRESOLVED"
  | argument => "ARGUMENT_INVALID"
  | profile => "PROFILE_INVALID"
  | cancelled => "CANCELLED"

end CodedKind

namespace Fault

/-- The class name of a fault. -/
def className : Fault → String
  | general kind _ => kind.className
  | coded kind _ _ => kind.className
  | overrun .. => "JourneyTimedOut"
  | custom .. => "CustomError"
  | rejected _ => "ValidationError"

/-- The code of a coded fault: the one given, if it is not empty, else its kind's. -/
def codeOf (kind : CodedKind) (code : Option String) : String :=
  match code with
  | some c => if c.isEmpty then kind.code else c
  | none => kind.code

/-- The text of a coded fault: its code, and its detail if there is one. -/
def codedText (kind : CodedKind) (detail code : Option String) : String :=
  match detail with
  | some d => if d.isEmpty then codeOf kind code else codeOf kind code ++ ":" ++ d
  | none => codeOf kind code

/-- The name of a unit of time; a unit without a name stands for itself. -/
def unitName : Value → String
  | .text "ms" => "milliseconds"
  | .text "s" => "seconds"
  | unit => unit.display

/-- The text of a fault. A missing key's text is quoted. -/
def message : Fault → String
  | general .missingKey (some t) => Text.quoted t
  | general _ t => t.getD ""
  | coded kind detail code => codedText kind detail code
  | overrun timeout unit => "test timed out after " ++ timeout.display ++ " " ++ unitName unit
  | custom t _ _ => t.getD ""
  | rejected _ => ""

/-- The fault is contained where observers are guarded. -/
def isOrdinary : Fault → Bool
  | general .exitRequest _ => false
  | general .interrupt _ => false
  | _ => true

/-- What a guard lets through: a fault that is not ordinary. -/
def escaping : Option Fault → Option Fault
  | some f => if f.isOrdinary then none else some f
  | none => none

/-- The fault says that a journey observed its cancellation. -/
def isCancellation : Fault → Bool
  | coded .cancelled _ _ => true
  | _ => false

/-- The time limit that a fault names, with its unit; an absent value names none. -/
def limit? : Fault → Option (Value × Value)
  | overrun .null _ => none
  | overrun timeout unit => some (timeout, unit)
  | custom _ (some .null) _ => none
  | custom _ (some timeout) unit => some (timeout, unit.getD (.text "ms"))
  | _ => none

/-- A journey's overrun of a budget in milliseconds. -/
def timedOut (budget : Nat) : Fault :=
  overrun (.int budget) (.text "ms")

/-- The fault that a journey raises when it checks a signal that is set. -/
def cancelledAtDeadline : Fault :=
  coded .cancelled (some "journey cancelled at deadline") none

/-- An integer has too many digits to be written. -/
def tooManyDigits : Fault :=
  general .badValue (some
    ("Exceeds the limit (" ++ toString Text.maxDigits ++ " digits) for integer string " ++
      "conversion; use sys.set_int_max_str_digits() to increase the limit"))

/-- A faulty argument. -/
def badArgument (detail : String) : Fault :=
  coded .argument (some detail) none

end Fault

end Timebox
