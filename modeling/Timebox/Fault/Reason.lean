import Timebox.Fault.Basic
import Timebox.Text.Blank
import Timebox.Text.Case
import Timebox.Text.Cut

/-!
# Reason codes

A reason code is a short word for why a journey ended. A coded fault and an overrun bring their own
code, a failed assertion has a fixed one, and any other fault is looked at as text: when the part
before the first colon is in capitals and holds no space, that part is the code.
-/

namespace Timebox

/-- The code that a text carries before its first colon, if it carries one. -/
def leadingCode (text : List Char) : Option (List Char) :=
  match Text.cutFirst ':' (Text.trim text) with
  | none => none
  | some (head, _) =>
    let head := Text.trim head
    if Text.isAllCapitals head && !head.contains ' ' then some head else none

/-- The code of a fault that has no code of its own. -/
def derivedReason (message : String) : String :=
  match leadingCode message.toList with
  | some code => String.ofList code
  | none => "RUNTIME_FAILURE"

/-- The reason code of a fault. -/
def Fault.reason : Fault → String
  | coded kind _ code => codeOf kind code
  | overrun .. => "TIMED_OUT"
  | general .assertion _ => "ASSERTION_FAILED"
  | fault => derivedReason fault.message

/-- The reason code of an outcome: nothing went wrong, or the fault's code. -/
def reasonCode : Option Fault → String
  | none => "OK"
  | some fault => fault.reason

/-- The milliseconds in one unit of time, for the units that have a length. -/
def unitLength? : Value → Option Nat
  | .text "ms" => some 1
  | .text "s" => some 1000
  | _ => none

/-- Why an overrun's time limit has no length in milliseconds. -/
inductive LimitError where
  | unknownUnit
  | notANumber
  | undefined
  | tooLarge
  deriving DecidableEq, Repr

/-- A time limit in whole milliseconds. -/
def limitInMilliseconds (timeout unit : Value) : Except LimitError Int :=
  match unitLength? unit with
  | none => .error .unknownUnit
  | some length =>
    match timeout with
    | .int n => .ok (n * length)
    | .bool b => .ok (if b then length else 0)
    | .real x =>
      let product := Binary64.ofFloat (x.toFloat * length.toFloat)
      match product.meaning with
      | .finite .. => .ok (product.truncate?.getD 0)
      | .infinite _ => .error .tooLarge
      | .undefined => .error .undefined
    | _ => .error .notANumber

end Timebox
