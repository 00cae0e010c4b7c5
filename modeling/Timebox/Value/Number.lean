import Timebox.Text.Integer
import Timebox.Value.Basic

/-!
# Whole numbers from values

A caller may give a number of milliseconds as an integer, a truth value, a floating-point number
(the fraction is dropped) or a text. Other kinds have no number; a text that is no integer and an
undefined number have no value; an infinity is too large.
-/

namespace Timebox.Value

/-- Why a value gives no whole number. -/
inductive NumberError where
  /-- A value of this kind is never a number. -/
  | wrongKind
  /-- The text, or the undefined number, denotes no integer. -/
  | noValue
  /-- An infinity. -/
  | tooLarge
  deriving DecidableEq, Repr

/-- The text of the error. -/
def NumberError.message : NumberError → String
  | wrongKind => "not a number"
  | noValue => "not an integer"
  | tooLarge => "too large for an integer"

/-- The whole number that a value stands for. -/
def wholeNumber : Value → Except NumberError Int
  | int n => .ok n
  | bool b => .ok (if b then 1 else 0)
  | real x =>
    match x.meaning with
    | .undefined => .error .noValue
    | .infinite _ => .error .tooLarge
    | .finite .. => .ok (x.truncate?.getD 0)
  | text s =>
    match Text.readSpacedInteger s with
    | some n => .ok n
    | none => .error .noValue
  | _ => .error .wrongKind

end Timebox.Value
