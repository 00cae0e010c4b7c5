import Timebox.Text.Blank
import Timebox.Text.Cut
import Timebox.Text.Integer

/-!
# Integers in checked texts

A field that holds an integer may be given as a text. The text is made plain first: spacing around
it and a plus sign go, then the zeros in front, then a fraction of zeros, then single underscores.
What is left has to be an integer without any of these, of bounded length.

The zeros in front may be mixed with underscores in any number, and a minus sign may follow them.
-/

namespace Timebox.Validation

/-- Why a text gives no integer. -/
inductive IntegerFault where
  | unreadable
  /-- It has too many digits. -/
  | oversized
  deriving DecidableEq, Repr

/-- What follows zeros and underscores, the last of which is given. The last one itself is kept if
nothing follows, or a point. -/
def afterZeros (last : Char) : List Char → Option (List Char)
  | [] => some [last]
  | c :: cs =>
    if c = '0' || c = '_' then afterZeros c cs
    else if c.isDigit || c = '-' then some (c :: cs)
    else if c = '.' then some (last :: c :: cs)
    else none

/-- Drop the zeros in front; the text has to start with a digit. -/
def dropZeros : List Char → Option (List Char)
  | [] => none
  | c :: cs => if c = '0' then afterZeros c cs else if c.isDigit then some (c :: cs) else none

/-- Drop a point with nothing but zeros after it. -/
def dropZeroFraction (cs : List Char) : List Char :=
  match Text.cutFirst '.' cs with
  | some (whole, zeros) => if !zeros.isEmpty && zeros.all (· == '0') then whole else cs
  | none => cs

/-- Two underscores stand side by side. -/
def hasDoubleLine : List Char → Bool
  | '_' :: '_' :: _ => true
  | _ :: cs => hasDoubleLine cs
  | [] => false

/-- Drop underscores if each stands alone between other characters. -/
def dropLines (cs : List Char) : List Char :=
  if cs.head? = some '_' || cs.getLast? = some '_' || hasDoubleLine cs then cs
  else cs.filter fun c => c != '_'

/-- The plain form of a text; none if it does not start like an integer. -/
def plainForm (cs : List Char) : Option (List Char) :=
  let (negative, body) := Text.takeSign (Text.trimWith Text.isSpacing cs)
  (dropZeros body).map fun body =>
    dropLines (dropZeroFraction (if negative then '-' :: body else body))

/-- The magnitude of a plain form without its sign: zero, or digits that do not start with zero. Too
many digits are reported before anything that follows them. -/
def readMagnitude (cs : List Char) : Except IntegerFault Nat :=
  if cs = ['0'] then .ok 0
  else
    let digits := cs.takeWhile Char.isDigit
    if cs.head? = some '0' || digits.isEmpty then .error .unreadable
    else if Text.maxDigits < digits.length then .error .oversized
    else if digits.length < cs.length then .error .unreadable
    else .ok (Text.ofDigits 10 (digits.map fun c => c.toNat - 0x30))

/-- The integer of a plain form. -/
def readPlainForm : List Char → Except IntegerFault Int
  | '-' :: cs => (readMagnitude cs).map fun n => -(n : Int)
  | cs => (readMagnitude cs).map Int.ofNat

/-- The integer that a text gives. -/
def readCheckedInteger (s : String) : Except IntegerFault Int :=
  match plainForm s.toList with
  | some cs => readPlainForm cs
  | none => .error .unreadable

end Timebox.Validation
