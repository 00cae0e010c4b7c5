import Timebox.Text.Blank
import Timebox.Text.Digit

/-!
# Integers as text

The written form of an integer is an optional sign and one or more decimal digits of any script,
with single underscores allowed between digits. More than `maxDigits` digits are refused, leading
zeros counted. Printing is plain: a minus sign where needed and western digits without padding.
-/

namespace Timebox.Text

/-- The most digits that the written form of an integer may have. -/
def maxDigits : Nat := 4300

/-- Digits of a class with single underscores between them, as their values. -/
def readDigits (digit? : Char → Option Nat) : List Char → Option (List Nat)
  | [] => none
  | [c] => (digit? c).map fun d => [d]
  | c :: '_' :: cs => do
    let d ← digit? c
    let ds ← readDigits digit? cs
    return d :: ds
  | c :: cs => do
    let d ← digit? c
    let ds ← readDigits digit? cs
    return d :: ds

/-- The number that digits denote in a base, highest digit first. -/
def ofDigits (base : Nat) (ds : List Nat) : Nat :=
  ds.foldl (fun n d => base * n + d) 0

/-- Take an optional sign off: whether it was a minus, and the rest. -/
def takeSign : List Char → Bool × List Char
  | '-' :: cs => (true, cs)
  | '+' :: cs => (false, cs)
  | cs => (false, cs)

/-- Put a sign to a magnitude. -/
def signed (negative : Bool) (n : Nat) : Int :=
  if negative then -(n : Int) else n

/-- Read the written form of an integer; nothing may stand around it. -/
def readInteger (cs : List Char) : Option Int := do
  let (negative, body) := takeSign cs
  let ds ← readDigits digitValue? body
  if ds.length ≤ maxDigits then some (signed negative (ofDigits 10 ds)) else none

/-- Read an integer that spacing may surround. -/
def readSpacedInteger (s : String) : Option Int :=
  readInteger (trimWith isSpacing s.toList)

/-- Read an integer that blanks may surround. -/
def readBlankedInteger (s : String) : Option Int :=
  readInteger (trim s.toList)

end Timebox.Text
