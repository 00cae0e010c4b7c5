import Timebox.Diary.Template
import Timebox.Number.Rounded
import Timebox.Value.Number
import Timebox.Value.Text

/-!
# Filling templates

The places of a template take the values from left to right. When the values are one mapping that is
not empty, places may also look values up in it by key, and then no value has to be used up. A
template with too few or too many values, or with a value of the wrong kind, cannot be filled.
-/

namespace Timebox.Diary

/-- The values that places can still take. -/
structure Supply where
  /-- What keys refer to. -/
  mapping : Option (List (Value × Value))
  rest : List Value

namespace Supply

/-- All values of a record. -/
def ofList : List Value → Supply
  | [.map entries] =>
    { mapping := if entries.isEmpty then none else some entries, rest := [.map entries] }
  | vs => { mapping := none, rest := vs }

/-- Take a value. -/
def next (s : Supply) : Option (Value × Supply) :=
  match s.rest with
  | [] => none
  | v :: vs => some (v, { s with rest := vs })

/-- Let the value of a key be the only one from here on. -/
def refer (s : Supply) : Option String → Option Supply
  | none => some s
  | some key =>
    (s.mapping.bind (Value.lookup key)).map fun v => { s with rest := [v] }

/-- Nothing is left over, or the values are a mapping. -/
def isSpent (s : Supply) : Bool := s.mapping.isSome || s.rest.isEmpty

/-- The value as a width or precision. -/
def countOf : Value → Option Int
  | .int n => some n
  | .bool b => some (if b then 1 else 0)
  | _ => none

/-- Take a width or precision; one that is too large cannot be met. -/
def measure (s : Supply) : Measure → Option (Option Int × Supply)
  | .unset => some (none, s)
  | .given n => if n < Nat.pow 2 31 then some (some (n : Int), s) else none
  | .taken => do
    let (v, s) ← s.next
    let n ← countOf v
    if n.natAbs < Nat.pow 2 31 then some (some n, s) else none

end Supply

/-! ### Showing values -/

/-- A number without its sign: radix mark, if any, and digits. -/
structure Numeral where
  negative : Bool
  mark : List Char := []
  digits : List Char

/-- The digits of a natural number. -/
def Radix.digits : Radix → Nat → List Char
  | ten, n => Nat.toDigits 10 n
  | eight, n => Nat.toDigits 8 n
  | sixteen, n => Nat.toDigits 16 n

/-- The mark in front of the digits. -/
def Radix.mark : Radix → List Char
  | ten => []
  | eight => ['0', 'o']
  | sixteen => ['0', 'x']

/-- Capitals if they are asked for. -/
def capitals (capital : Bool) (cs : List Char) : List Char :=
  if capital then cs.map Char.toUpper else cs

/-- The whole number that a place shows. Only the decimal notation drops a fraction. -/
def wholeOf : Radix → Value → Option Int
  | .ten, v =>
    match v with
    | .text _ => none
    | v => v.wholeNumber.toOption
  | _, .int n => some n
  | _, .bool b => some (if b then 1 else 0)
  | _, _ => none

/-- The floating-point number that a place shows. -/
def realOf : Value → Option Binary64
  | .real x => some x
  | .bool b => Binary64.ofNat? (if b then 1 else 0)
  | .int n => (Binary64.ofNat? n.natAbs).map fun x => if n < 0 then x.negate else x
  | _ => none

/-- A whole number with at least so many digits. -/
def wholeNumeral (radix : Radix) (capital marked : Bool) (precision : Nat) (n : Int) : Numeral :=
  { negative := n < 0
    mark := if marked then capitals capital radix.mark else []
    digits := capitals capital (Binary64.padLeft precision (radix.digits n.natAbs)) }

/-- The digits of a magnitude. -/
def RealStyle.digits (style : RealStyle) (marked : Bool) (precision m : Nat) (q : Int) :
    List Char :=
  match style with
  | fixed => Binary64.fixedDigits { keepsPoint := marked } precision m q
  | scientific => Binary64.scientificDigits { keepsPoint := marked } precision m q
  | general => Binary64.generalDigits marked precision m q

/-- A floating-point number of some precision. -/
def realNumeral (style : RealStyle) (capital marked : Bool) (precision : Nat) (x : Binary64) :
    Numeral :=
  match x.meaning with
  | .undefined => { negative := false, digits := capitals capital "nan".toList }
  | .infinite negative => { negative, digits := capitals capital "inf".toList }
  | .finite negative m q =>
    { negative, digits := capitals capital (style.digits marked precision m q) }

/-- The character that a place shows. -/
def characterOf : Value → Option Char
  | .text s =>
    match s.toList with
    | [c] => some c
    | _ => none
  | .bool b => some (if b then '\x01' else '\x00')
  | .int n => if 0 ≤ n ∧ n.toNat.isValidChar then some (Char.ofNat n.toNat) else none
  | _ => none

/-- Escapes for all characters beyond the basic ones. -/
def escapeBeyondBasic (s : String) : List Char :=
  s.toList.flatMap fun c => if c.toNat < 0x80 then [c] else Text.codePointEscape c

/-! ### Filling places -/

/-- Fill up with blanks. -/
def fillUp (leftward : Bool) (width : Nat) (cs : List Char) : List Char :=
  let blanks := List.replicate (width - cs.length) ' '
  if leftward then cs ++ blanks else blanks ++ cs

/-- What stands before the digits of a number in the place of its sign. -/
def Place.sign (p : Place) (negative : Bool) : List Char :=
  if negative then ['-'] else if p.signed then ['+'] else if p.spaced then [' '] else []

/-- A number in a place. -/
def Place.fillNumeral (p : Place) (leftward : Bool) (width : Nat) (n : Numeral) : List Char :=
  let head := p.sign n.negative ++ n.mark
  if p.zeroFilled && !leftward then head ++ Binary64.padLeft (width - head.length) n.digits
  else fillUp leftward width (head ++ n.digits)

/-- A text in a place. -/
def fillText (leftward : Bool) (width : Nat) (precision : Option Nat) (cs : List Char) :
    List Char :=
  fillUp leftward width (match precision with
    | some n => cs.take n
    | none => cs)

/-- A value in a place of some width and precision. -/
def Place.fillWith (p : Place) (leftward : Bool) (width : Nat) (precision : Option Nat)
    (v : Value) : Option (List Char) :=
  match p.showing with
  | .display =>
    if v.isWritable then some (fillText leftward width precision v.display.toList) else none
  | .listing =>
    if v.isWritable then some (fillText leftward width precision v.listing.toList) else none
  | .basicListing =>
    if v.isWritable then some (fillText leftward width precision (escapeBeyondBasic v.listing))
    else none
  | .whole radix capital =>
    (wholeOf radix v).bind fun n =>
      if radix = .ten && !Value.isWritableInteger n then none
      else
        let numeral := wholeNumeral radix capital p.marked (precision.getD 0) n
        some (p.fillNumeral leftward width numeral)
  | .real style capital =>
    (realOf v).map fun x =>
      p.fillNumeral leftward width (realNumeral style capital p.marked (precision.getD 6) x)
  | .character => (characterOf v).map fun c => fillUp leftward width [c]

/-- Fill a place. A width below zero fills up on the right; a precision below zero is zero. -/
def Place.fill (p : Place) (s : Supply) : Option (List Char × Supply) := do
  let s ← s.refer p.key
  let (width, s) ← s.measure p.width
  let (precision, s) ← s.measure p.precision
  let (v, s) ← s.next
  let leftward := p.leftward || width.any (· < 0)
  let cs ← p.fillWith leftward (width.getD 0).natAbs (precision.map Int.toNat) v
  return (cs, s)

/-- Fill the pieces of a template one after the other. -/
def fillPieces : List Piece → Supply → Option (List Char)
  | [], s => if s.isSpent then some [] else none
  | .literal c :: ps, s => (fillPieces ps s).map (c :: ·)
  | .place p :: ps, s =>
    match p.fill s with
    | none => none
    | some (cs, s) => (fillPieces ps s).map (cs ++ ·)

/-- Fill a template with values, if that is possible. -/
def fillTemplate (template : String) (values : List Value) : Option String := do
  let pieces ← piecesOf template
  let cs ← fillPieces pieces (.ofList values)
  return String.ofList cs

end Timebox.Diary
