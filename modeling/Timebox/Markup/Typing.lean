import Timebox.Markup.Date

/-!
# Types of plain scalars

A plain scalar stands for the absent value, a truth value, an integer, a floating-point number, a
date or a timestamp if it has the form of one, and for itself otherwise. Integers are written in
bases two, eight, ten and sixteen, and in base sixty with colons; underscores between their digits
do not count. A scalar may have the form of a number or a date without denoting one.
-/

namespace Timebox.Markup

/-! ### Forms -/

/-- A western digit or an underscore. -/
def isDigitOrLine (c : Char) : Bool := c.isDigit || c = '_'

/-- A western digit that is not zero. -/
def isLeadingDigit (c : Char) : Bool := c.isDigit && c != '0'

/-- A digit of base eight or an underscore. -/
def isOctalOrLine (c : Char) : Bool := ('0' ≤ c && c ≤ '7') || c = '_'

/-- A digit of base two or an underscore. -/
def isBinaryOrLine (c : Char) : Bool := c = '0' || c = '1' || c = '_'

/-- The value of a digit in bases up to sixteen. -/
def digitValue? (c : Char) : Option Nat :=
  if c.isDigit then some (c.toNat - 0x30)
  else if 'a' ≤ c ∧ c ≤ 'f' then some (c.toNat - 0x57)
  else if 'A' ≤ c ∧ c ≤ 'F' then some (c.toNat - 0x37)
  else none

/-- A digit of base sixteen or an underscore. -/
def isHexOrLine (c : Char) : Bool := (digitValue? c).isSome || c = '_'

/-- Some characters, the first and the others of given kinds. -/
def isRun (first others : Char → Bool) : List Char → Bool
  | [] => false
  | c :: cs => first c && cs.all others

/-- A sign, if there is one, and what follows it. -/
def splitSign : List Char → Bool × List Char
  | '-' :: cs => (true, cs)
  | '+' :: cs => (false, cs)
  | cs => (false, cs)

/-- A digit of base sixty, written with one or two digits. -/
def isSixtieth : List Char → Bool
  | [d] => d.isDigit
  | [c, d] => '0' ≤ c && c ≤ '5' && d.isDigit
  | _ => false

/-! ### Numbers -/

/-- The digits without underscores. -/
def withoutLines (cs : List Char) : List Char := cs.filter fun c => c != '_'

/-- The number that digits write in a base; none if there are no digits. -/
def numberIn (base : Nat) (cs : List Char) : Except Defect Nat :=
  let ds := (withoutLines cs).filterMap digitValue?
  if ds.isEmpty then .error .noValue else .ok (Text.ofDigits base ds)

/-- The number that decimal digits write; none if there are too many. -/
def decimalNumber (cs : List Char) : Except Defect Nat :=
  if (withoutLines cs).length ≤ Text.maxDigits then numberIn 10 cs else .error .noValue

/-- The number of parts in base sixty. -/
def baseSixty (parts : List (List Char)) : Except Defect Nat :=
  parts.foldlM (fun n p => (decimalNumber p).map fun d => 60 * n + d) 0

/-- An integer without a sign, if the text has the form of one. -/
def magnitude? (cs : List Char) : Option (Except Defect Nat) :=
  match cs with
  | ['0'] => some (.ok 0)
  | '0' :: 'b' :: ds =>
    if isRun isBinaryOrLine isBinaryOrLine ds then some (numberIn 2 ds) else none
  | '0' :: 'x' :: ds => if isRun isHexOrLine isHexOrLine ds then some (numberIn 16 ds) else none
  | '0' :: ds => if isRun isOctalOrLine isOctalOrLine ds then some (numberIn 8 cs) else none
  | _ =>
    match Text.pieces ':' cs with
    | [] => none
    | whole :: parts =>
      if isRun isLeadingDigit isDigitOrLine whole && parts.all isSixtieth then
        some (if parts.isEmpty then decimalNumber whole else baseSixty (whole :: parts))
      else none

/-- An integer, if the text has the form of one. -/
def integer? (cs : List Char) : Option (Except Defect Value) :=
  let (negative, body) := splitSign cs
  (magnitude? body).map fun r => r.map fun n => .int (if negative then -(n : Int) else n)

/-- The exponent of a number, with a sign that must be there; zero if nothing follows. -/
def exponent? : List Char → Option Int
  | [] => some 0
  | e :: sign :: ds =>
    if (e = 'e' || e = 'E') && (sign = '+' || sign = '-') && isRun Char.isDigit Char.isDigit ds then
      let n : Int := Text.ofDigits 10 (ds.filterMap digitValue?)
      some (if sign = '-' then -n else n)
    else none
  | _ => none

/-- The number of decimal digits with a fraction and an exponent. -/
def decimalReal (whole fraction : List Char) (exponent : Int) : Binary64 :=
  let places := (withoutLines fraction).length
  .ofDecimal (Text.ofDigits 10 ((whole ++ fraction).filterMap digitValue?)) (exponent - places)

/-- A number with a point, without a sign, if the text has the form of one. The digits before the
point may only be left out without a sign. -/
def pointed? (signed : Bool) (cs : List Char) : Option Binary64 :=
  match Text.cutFirst '.' cs with
  | none => none
  | some (whole, rest) =>
    let fraction := rest.takeWhile isDigitOrLine
    let wellFormed :=
      if whole.isEmpty then !signed && isRun Char.isDigit isDigitOrLine fraction
      else isRun Char.isDigit isDigitOrLine whole
    if wellFormed then
      (exponent? (rest.drop fraction.length)).map (decimalReal whole fraction)
    else none

/-- The sum of parts in base sixty, lowest first, from a place on. A place whose weight is beyond
the floating-point numbers has no value. -/
def weighSixtieths (place : Nat) (sum : Float) : List Binary64 → Except Defect Binary64
  | [] => .ok (.ofFloat sum)
  | x :: xs =>
    match Binary64.ofNat? (Nat.pow 60 place) with
    | some weight => weighSixtieths (place + 1) (sum + x.toFloat * weight.toFloat) xs
    | none => .error .tooLarge

/-- A number in base sixty with a point, without a sign, if the text has the form of one. -/
def pointedSixty? (cs : List Char) : Option (Except Defect Binary64) :=
  match Text.cutFirst '.' cs with
  | none => none
  | some (whole, fraction) =>
    match Text.pieces ':' whole with
    | first :: second :: others =>
      let parts := second :: others
      if isRun Char.isDigit isDigitOrLine first && parts.all isSixtieth &&
          fraction.all isDigitOrLine then
        let last := parts.getLast?.getD []
        let wholes := (first :: parts.dropLast).map fun p => decimalReal p [] 0
        some (weighSixtieths 0 0 (decimalReal last fraction 0 :: wholes.reverse))
      else none
    | _ => none

/-- A word for an infinity or an undefined number. -/
def specialReal? (signed : Bool) (cs : List Char) : Option Binary64 :=
  let word := String.ofList cs
  if [".inf", ".Inf", ".INF"].contains word then some (.infinity false)
  else if !signed && [".nan", ".NaN", ".NAN"].contains word then some .notANumber
  else none

/-- A floating-point number without a sign, if the text has the form of one. -/
def unsignedReal? (signed : Bool) (cs : List Char) : Option (Except Defect Binary64) :=
  match pointed? signed cs with
  | some x => some (.ok x)
  | none => (pointedSixty? cs).or ((specialReal? signed cs).map .ok)

/-- A floating-point number, if the text has the form of one. -/
def real? (cs : List Char) : Option (Except Defect Value) :=
  let (negative, body) := splitSign cs
  let x := unsignedReal? (body.length != cs.length) body
  x.map fun r => r.map fun x => .real (if negative then x.negate else x)

/-! ### Scalars -/

/-- The word of an absent value or a truth value. -/
def wordValue? (s : String) : Option Value :=
  if ["", "~", "null", "Null", "NULL"].contains s then some .null
  else if ["yes", "Yes", "YES", "true", "True", "TRUE", "on", "On", "ON"].contains s then
    some (.bool true)
  else if ["no", "No", "NO", "false", "False", "FALSE", "off", "Off", "OFF"].contains s then
    some (.bool false)
  else none

/-- The mark that merges mappings; it is no value. -/
def mergeMark : String := "<<"

/-- The mark of a default value; only as a key it stands for itself. -/
def defaultMark : String := "="

/-- What a plain scalar stands for. -/
def typed (s : String) : Except Defect Value :=
  if s = mergeMark ∨ s = defaultMark then .error .malformed
  else match wordValue? s with
    | some v => .ok v
    | none =>
      let cs := s.toList
      ((integer? cs).or ((date? cs).or (real? cs))).getD (.ok (.text s))

end Timebox.Markup
