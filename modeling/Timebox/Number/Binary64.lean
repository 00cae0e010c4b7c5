/-!
# Binary floating-point numbers

A number of the 64-bit binary format, kept as its bits so that two numbers are the same value of
the type exactly when they are the same number of the format. A finite number is `± m · 2 ^ q` with
natural `m`; conversions to integers and comparisons with integers work on `m` and `q` exactly.
-/

namespace Timebox

/-- A number of the 64-bit binary floating-point format. -/
structure Binary64 where
  /-- Sign bit, eleven bits of exponent, fifty-two bits of fraction. -/
  bits : UInt64
  deriving DecidableEq, Repr, Inhabited

namespace Binary64

/-- What a number of the format stands for. -/
inductive Meaning where
  /-- The real `± mantissa · 2 ^ exponent`. -/
  | finite (negative : Bool) (mantissa : Nat) (exponent : Int)
  /-- An infinity. -/
  | infinite (negative : Bool)
  /-- Not a number. -/
  | undefined
  deriving DecidableEq, Repr

/-- Read the three fields of the format. -/
def meaning (x : Binary64) : Meaning :=
  let n := x.bits.toNat
  let negative := n / Nat.pow 2 63 == 1
  let field : Nat := n / Nat.pow 2 52 % Nat.pow 2 11
  let fraction : Nat := n % Nat.pow 2 52
  if field = 2047 then
    if fraction = 0 then .infinite negative else .undefined
  else if field = 0 then .finite negative fraction (-1074)
  else .finite negative (Nat.pow 2 52 + fraction) (Int.ofNat field - 1075)

/-- The format's number as the machine's. -/
def toFloat (x : Binary64) : Float := Float.ofBits x.bits

/-- The machine's number as the format's. -/
def ofFloat (x : Float) : Binary64 := ⟨x.toBits⟩

/-- The infinity of a sign. -/
def infinity (negative : Bool) : Binary64 :=
  ⟨if negative then 0xFFF0000000000000 else 0x7FF0000000000000⟩

/-- The canonical value that is not a number. -/
def notANumber : Binary64 := ⟨0x7FF8000000000000⟩

/-- The zero of a sign. -/
def zero (negative : Bool) : Binary64 :=
  ⟨if negative then 0x8000000000000000 else 0⟩

/-- The same number with the other sign. -/
def negate (x : Binary64) : Binary64 := ⟨x.bits ^^^ 0x8000000000000000⟩

/-- The number nearest to `mantissa · 10 ^ exponent`. Far outside the format's range the answer is
an infinity or a zero without any arithmetic. -/
def ofDecimal (mantissa : Nat) (exponent : Int) : Binary64 :=
  let size : Int := (Nat.toDigits 10 mantissa).length + exponent
  if mantissa = 0 then zero false
  else if size > 400 then infinity false
  else if size < -400 then zero false
  else ofFloat (Float.ofScientific mantissa (exponent < 0) exponent.natAbs)

/-- The least natural number that is nearer to the bound of the format than to any number of it. -/
@[irreducible] def overflowBound : Nat := Nat.pow 2 1024 - Nat.pow 2 970

/-- The number nearest to a natural number, unless that is beyond the format. -/
def ofNat? (n : Nat) : Option Binary64 :=
  if n < overflowBound then some (ofDecimal n 0) else none

/-- The number is a zero of either sign. -/
def isZero (x : Binary64) : Bool :=
  match x.meaning with
  | .finite _ m _ => m == 0
  | _ => false

/-- The integer part of a magnitude `m · 2 ^ q`. -/
def integerPart (m : Nat) (q : Int) : Nat :=
  if q < 0 then m / Nat.pow 2 q.natAbs else m * Nat.pow 2 q.natAbs

/-- The magnitude `m · 2 ^ q` is a whole number. -/
def isWhole (m : Nat) (q : Int) : Bool :=
  if q < 0 then m % Nat.pow 2 q.natAbs == 0 else true

/-- The integer that is left when the fraction of a finite number is dropped. -/
def truncate? (x : Binary64) : Option Int :=
  match x.meaning with
  | .finite negative m q =>
    let n : Int := integerPart m q
    some (if negative then -n else n)
  | _ => none

/-- The integer that a number equals, if it equals one. -/
def toInteger? (x : Binary64) : Option Int :=
  match x.meaning with
  | .finite negative m q =>
    let n : Int := integerPart m q
    if isWhole m q then some (if negative then -n else n) else none
  | _ => none

/-- The two numbers are equal as reals: the zeros are one, and nothing equals what is not a
number. -/
def sameReal (x y : Binary64) : Bool :=
  match x.meaning, y.meaning with
  | .undefined, _ => false
  | _, .undefined => false
  | _, _ => x == y || (x.isZero && y.isZero)

end Binary64

end Timebox
