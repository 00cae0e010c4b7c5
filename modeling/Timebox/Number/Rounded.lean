import Timebox.Number.Shortest

/-!
# Rounded decimals

A floating-point number with a fixed number of decimal places, or with a fixed number of significant
digits and an exponent, or in whichever of the two is the more readable. The decimal is the one
nearest to the exact number; of two equally near ones the even one is taken.

Main statement: rounding a quotient is off by at most half a unit (`roundQuotient_near`).
-/

namespace Timebox.Binary64

/-- The natural number nearest to `a / b`, the even one of two. -/
def roundQuotient (a b : Nat) : Nat :=
  let q := a / b
  let twice := 2 * (a % b)
  if twice < b || (twice == b && q % 2 == 0) then q else q + 1

/-- A rounded quotient is off by at most half a unit. -/
theorem roundQuotient_near (a : Nat) {b : Nat} (hb : 0 < b) :
    2 * a ≤ 2 * (b * roundQuotient a b) + b ∧ 2 * (b * roundQuotient a b) ≤ 2 * a + b := by
  have h := Nat.div_add_mod a b
  simp only [roundQuotient]
  split
  · next c =>
    simp only [Bool.or_eq_true, decide_eq_true_eq, Bool.and_eq_true, beq_iff_eq] at c
    omega
  · next c =>
    simp only [Bool.or_eq_true, decide_eq_true_eq, Bool.and_eq_true, beq_iff_eq, not_or] at c
    have := Nat.mod_lt a hb
    rw [Nat.mul_add, Nat.mul_one]
    omega

/-- The number `m · 2 ^ q` in units of `10 ^ k`, rounded. -/
def inUnits (m : Nat) (q k : Int) : Nat :=
  roundQuotient (m * Nat.pow 2 q.toNat * Nat.pow 10 (-k).toNat)
    (Nat.pow 2 (-q).toNat * Nat.pow 10 k.toNat)

/-- The decimal of so many significant digits nearest to `m · 2 ^ q`, and the power of ten of its
first digit. -/
def significant (digits m : Nat) (q : Int) : Nat × Int :=
  if m = 0 then (0, 0)
  else
    let p := magnitude m q
    let d := inUnits m q (p - digits)
    if d = Nat.pow 10 digits then (d / 10, p) else (d, p - 1)

/-- How the digits of a rounded decimal are written. -/
structure DigitStyle where
  /-- There is a point even if nothing follows it. -/
  keepsPoint : Bool := false
  /-- Zeros at the end of the fraction are left out. -/
  dropsZeros : Bool := false

/-- A whole part and a fraction. -/
def DigitStyle.join (s : DigitStyle) (whole fraction : List Char) : List Char :=
  let fraction := if s.dropsZeros then (fraction.reverse.dropWhile (· = '0')).reverse else fraction
  if fraction.isEmpty && !s.keepsPoint then whole else whole ++ '.' :: fraction

/-- The magnitude `m · 2 ^ q` with so many decimal places. -/
def fixedDigits (s : DigitStyle) (places m : Nat) (q : Int) : List Char :=
  let ds := padLeft (places + 1) (Nat.toDigits 10 (inUnits m q (-places)))
  s.join (ds.take (ds.length - places)) (ds.drop (ds.length - places))

/-- The mark of an exponent and the exponent, which has a sign and two digits or more. -/
def exponentDigits (e : Int) : List Char :=
  'e' :: (if e < 0 then '-' else '+') :: padLeft 2 (Nat.toDigits 10 e.natAbs)

/-- The magnitude `m · 2 ^ q` with one digit before the point, so many after it, and an exponent. -/
def scientificDigits (s : DigitStyle) (places m : Nat) (q : Int) : List Char :=
  let (d, e) := significant (places + 1) m q
  let ds := padLeft (places + 1) (Nat.toDigits 10 d)
  s.join (ds.take 1) (ds.drop 1) ++ exponentDigits e

/-- The magnitude `m · 2 ^ q` with so many significant digits: with an exponent if the first digit
stands lower than the fourth decimal place or the last one above the units. -/
def generalDigits (keepsPoint : Bool) (digits m : Nat) (q : Int) : List Char :=
  let digits := max digits 1
  let s : DigitStyle := { keepsPoint, dropsZeros := !keepsPoint }
  let e := (significant digits m q).2
  if -4 ≤ e && e < digits then fixedDigits s ((digits : Int) - 1 - e).toNat m q
  else scientificDigits s (digits - 1) m q

end Timebox.Binary64
