import Timebox.Number.Binary64

/-!
# Shortest decimals

The decimal text of a floating-point number has the fewest significant digits that read back as the
same number. For a number `m · 2 ^ q` the reals that read back form an interval around it, closed
when `m` is even. On the grid of decimals with a given number of digits only the two neighbours of
the number can be nearest, so the search tests those two on grids of one to seventeen digits and
takes the first hit, the nearer of two, the even one on a tie.
-/

namespace Timebox.Binary64

/-- A decimal `digits · 10 ^ exponent`. -/
structure Decimal where
  digits : Nat
  exponent : Int
  deriving DecidableEq, Repr

/-- Bounds of the reals that read back as `m · 2 ^ q`, in units of `2 ^ (q - 2)`: the number itself
is `4 m`; below a power of two the gap is half as wide. -/
structure ReadBack where
  low : Nat
  mid : Nat
  high : Nat
  closed : Bool

/-- The bounds for a mantissa and exponent of the format. -/
def readBack (m : Nat) (q : Int) : ReadBack :=
  let narrow := m == Nat.pow 2 52 && q > -1074
  { low := if narrow then 4 * m - 1 else 4 * m - 2, mid := 4 * m, high := 4 * m + 2,
    closed := m % 2 == 0 }

/-- The factors that compare `a · 2 ^ (q - 2)` with `d · 10 ^ k` as natural numbers: the first is
multiplied to `a`, the second to `d`. -/
def crossFactors (q k : Int) : Nat × Nat :=
  let b := q - 2
  let pos (e : Int) : Nat := e.toNat
  (Nat.pow 2 (pos b) * Nat.pow 10 (pos (-k)), Nat.pow 2 (pos (-b)) * Nat.pow 10 (pos k))

/-- The decimal `d · 10 ^ k` reads back as the number with these bounds. -/
def ReadBack.holds (r : ReadBack) (q k : Int) (d : Nat) : Bool :=
  let (f, g) := crossFactors q k
  let x := d * g
  if r.closed then r.low * f ≤ x && x ≤ r.high * f else r.low * f < x && x < r.high * f

/-- Of the two neighbours on the grid of step `10 ^ k`, the nearest that reads back. -/
def nearestOnGrid (r : ReadBack) (q k : Int) : Option Nat :=
  let (f, g) := crossFactors q k
  let below := r.mid * f / g
  let rest := r.mid * f % g
  let above := below + 1
  match r.holds q k below && below != 0, r.holds q k above with
  | true, true =>
    if 2 * rest < g then some below
    else if 2 * rest > g then some above
    else if below % 2 == 0 then some below else some above
  | true, false => some below
  | false, true => some above
  | false, false => none

/-- The number of decimal digits before the point, negative for a leading run of zeros after it:
the `p` with `10 ^ (p - 1) ≤ m · 2 ^ q < 10 ^ p`. -/
def magnitude (m : Nat) (q : Int) : Int :=
  let scaled :=
    if q < 0 then m * Nat.pow 10 330 / Nat.pow 2 q.natAbs
    else m * Nat.pow 10 330 * Nat.pow 2 q.natAbs
  ((Nat.toDigits 10 scaled).length : Int) - 330

/-- Drop trailing zeros from the digits of a decimal. -/
def Decimal.trimZeros (fuel : Nat) (d : Decimal) : Decimal :=
  match fuel with
  | 0 => d
  | fuel + 1 =>
    if d.digits % 10 == 0 && d.digits != 0 then
      Decimal.trimZeros fuel ⟨d.digits / 10, d.exponent + 1⟩
    else d

/-- The shortest decimal that reads back as the positive number `m · 2 ^ q`. -/
def shortest (m : Nat) (q : Int) : Decimal :=
  let r := readBack m q
  let p := magnitude m q
  let hit := (List.range 17).findSome? fun n =>
    let k : Int := p - Int.ofNat (n + 1)
    (nearestOnGrid r q k).map fun d => Decimal.mk d k
  (hit.getD ⟨0, 0⟩).trimZeros 20

/-- How decimals are laid out: positional notation is used when the point falls after more than
`leastPoint` and at most `mostPoint` digits, and an exponent has at least `exponentWidth` digits. -/
structure Layout where
  leastPoint : Int
  mostPoint : Int
  exponentWidth : Nat

/-- Numbers from a ten-thousandth up to below ten to the sixteenth are positional, and an exponent
has two digits or more. -/
def layout : Layout := ⟨-4, 16, 2⟩

/-- Pad digits with zeros on the left. -/
def padLeft (width : Nat) (ds : List Char) : List Char :=
  List.replicate (width - ds.length) '0' ++ ds

/-- Lay out a decimal; positional notation always has a point with a digit on both sides. -/
def Layout.render (l : Layout) (d : Decimal) : List Char :=
  let ds := Nat.toDigits 10 d.digits
  let point : Int := ds.length + d.exponent
  if l.leastPoint < point && point ≤ l.mostPoint then
    if point ≤ 0 then '0' :: '.' :: (List.replicate point.natAbs '0' ++ ds)
    else if (ds.length : Int) ≤ point then
      ds ++ List.replicate (point - ds.length).toNat '0' ++ ['.', '0']
    else ds.take point.toNat ++ '.' :: ds.drop point.toNat
  else
    let e := point - 1
    let mark := if e < 0 then ['e', '-'] else ['e', '+']
    let tail := if ds.length ≤ 1 then [] else '.' :: ds.drop 1
    ds.take 1 ++ tail ++ mark ++ padLeft l.exponentWidth (Nat.toDigits 10 e.natAbs)

/-- The text of a floating-point number: the shortest decimal that reads back, `0.0` for zero, and
words for the infinities and for what is not a number. -/
def text (x : Binary64) : String :=
  match x.meaning with
  | .undefined => "nan"
  | .infinite negative => if negative then "-inf" else "inf"
  | .finite negative m q =>
    let body := if m = 0 then ['0', '.', '0'] else layout.render (shortest m q)
    String.ofList (if negative then '-' :: body else body)

end Timebox.Binary64
