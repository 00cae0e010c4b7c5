/-!
# Templates of messages

A message may be a template: text with places for values. A place starts with a percent sign. It may
name a key, and it says how its value is shown, how wide the result is at least, and how precise it
is. Width and precision may be values themselves. Two percent signs stand for one.
-/

namespace Timebox.Diary

/-- The notation of a whole number. -/
inductive Radix where
  | ten
  | eight
  | sixteen
  deriving DecidableEq, Repr

/-- The notation of a floating-point number. -/
inductive RealStyle where
  /-- With a number of decimal places. -/
  | fixed
  /-- With an exponent. -/
  | scientific
  /-- With a number of significant digits. -/
  | general
  deriving DecidableEq, Repr

/-- How a place shows a value. -/
inductive Showing where
  | display
  | listing
  /-- The listing with escapes for all characters beyond the basic ones. -/
  | basicListing
  | whole (radix : Radix) (capital : Bool)
  | real (style : RealStyle) (capital : Bool)
  /-- One character, or the character of a number. -/
  | character
  deriving DecidableEq, Repr

/-- A width or precision. -/
inductive Measure where
  | unset
  | given (n : Nat)
  /-- It is the next value. -/
  | taken
  deriving DecidableEq, Repr

/-- A place for a value. -/
structure Place where
  /-- The key of the value. -/
  key : Option String := none
  /-- It is filled up on the right. -/
  leftward : Bool := false
  /-- Numbers always have a sign. -/
  signed : Bool := false
  /-- A blank stands for the sign of numbers that are not negative. -/
  spaced : Bool := false
  /-- Radix marks and points are written. -/
  marked : Bool := false
  /-- Numbers are filled up with zeros. -/
  zeroFilled : Bool := false
  width : Measure := .unset
  precision : Measure := .unset
  showing : Showing
  deriving DecidableEq, Repr

/-- A part of a template. -/
inductive Piece where
  | literal (c : Char)
  | place (p : Place)
  deriving DecidableEq, Repr

/-! ### Reading templates -/

/-- A key up to the parenthesis that closes it, and what follows; parentheses inside are balanced.
-/
def cutKey : Nat → List Char → Option (List Char × List Char)
  | _, [] => none
  | depth, c :: cs =>
    if c = ')' then
      match depth with
      | 0 => some ([], cs)
      | d + 1 => (cutKey d cs).map fun (key, rest) => (c :: key, rest)
    else
      (cutKey (if c = '(' then depth + 1 else depth) cs).map fun (key, rest) => (c :: key, rest)

/-- A key in parentheses, if there is one. -/
def readKey : List Char → Option (Option String × List Char)
  | '(' :: cs => (cutKey 0 cs).map fun (key, rest) => (some (String.ofList key), rest)
  | cs => some (none, cs)

/-- The number that digits write. -/
def numberOf (ds : List Char) : Nat :=
  ds.foldl (fun n d => 10 * n + (d.toNat - 0x30)) 0

/-- A width or precision. -/
def readMeasure : List Char → Measure × List Char
  | '*' :: cs => (.taken, cs)
  | cs =>
    let ds := cs.takeWhile Char.isDigit
    (if ds.isEmpty then .unset else .given (numberOf ds), cs.drop ds.length)

/-- A precision after a point; a point alone asks for none. -/
def readPrecision : List Char → Measure × List Char
  | '.' :: cs =>
    match readMeasure cs with
    | (.unset, cs) => (.given 0, cs)
    | r => r
  | cs => (.unset, cs)

/-- A letter for the size of a number has no effect. -/
def skipSize : List Char → List Char
  | 'h' :: cs => cs
  | 'l' :: cs => cs
  | 'L' :: cs => cs
  | cs => cs

/-- The letters of the ways to show a value. -/
def showings : List (Char × Showing) :=
  [('s', .display), ('r', .listing), ('a', .basicListing), ('c', .character),
    ('d', .whole .ten false), ('i', .whole .ten false), ('u', .whole .ten false),
    ('o', .whole .eight false), ('x', .whole .sixteen false), ('X', .whole .sixteen true),
    ('f', .real .fixed false), ('F', .real .fixed true), ('e', .real .scientific false),
    ('E', .real .scientific true), ('g', .real .general false), ('G', .real .general true)]

/-- Read a place, after its percent sign. -/
def readPlace (cs : List Char) : Option (Place × List Char) :=
  match readKey cs with
  | none => none
  | some (key, cs) =>
    let flags := cs.takeWhile "-+ #0".toList.contains
    let (width, cs) := readMeasure (cs.drop flags.length)
    let (precision, cs) := readPrecision cs
    match skipSize cs with
    | [] => none
    | c :: cs =>
      (showings.lookup c).map fun showing =>
        ({ key, width, precision, showing, leftward := flags.contains '-'
           signed := flags.contains '+', spaced := flags.contains ' '
           marked := flags.contains '#', zeroFilled := flags.contains '0' }, cs)

/-- The pieces of a template; the first argument bounds their number. -/
def readPieces : Nat → List Char → Option (List Piece)
  | _, [] => some []
  | 0, _ => none
  | fuel + 1, '%' :: '%' :: cs => (readPieces fuel cs).map (.literal '%' :: ·)
  | fuel + 1, '%' :: cs =>
    match readPlace cs with
    | none => none
    | some (p, cs) => (readPieces fuel cs).map (.place p :: ·)
  | fuel + 1, c :: cs => (readPieces fuel cs).map (.literal c :: ·)

/-- The pieces of a template, unless a place in it cannot be read. -/
def piecesOf (template : String) : Option (List Piece) :=
  let cs := template.toList
  readPieces cs.length cs

end Timebox.Diary
