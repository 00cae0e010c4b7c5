import Timebox.Json.Basic

/-!
# Reading JSON

A reader for one JSON value that fills a line. Each part of the reader takes characters from the
front and returns what is left; the number of characters bounds the depth of its recursion, and
the budget of a text is the number of characters in the line.
A number with a fraction or an exponent is read as a floating-point number, any other as an
integer.
-/

namespace Timebox.Json

/-- Drop the blanks that may stand between tokens. -/
def skipBlanks (cs : List Char) : List Char :=
  cs.dropWhile fun c => c = ' ' || c = '\t' || c = '\n' || c = '\r'

/-- The value of a hexadecimal digit. -/
def hexValue? (c : Char) : Option Nat :=
  if '0' ≤ c ∧ c ≤ '9' then some (c.toNat - 0x30)
  else if 'a' ≤ c ∧ c ≤ 'f' then some (c.toNat - 0x57)
  else if 'A' ≤ c ∧ c ≤ 'F' then some (c.toNat - 0x37)
  else none

/-- The number written by four hexadecimal digits. -/
def readUnit : List Char → Option (Nat × List Char)
  | a :: b :: c :: d :: rest => do
    let a ← hexValue? a
    let b ← hexValue? b
    let c ← hexValue? c
    let d ← hexValue? d
    return (((a * 16 + b) * 16 + c) * 16 + d, rest)
  | _ => none

/-- The character of an escape whose unit has been read; a high surrogate needs a low one next. -/
def readEscaped (n : Nat) (rest : List Char) : Option (Char × List Char) :=
  if 0xD800 ≤ n ∧ n < 0xDC00 then
    match rest with
    | '\x5c' :: 'u' :: rest => do
      let (m, rest) ← readUnit rest
      if 0xDC00 ≤ m ∧ m < 0xE000 then
        some (Char.ofNat (0x10000 + (n - 0xD800) * 0x400 + (m - 0xDC00)), rest)
      else none
    | _ => none
  else if 0xDC00 ≤ n ∧ n < 0xE000 then none
  else some (Char.ofNat n, rest)

/-- One character of a text in double quotes: `none` at the closing quote. -/
def readChar : List Char → Option (Option Char × List Char)
  | [] => none
  | '\x22' :: rest => some (none, rest)
  | '\x5c' :: e :: rest =>
    match e with
    | 'n' => some (some '\n', rest)
    | 'r' => some (some '\r', rest)
    | 't' => some (some '\t', rest)
    | 'b' => some (some '\x08', rest)
    | 'f' => some (some '\x0c', rest)
    | 'u' => do
      let (n, rest) ← readUnit rest
      let (c, rest) ← readEscaped n rest
      return (some c, rest)
    | _ => if e = '\x22' ∨ e = '\x5c' ∨ e = '/' then some (some e, rest) else none
  | c :: rest => if c.toNat < 0x20 ∨ c = '\x5c' then none else some (some c, rest)

/-- The characters of a text up to its closing quote. -/
def readChars : Nat → List Char → Option (List Char × List Char)
  | 0, _ => none
  | fuel + 1, cs =>
    match readChar cs with
    | none => none
    | some (none, rest) => some ([], rest)
    | some (some c, rest) => (readChars fuel rest).map fun (t, rest) => (c :: t, rest)

/-- A run of ASCII digits with the number they write. -/
def readNat (cs : List Char) : Option (Nat × Nat × List Char) :=
  let ds := cs.takeWhile Char.isDigit
  if ds.isEmpty then none
  else some (ds.foldl (fun n c => 10 * n + (c.toNat - 0x30)) 0, ds.length, cs.drop ds.length)

/-- The exponent of a number, zero if there is none. -/
def readExponent : List Char → Option (Option Int × List Char)
  | e :: rest =>
    if e = 'e' ∨ e = 'E' then
      match rest with
      | '-' :: rest => (readNat rest).map fun (n, _, rest) => (some (-(n : Int)), rest)
      | '+' :: rest => (readNat rest).map fun (n, _, rest) => (some (n : Int), rest)
      | rest => (readNat rest).map fun (n, _, rest) => (some (n : Int), rest)
    else some (none, e :: rest)
  | [] => some (none, [])

/-- A number. -/
def readNumber (cs : List Char) : Option (Json × List Char) := do
  let (negative, cs) := match cs with
    | '-' :: rest => (true, rest)
    | _ => (false, cs)
  let (whole, _, rest) ← readNat cs
  let (fraction, places, rest) ← match rest with
    | '.' :: rest => (readNat rest).map fun (n, k, rest) => (some n, k, rest)
    | _ => some (none, 0, rest)
  let (exponent, rest) ← readExponent rest
  if fraction.isNone ∧ exponent.isNone then
    return (int (if negative then -(whole : Int) else whole), rest)
  else
    let mantissa := whole * Nat.pow 10 places + fraction.getD 0
    let x := Binary64.ofDecimal mantissa (exponent.getD 0 - places)
    return (real (if negative then x.negate else x), rest)

/-- Take a word off the front. -/
def readWord (word : String) (value : Json) (cs : List Char) : Option (Json × List Char) :=
  let w := word.toList
  if w.isPrefixOf cs then some (value, cs.drop w.length) else none

mutual

/-- A value, with blanks before it. -/
def readValue (budget : Nat) : Nat → List Char → Option (Json × List Char)
  | 0, _ => none
  | fuel + 1, cs =>
    match skipBlanks cs with
    | [] => none
    | c :: rest =>
      if c = '\x22' then
        (readChars budget rest).map fun (t, rest) => (text (String.ofList t), rest)
      else if c = '[' then
        match skipBlanks rest with
        | ']' :: rest => some (list [], rest)
        | _ => (readItems budget fuel rest).map fun (items, rest) => (list items, rest)
      else if c = '\x7b' then
        match skipBlanks rest with
        | '\x7d' :: rest => some (object [], rest)
        | _ => (readFields budget fuel rest).map fun (fields, rest) => (object fields, rest)
      else if c = 'n' then readWord "null" null (c :: rest)
      else if c = 't' then readWord "true" (bool true) (c :: rest)
      else if c = 'f' then readWord "false" (bool false) (c :: rest)
      else readNumber (c :: rest)

/-- The members of a list up to its closing bracket. -/
def readItems (budget : Nat) : Nat → List Char → Option (List Json × List Char)
  | 0, _ => none
  | fuel + 1, cs =>
    match readValue budget fuel cs with
    | none => none
    | some (j, rest) =>
      match skipBlanks rest with
      | ',' :: rest => (readItems budget fuel rest).map fun (js, rest) => (j :: js, rest)
      | ']' :: rest => some ([j], rest)
      | _ => none

/-- The fields of an object up to its closing brace. -/
def readFields (budget : Nat) : Nat → List Char → Option (List (String × Json) × List Char)
  | 0, _ => none
  | fuel + 1, cs =>
    match skipBlanks cs with
    | '\x22' :: rest =>
      match readChars budget rest with
      | none => none
      | some (k, rest) =>
        match skipBlanks rest with
        | ':' :: rest =>
          match readValue budget fuel rest with
          | none => none
          | some (j, rest) =>
            match skipBlanks rest with
            | ',' :: rest =>
              (readFields budget fuel rest).map fun (fs, rest) => ((String.ofList k, j) :: fs, rest)
            | '\x7d' :: rest => some ([(String.ofList k, j)], rest)
            | _ => none
        | _ => none
    | _ => none

end

/-- The value that a line holds, if it holds exactly one. -/
def decode (s : String) : Option Json :=
  let cs := s.toList
  match readValue (cs.length + 1) (2 * cs.length + 2) cs with
  | some (j, rest) => if (skipBlanks rest).isEmpty then some j else none
  | none => none

end Timebox.Json
