import Timebox.Json.Decode
import Timebox.Markup.Cursor

/-!
# Quoted scalars

A scalar in single quotes is literal, with a quote inside written twice. In double quotes a
backslash starts an escape. In both, line ends are folded and the blanks around them are dropped; a
backslash at the end of a line in double quotes joins it to the next one.
-/

namespace Timebox.Markup

/-- A single quote. -/
def singleQuote : Char := '\x27'

/-- A double quote. -/
def doubleQuote : Char := '\x22'

/-- The character of a one-letter escape. -/
def shortEscape? (c : Char) : Option Char :=
  [('0', '\x00'), ('a', '\x07'), ('b', '\x08'), ('t', '\t'), ('\t', '\t'), ('n', '\n'),
    ('v', '\x0b'), ('f', '\x0c'), ('r', '\r'), ('e', '\x1b'), (' ', ' '), ('\x22', '\x22'),
    ('\x5c', '\x5c'), ('/', '/'), ('N', '\x85'), ('_', '\xa0'), ('L', '\u2028'),
    ('P', '\u2029')].lookup c

/-- How many digits follow the letter of a numeric escape. -/
def escapeDigits? (c : Char) : Option Nat :=
  [('x', 2), ('u', 4), ('U', 8)].lookup c

/-- The number that hexadecimal digits write. -/
def hexNumber? (ds : List Char) : Option Nat :=
  ds.foldlM (fun n d => (Json.hexValue? d).map fun k => 16 * n + k) 0

/-- The character of a number. Numbers beyond the last character have none, and numbers of more than
thirty-one bits are not even tried; half of a surrogate pair is no text. -/
def charOfNumber (n : Nat) : Except Defect Char :=
  if Nat.pow 2 31 ≤ n then .error .tooLarge
  else if 0x10FFFF < n then .error .noValue
  else if 0xD800 ≤ n ∧ n < 0xE000 then .error .malformed
  else .ok (Char.ofNat n)

/-- The line ends after a first one, with the blanks before and after them. -/
def quotedBreaks : Nat → Cursor → Except Defect (List Char × Cursor)
  | 0, c => .ok ([], c)
  | fuel + 1, c =>
    if c.atSeparator then .error .malformed
    else
      match (c.skipWhile isSpaceOrTab).takeBreak with
      | ([], c) => .ok ([], c)
      | (b, c) => (quotedBreaks fuel c).map fun (bs, c) => (b ++ bs, c)

/-- Blanks and line ends inside quotes. -/
def quotedGap (c : Cursor) : Except Defect (List Char × Cursor) :=
  let (blanks, c) := c.span isSpaceOrTab
  match c.takeBreak with
  | ([], c) => .ok (blanks, c)
  | (first, c) =>
    (quotedBreaks (c.rest.length + 1) c).map fun (others, c) =>
      (foldBreaks (first.headD '\n') others, c)

/-- The number of a numeric escape, with the cursor at its letter. -/
def readNumber (c : Cursor) : Option (Except Defect (Nat × Cursor)) :=
  (c.peek?.bind escapeDigits?).map fun k =>
    let ds := c.next.rest.take k
    match hexNumber? ds with
    | some n => if ds.length < k then .error .malformed else .ok (n, c.next.skip k)
    | none => .error .malformed

/-- The second half of a surrogate pair as an escape of its own. -/
def readSecondHalf? (c : Cursor) : Option (Nat × Cursor) :=
  if c.peek? ≠ some '\x5c' then none
  else match readNumber c.next with
    | some (.ok (n, c)) => if 0xDC00 ≤ n ∧ n < 0xE000 then some (n, c) else none
    | _ => none

/-- The character of a numeric escape. The halves of a surrogate pair may be two escapes. -/
def completeEscape (n : Nat) (c : Cursor) : Except Defect (List Char × Cursor) :=
  match if 0xD800 ≤ n ∧ n < 0xDC00 then readSecondHalf? c else none with
  | some (low, c) =>
    (charOfNumber (0x10000 + (n - 0xD800) * 0x400 + (low - 0xDC00))).map fun x => ([x], c)
  | none => (charOfNumber n).map fun x => ([x], c)

/-- An escape, with the cursor after its backslash. -/
def readEscape (c : Cursor) : Except Defect (List Char × Cursor) :=
  match c.peek? with
  | none => .error .malformed
  | some ch =>
    match shortEscape? ch, readNumber c with
    | some x, _ => .ok ([x], c.next)
    | none, some (.ok (n, c)) => completeEscape n c
    | none, some (.error e) => .error e
    | none, none =>
      match c.takeBreak with
      | ([], _) => .error .malformed
      | (_, c) => quotedBreaks (c.rest.length + 1) c

/-- The text up to the closing quote, and what follows it. -/
def quotedRuns (double : Bool) : Nat → Cursor → Except Defect (List Char × Cursor)
  | 0, _ => .error .malformed
  | fuel + 1, c =>
    match c.peek? with
    | none => .error .malformed
    | some ch =>
      let go (piece : Except Defect (List Char × Cursor)) : Except Defect (List Char × Cursor) :=
        match piece with
        | .error e => .error e
        | .ok (text, c) => (quotedRuns double fuel c).map fun (more, c) => (text ++ more, c)
      if isSpaceOrTab ch || isBreak ch then go (quotedGap c)
      else if double then
        if ch = doubleQuote then .ok ([], c.next)
        else if ch = '\x5c' then go (readEscape c.next)
        else go (.ok ([ch], c.next))
      else if ch = singleQuote then
        if c.peekNext? = some singleQuote then go (.ok ([ch], c.skip 2)) else .ok ([], c.next)
      else go (.ok ([ch], c.next))

/-- Read a scalar in quotes, with the cursor at the opening quote. -/
def readQuoted (double : Bool) (c : Cursor) : Except Defect (List Char × Cursor) :=
  quotedRuns double (c.rest.length + 1) c.next

end Timebox.Markup
