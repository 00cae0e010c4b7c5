/-!
# Places in a markup text

A cursor is a place in a text: what follows it, how many characters come before it, and its line and
column. A byte order mark takes no column. Lines end at a line feed, a next line character, or a
line or paragraph separator.
-/

namespace Timebox.Markup

/-- Why a text has no value. -/
inductive Defect where
  /-- The text breaks the rules of the markup. -/
  | malformed
  /-- A scalar looks like a number, a date or a character, and there is none. -/
  | noValue
  /-- A character's number is beyond all bounds. -/
  | tooLarge
  deriving DecidableEq, Repr

/-- The byte order mark. -/
def byteOrderMark : Char := '\ufeff'

/-- The character ends a line. -/
def isBreak (c : Char) : Bool :=
  c = '\n' || c = '\x85' || c = '\u2028' || c = '\u2029'

/-- What a line end stands for in a scalar: a line feed, or the separator itself. -/
def breakText (c : Char) : Char :=
  if c = '\x85' then '\n' else c

/-- The character is a space or a tab. -/
def isSpaceOrTab (c : Char) : Bool :=
  c = ' ' || c = '\t'

/-- Nothing follows, or a space, a tab or a line end does. -/
def isGap : Option Char → Bool
  | none => true
  | some c => isSpaceOrTab c || isBreak c

/-- A place in a text. -/
structure Cursor where
  rest : List Char
  index : Nat := 0
  line : Nat := 0
  column : Nat := 0
  deriving DecidableEq, Repr

namespace Cursor

/-- The start of a text. -/
def ofChars (cs : List Char) : Cursor := { rest := cs }

/-- Pass over one character. -/
def next (c : Cursor) : Cursor :=
  match c.rest with
  | [] => c
  | ch :: rest =>
    if isBreak ch then { rest := rest, index := c.index + 1, line := c.line + 1, column := 0 }
    else
      { c with
        rest := rest
        index := c.index + 1
        column := if ch = byteOrderMark then c.column else c.column + 1 }

/-- Pass over some characters. -/
def skip : Nat → Cursor → Cursor
  | 0, c => c
  | n + 1, c => skip n c.next

/-- The character at the cursor. -/
def peek? (c : Cursor) : Option Char := c.rest.head?

/-- The character after the one at the cursor. -/
def peekNext? (c : Cursor) : Option Char := c.rest.tail.head?

/-- The text is over. -/
def atEnd (c : Cursor) : Bool := c.rest.isEmpty

/-- Take the characters that pass a test. -/
def span (p : Char → Bool) (c : Cursor) : List Char × Cursor :=
  let taken := c.rest.takeWhile p
  (taken, c.skip taken.length)

/-- Pass over the characters that pass a test. -/
def skipWhile (p : Char → Bool) (c : Cursor) : Cursor := (c.span p).2

/-- Take a line end, if there is one. -/
def takeBreak (c : Cursor) : List Char × Cursor :=
  match c.rest with
  | ch :: _ => if isBreak ch then ([breakText ch], c.next) else ([], c)
  | [] => ([], c)

/-- Three characters and a gap follow. -/
def at3 (m : Char) (c : Cursor) : Bool :=
  match c.rest with
  | x :: y :: z :: rest => x = m && y = m && z = m && isGap rest.head?
  | _ => false

/-- A line that separates documents follows. -/
def atSeparator (c : Cursor) : Bool :=
  c.at3 '-' || c.at3 '.'

end Cursor

/-- What line ends inside a scalar become: a single line feed becomes a space, and of several line
ends all but the first are kept. -/
def foldBreaks (first : Char) (others : List Char) : List Char :=
  if first ≠ '\n' then first :: others
  else if others.isEmpty then [' '] else others

end Timebox.Markup
