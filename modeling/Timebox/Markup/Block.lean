import Timebox.Markup.Cursor

/-!
# Block scalars

A block scalar is a header and indented lines. After a vertical bar its lines are kept as they are;
after an angle bracket they are folded, save for lines that start with a blank. The header may fix
the indentation, and it says what happens to the line ends at the end: one is kept, none, or all.
-/

namespace Timebox.Markup

/-- What happens to the line ends at the end of a block scalar. -/
inductive Chomping where
  | clip
  | strip
  | keep
  deriving DecidableEq, Repr

/-- The chomping that a sign asks for. -/
def chompingOf? (c : Option Char) : Option Chomping :=
  match c with
  | some '+' => some .keep
  | some '-' => some .strip
  | _ => none

/-- A header of a block scalar. -/
structure BlockHeader where
  chomping : Chomping := .clip
  /-- The indentation relative to the parent, if it is fixed. -/
  indentation : Option Nat := none

/-- An indentation indicator: a digit other than zero. -/
def indentationOf? (c : Cursor) : Except Defect (Option Nat × Cursor) :=
  match c.peek? with
  | some d =>
    if d.isDigit then
      if d = '0' then .error .malformed else .ok (some (d.toNat - 0x30), c.next)
    else .ok (none, c)
  | none => .ok (none, c)

/-- The indicators of a header, in either order. -/
def readIndicators (c : Cursor) : Except Defect (BlockHeader × Cursor) :=
  match chompingOf? c.peek? with
  | some chomping =>
    (indentationOf? c.next).map fun (indentation, c) => ({ chomping, indentation }, c)
  | none =>
    (indentationOf? c).map fun (indentation, c) =>
      match indentation, chompingOf? c.peek? with
      | some n, some chomping => ({ chomping, indentation := some n }, c.next)
      | _, _ => ({ indentation }, c)

/-- The rest of the header's line: spaces and a comment. -/
def skipHeaderLine (c : Cursor) : Except Defect Cursor :=
  let c := c.skipWhile (· = ' ')
  let c := if c.peek? = some '#' then c.skipWhile fun ch => !isBreak ch else c
  if c.peek?.all isBreak then .ok c.takeBreak.2 else .error .malformed

/-- Read a header, with the cursor after the bar or bracket. -/
def readHeader (c : Cursor) : Except Defect (BlockHeader × Cursor) :=
  match readIndicators c with
  | .error e => .error e
  | .ok (header, c) =>
    if c.peek?.all fun ch => ch = ' ' || isBreak ch then
      (skipHeaderLine c).map fun c => (header, c)
    else .error .malformed

/-- Pass over spaces as far as a column. -/
def skipIndentation (column : Nat) (c : Cursor) : Cursor :=
  c.skip (min (c.rest.takeWhile (· = ' ')).length (column - c.column))

/-- The empty lines that follow, passing over spaces as far as a column. -/
def blockBreaks (column : Nat) : Nat → Cursor → List Char × Cursor
  | 0, c => ([], c)
  | fuel + 1, c =>
    match (skipIndentation column c).takeBreak with
    | ([], c) => ([], c)
    | (b, c) =>
      let (bs, c) := blockBreaks column fuel c
      (b ++ bs, c)

/-- The empty lines that follow and the deepest column among their spaces and those of the next
line. -/
def findIndentation : Nat → Cursor → List Char × Nat × Cursor
  | 0, c => ([], 0, c)
  | fuel + 1, c =>
    let c := c.skipWhile (· = ' ')
    match c.takeBreak with
    | ([], c) => ([], c.column, c)
    | (b, after) =>
      let (bs, deepest, stop) := findIndentation fuel after
      (b ++ bs, max c.column deepest, stop)

/-- The lines of a block scalar without what comes at their end. -/
structure BlockLines where
  text : List Char
  /-- The line end of the last line. -/
  lastBreak : List Char
  /-- The empty lines after it. -/
  trailing : List Char
  cursor : Cursor

/-- A line starts with something other than a blank. -/
def startsFlush (c : Cursor) : Bool :=
  !c.peek?.any isSpaceOrTab

/-- What stands between two lines of a block scalar. -/
def blockJoint (folded flush : Bool) (lineBreak empty : List Char) : List Char :=
  if folded && flush && lineBreak = ['\n'] then
    if empty.isEmpty then [' '] else []
  else lineBreak

/-- Read the lines at a column, after some empty lines. -/
def readLines (folded : Bool) (column : Nat) : Nat → List Char → Cursor → BlockLines
  | 0, empty, c => { text := [], lastBreak := [], trailing := empty, cursor := c }
  | fuel + 1, empty, c =>
    if c.column ≠ column || c.atEnd then
      { text := [], lastBreak := [], trailing := empty, cursor := c }
    else
      let (line, stop) := c.span fun ch => !isBreak ch
      let (lineBreak, stop) := stop.takeBreak
      let (next, stop) := blockBreaks column (stop.rest.length + 1) stop
      if stop.column = column && !stop.atEnd then
        let joint := blockJoint folded (startsFlush c && startsFlush stop) lineBreak next
        let more := readLines folded column fuel next stop
        { more with text := empty ++ line ++ joint ++ more.text }
      else { text := empty ++ line, lastBreak := lineBreak, trailing := next, cursor := stop }

/-- Apply the chomping. -/
def BlockLines.chomp (ls : BlockLines) : Chomping → List Char
  | .strip => ls.text
  | .clip => ls.text ++ ls.lastBreak
  | .keep => ls.text ++ ls.lastBreak ++ ls.trailing

/-- The column of a block scalar's lines, and the empty lines before the first. -/
def blockStart (least : Nat) (c : Cursor) : Option Nat → Nat × List Char × Cursor
  | some n =>
    let column := least + n - 1
    let (empty, c) := blockBreaks column (c.rest.length + 1) c
    (column, empty, c)
  | none =>
    let (empty, deepest, c) := findIndentation (c.rest.length + 1) c
    (max least deepest, empty, c)

/-- Read a block scalar inside a block of some indentation, with the cursor at the bar or bracket.
-/
def readBlock (folded : Bool) (indent : Int) (c : Cursor) : Except Defect (List Char × Cursor) :=
  match readHeader c.next with
  | .error e => .error e
  | .ok (header, c) =>
    let (column, empty, c) := blockStart (max 1 (indent + 1).toNat) c header.indentation
    let lines := readLines folded column (c.rest.length + 1) empty c
    .ok (lines.chomp header.chomping, lines.cursor)

end Timebox.Markup
