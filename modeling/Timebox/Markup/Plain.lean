import Timebox.Markup.Cursor

/-!
# Plain scalars

A plain scalar has no quotes. It ends before a colon or a number sign that a gap sets off, before a
tab, and inside brackets before an indicator. It may go on over several lines as long as they are
indented deeply enough; line ends inside it are folded, and spaces around them are dropped.
-/

namespace Timebox.Markup

/-- A character with its successor ends a run of a plain scalar. -/
def endsRun (inFlow : Bool) (c : Char) (next : Option Char) : Bool :=
  isSpaceOrTab c || isBreak c ||
    (c = ':' && (isGap next || (inFlow && next.any fun d => ",[]\x7b\x7d".toList.contains d))) ||
    (inFlow && ",?[]\x7b\x7d".toList.contains c)

/-- The run of a plain scalar that follows. -/
def plainRun (inFlow : Bool) : List Char → List Char
  | [] => []
  | c :: cs => if endsRun inFlow c cs.head? then [] else c :: plainRun inFlow cs

/-- The line ends that follow a line end, with the spaces between them; whether a line that
separates documents stopped the search. -/
def moreBreaks : Nat → Cursor → List Char × Bool × Cursor
  | 0, c => ([], false, c)
  | fuel + 1, c =>
    if c.atSeparator then ([], true, c)
    else
      let c := c.skipWhile (· = ' ')
      match c.takeBreak with
      | ([], c) => ([], false, c)
      | (b, c) =>
        let (bs, stopped, c) := moreBreaks fuel c
        (b ++ bs, stopped, c)

/-- The gap after a run: what it becomes inside the scalar, and whether it goes over a line end.
What it becomes is empty if the scalar cannot go on after it. -/
def plainGap (c : Cursor) : List Char × Bool × Cursor :=
  let (spaces, c) := c.span (· = ' ')
  match c.takeBreak with
  | ([], c) => (spaces, false, c)
  | (first, c) =>
    let (others, stopped, c) := moreBreaks (c.rest.length + 1) c
    if stopped then ([], true, c)
    else (foldBreaks (first.headD '\n') others, true, c)

/-- A scalar that has been read, and whether a line end was passed after its last character. -/
structure PlainText where
  text : List Char
  crossed : Bool
  cursor : Cursor

/-- The runs of a plain scalar with the gaps between them. -/
def plainRuns (inFlow : Bool) (indent : Int) : Nat → Cursor → PlainText
  | 0, c => { text := [], crossed := false, cursor := c }
  | fuel + 1, c =>
    let run := plainRun inFlow c.rest
    let (gap, crossed, after) := plainGap (c.skip run.length)
    if run.isEmpty then { text := [], crossed := false, cursor := c }
    else if gap.isEmpty || after.peek? = some '#' || (!inFlow && after.column < indent) then
      { text := run, crossed := crossed, cursor := after }
    else
      let more := plainRuns inFlow indent fuel after
      if more.text.isEmpty then { text := run, crossed := crossed, cursor := more.cursor }
      else { more with text := run ++ gap ++ more.text }

/-- Read a plain scalar inside a block of some indentation. -/
def readPlain (inFlow : Bool) (indent : Int) (c : Cursor) : PlainText :=
  plainRuns inFlow (indent + 1) (c.rest.length + 1) c

end Timebox.Markup
