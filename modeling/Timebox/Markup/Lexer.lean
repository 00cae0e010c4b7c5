import Timebox.Markup.Block
import Timebox.Markup.Plain
import Timebox.Markup.Quoted
import Timebox.Markup.Token

/-!
# From text to tokens

The lexer keeps track of the indentation of the open blocks and of the places that may turn out to
be keys. When a colon comes, the place before it becomes a key, and if it is indented more deeply
than the block around it, it opens a mapping. A place can only become a key on its own line and
within a bounded distance; a place at the indentation of its block has to become one. As long as a
place may become a key, its own token and those after it are not settled, so a defect takes them
away.
-/

namespace Timebox.Markup

/-- A place that may turn out to be a key. -/
structure PendingKey where
  /-- How many brackets are open around it. -/
  level : Nat
  /-- How many tokens come before it. -/
  number : Nat
  /-- It has to become a key. -/
  required : Bool
  cursor : Cursor

/-- How far a colon may be from the start of its key. -/
def maxKeyLength : Nat := 1024

/-- The state of the lexer. -/
structure Lexer where
  cursor : Cursor
  /-- The indentation of the innermost block; negative if there is none. -/
  indent : Int := -1
  /-- The indentations of the blocks around it. -/
  outer : List Int := []
  /-- How many brackets are open. -/
  level : Nat := 0
  /-- A key may start here. -/
  keyAllowed : Bool := true
  pending : List PendingKey := []
  /-- The tokens so far, last to first. -/
  tokens : List Token := []

namespace Lexer

/-- Brackets are open. -/
def inFlow (l : Lexer) : Bool := l.level != 0

/-- Add a token. -/
def push (l : Lexer) (t : Token) : Lexer := { l with tokens := t :: l.tokens }

/-- Pass over characters and add a token for them. -/
def take (l : Lexer) (n : Nat) (t : Token) : Lexer :=
  { l with cursor := l.cursor.skip n }.push t

/-! ### Keys -/

/-- The place is too far behind the cursor to become a key. -/
def isStale (l : Lexer) (k : PendingKey) : Bool :=
  k.cursor.line != l.cursor.line || l.cursor.index - k.cursor.index > maxKeyLength

/-- Give up the places that can no longer become keys. -/
def dropStale (l : Lexer) : Except Defect Lexer :=
  if l.pending.any fun k => l.isStale k && k.required then .error .malformed
  else .ok { l with pending := l.pending.filter fun k => !l.isStale k }

/-- Give up the place of the current level. -/
def dropPending (l : Lexer) : Except Defect Lexer :=
  if l.pending.any fun k => k.level == l.level && k.required then .error .malformed
  else .ok { l with pending := l.pending.filter fun k => k.level != l.level }

/-- Note that the next token may turn out to be a key. -/
def notePending (l : Lexer) : Except Defect Lexer :=
  if l.keyAllowed then
    l.dropPending.map fun l =>
      { l with
        pending :=
          { level := l.level
            number := l.tokens.length
            required := !l.inFlow && l.indent == (l.cursor.column : Int)
            cursor := l.cursor } :: l.pending }
  else .ok l

/-! ### Indentation -/

/-- Close blocks that are indented more deeply than a column, given the indentations around. -/
def closeBlocks (column : Int) (l : Lexer) : List Int → Lexer
  | [] => l
  | o :: os =>
    if l.indent > column then
      closeBlocks column { l.push .blockEnd with indent := o, outer := os } os
    else l

/-- Close the blocks that end before a column; brackets ignore indentation. -/
def unwind (l : Lexer) (column : Int) : Lexer :=
  if l.inFlow then l else l.closeBlocks column l.outer

/-- A block at the column would be a new one. -/
def isDeeper (l : Lexer) (column : Nat) : Bool := l.indent < (column : Int)

/-- Open a block at a column. -/
def deepen (l : Lexer) (column : Nat) : Lexer :=
  { l with indent := (column : Int), outer := l.indent :: l.outer }

/-- Open a block at the cursor with a token, unless it is open already. -/
def openBlock (l : Lexer) (t : Token) : Lexer :=
  if l.isDeeper l.cursor.column then (l.deepen l.cursor.column).push t else l

/-! ### Tokens -/

/-- Pass over spaces, comments and line ends. Outside brackets a line end allows a key. -/
def skipBlanks : Nat → Lexer → Lexer
  | 0, l => l
  | fuel + 1, l =>
    let c := l.cursor.skipWhile (· = ' ')
    let c := if c.peek? = some '#' then c.skipWhile fun ch => !isBreak ch else c
    match c.takeBreak with
    | ([], c) => { l with cursor := c }
    | (_, c) => skipBlanks fuel { l with cursor := c, keyAllowed := !l.inFlow || l.keyAllowed }

/-- A line that separates documents, or a directive. -/
def readOutside (l : Lexer) (n : Nat) (t : Token) : Except Defect Lexer :=
  (l.unwind (-1)).dropPending.map fun l => { l with keyAllowed := false }.take n t

/-- An opening bracket. -/
def readOpen (l : Lexer) (t : Token) : Except Defect Lexer :=
  l.notePending.map fun l => { l with level := l.level + 1, keyAllowed := true }.take 1 t

/-- A closing bracket. -/
def readClose (l : Lexer) (t : Token) : Except Defect Lexer :=
  if l.level = 0 then .error .malformed
  else l.dropPending.map fun l => { l with level := l.level - 1, keyAllowed := false }.take 1 t

/-- A comma between brackets. -/
def readComma (l : Lexer) : Except Defect Lexer :=
  ({ l with keyAllowed := true } : Lexer).dropPending.map fun l => l.take 1 .comma

/-- The mark of a sequence entry. -/
def readEntry (l : Lexer) : Except Defect Lexer :=
  if !l.inFlow && !l.keyAllowed then .error .malformed
  else
    let l := if l.inFlow then l else l.openBlock .sequenceStart
    ({ l with keyAllowed := true } : Lexer).dropPending.map fun l => l.take 1 .entry

/-- The mark of an explicit key. -/
def readKey (l : Lexer) : Except Defect Lexer :=
  if !l.inFlow && !l.keyAllowed then .error .malformed
  else
    let l := if l.inFlow then l else l.openBlock .mappingStart
    ({ l with keyAllowed := !l.inFlow } : Lexer).dropPending.map fun l => l.take 1 .key

/-- Insert tokens, last to first, after the first ones. -/
def insertAt (number : Nat) (ts : List Token) (l : Lexer) : Lexer :=
  let later := l.tokens.length - number
  { l with tokens := l.tokens.take later ++ ts ++ l.tokens.drop later }

/-- A colon that makes a place a key. -/
def readValueOf (l : Lexer) (k : PendingKey) : Lexer :=
  let l := { l with pending := l.pending.filter fun k => k.level != l.level, keyAllowed := false }
  let l :=
    if !l.inFlow && l.isDeeper k.cursor.column then
      (l.deepen k.cursor.column).insertAt k.number [.key, .mappingStart]
    else l.insertAt k.number [.key]
  l.take 1 .value

/-- A colon. -/
def readValue (l : Lexer) : Except Defect Lexer :=
  match l.pending.find? fun k => k.level == l.level with
  | some k => .ok (l.readValueOf k)
  | none =>
    if !l.inFlow && !l.keyAllowed then .error .malformed
    else
      let l := if l.inFlow then l else l.openBlock .mappingStart
      ({ l with keyAllowed := !l.inFlow } : Lexer).dropPending.map fun l => l.take 1 .value

/-- Add a scalar that has been read. -/
def pushScalar (l : Lexer) (text : List Char) (plain : Bool) (c : Cursor) : Lexer :=
  { l with cursor := c }.push (.scalar (String.ofList text) plain)

/-- A plain scalar. -/
def readPlainScalar (l : Lexer) : Except Defect Lexer :=
  l.notePending.map fun l =>
    let plain := readPlain l.inFlow l.indent l.cursor
    { l with keyAllowed := plain.crossed }.pushScalar plain.text true plain.cursor

/-- A scalar in quotes. -/
def readQuotedScalar (l : Lexer) (double : Bool) : Except Defect Lexer :=
  match l.notePending, readQuoted double l.cursor with
  | .error e, _ => .error e
  | _, .error e => .error e
  | .ok l, .ok (text, c) => .ok ({ l with keyAllowed := false }.pushScalar text false c)

/-- A block scalar. -/
def readBlockScalar (l : Lexer) (folded : Bool) : Except Defect Lexer :=
  match l.dropPending, readBlock folded l.indent l.cursor with
  | .error e, _ => .error e
  | _, .error e => .error e
  | .ok l, .ok (text, c) => .ok ({ l with keyAllowed := true }.pushScalar text false c)

/-- The character with its successor starts a plain scalar. -/
def startsPlain (inFlow : Bool) (ch : Char) (next : Option Char) : Bool :=
  !"-?:,[]\x7b\x7d#&*!|>\x27\x22%@\x60".toList.contains ch && !isSpaceOrTab ch ||
    !isGap next && (ch = '-' || (!inFlow && (ch = '?' || ch = ':')))

/-- The marks that a gap sets off; between brackets the last two need none. -/
def readMark? (l : Lexer) (ch : Char) : Option (Except Defect Lexer) :=
  let apart := isGap l.cursor.peekNext?
  if ch = '-' && apart then some l.readEntry
  else if ch = '?' && (l.inFlow || apart) then some l.readKey
  else if ch = ':' && (l.inFlow || apart) then some l.readValue
  else none

/-- The tokens that only stand at the start of a line. -/
def readLineStart? (l : Lexer) (ch : Char) : Option (Except Defect Lexer) :=
  if l.cursor.column ≠ 0 then none
  else if ch = '%' then some (l.readOutside 1 .directive)
  else if l.cursor.at3 '-' then some (l.readOutside 3 .documentStart)
  else if l.cursor.at3 '.' then some (l.readOutside 3 .documentEnd)
  else none

/-- Brackets and commas. -/
def readBracket? (l : Lexer) (ch : Char) : Option (Except Defect Lexer) :=
  match ch with
  | '[' => some (l.readOpen .openList)
  | ']' => some (l.readClose .closeList)
  | '\x7b' => some (l.readOpen .openMap)
  | '\x7d' => some (l.readClose .closeMap)
  | ',' => some l.readComma
  | _ => none

/-- Scalars. Anchors, aliases and tags are not part of the markup. -/
def readScalar (l : Lexer) (ch : Char) : Except Defect Lexer :=
  if ch = '|' && !l.inFlow then l.readBlockScalar false
  else if ch = '>' && !l.inFlow then l.readBlockScalar true
  else if ch = singleQuote then l.readQuotedScalar false
  else if ch = doubleQuote then l.readQuotedScalar true
  else if startsPlain l.inFlow ch l.cursor.peekNext? then l.readPlainScalar
  else .error .malformed

/-- Read the next tokens, with the cursor at their first character. -/
def readAt (l : Lexer) (ch : Char) : Except Defect Lexer :=
  match (l.readLineStart? ch).or ((l.readBracket? ch).or (l.readMark? ch)) with
  | some r => r
  | none => l.readScalar ch

/-- Close everything at the end of the text. -/
def finish (l : Lexer) : Except Defect (List Token) :=
  (l.unwind (-1)).dropPending.map fun l => l.tokens.reverse

/-- The tokens that no later colon can change. -/
def settled (l : Lexer) : List Token :=
  let candidates := l.pending.filter fun k => !l.isStale k
  l.tokens.reverse.take (candidates.foldl (fun n k => min n k.number) l.tokens.length)

/-- The tokens when the next one cannot be read. -/
def breakOff (l : Lexer) (d : Defect) : List Token := l.settled ++ [.broken d]

/-- Pass over what comes before the next token. -/
def approach (l : Lexer) : Except Defect Lexer :=
  (skipBlanks (l.cursor.rest.length + 1) l).dropStale.map fun l => l.unwind l.cursor.column

/-- Read all tokens. -/
def run : Nat → Lexer → List Token
  | 0, l => l.breakOff .malformed
  | fuel + 1, l =>
    match l.approach with
    | .error d => l.breakOff d
    | .ok next =>
      match next.cursor.peek? with
      | none =>
        match next.finish with
        | .error d => l.breakOff d
        | .ok ts => ts
      | some ch =>
        match next.readAt ch with
        | .error d => l.breakOff d
        | .ok next => run fuel next

end Lexer

/-- The character may stand in a text of the markup. -/
def isAllowed (c : Char) : Bool :=
  c = '\t' || c = '\n' || c = '\x85' || (' ' ≤ c && c ≤ '~') ||
    ('\xa0' ≤ c && c != '\ufffe' && c != '\uffff')

/-- Line ends of one or two characters as line feeds. -/
def unifyBreaks : List Char → List Char
  | '\r' :: '\n' :: cs => '\n' :: unifyBreaks cs
  | '\r' :: cs => '\n' :: unifyBreaks cs
  | c :: cs => c :: unifyBreaks cs
  | [] => []

/-- The tokens of a text. A byte order mark may come first. -/
def Token.ofText (s : String) : List Token :=
  let cs := unifyBreaks s.toList
  if cs.all isAllowed then
    let start := Cursor.ofChars cs
    let start := if start.peek? = some byteOrderMark then start.next else start
    Lexer.run (cs.length + 1) { cursor := start }
  else [.broken .malformed]

end Timebox.Markup
