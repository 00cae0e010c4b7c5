import Timebox.Markup.Cursor

/-!
# Tokens of markup

A markup text is a sequence of tokens. Indentation shows as tokens that open and close block
collections, and a key shows before its content although the colon that makes it one comes after.
Where the text breaks off, the tokens end with the defect.
-/

namespace Timebox.Markup

/-- A token. -/
inductive Token where
  /-- A block sequence is opened by its indentation. -/
  | sequenceStart
  /-- A block mapping is opened by its indentation. -/
  | mappingStart
  /-- A block collection is closed. -/
  | blockEnd
  | openList
  | closeList
  | openMap
  | closeMap
  | comma
  /-- The mark of a sequence entry. -/
  | entry
  | key
  | value
  | documentStart
  | documentEnd
  /-- A directive, which starts a line with a percent sign. -/
  | directive
  | scalar (text : String) (plain : Bool)
  /-- The text has no further tokens because of a defect. -/
  | broken (d : Defect)
  deriving DecidableEq, Repr

namespace Token

/-- The token is one of some others. -/
def isOneOf (ts : List Token) (t : Token) : Bool := ts.contains t

end Token

end Timebox.Markup
