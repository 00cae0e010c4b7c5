/-!
# Lines

A text as lines. A line ends at a line feed, a carriage return, the two together, a vertical tab, a
form feed, an information separator, a next line character, or a line or paragraph separator; the
end of the last line may be missing.
-/

namespace Timebox.Text

/-- The character ends a line. -/
def endsLine (c : Char) : Bool :=
  ('\n' ≤ c && c ≤ '\r') || ('\x1c' ≤ c && c ≤ '\x1e') || c = '\x85' || c = '\u2028' || c = '\u2029'

/-- Put a character in front of the first line. -/
def consLine (c : Char) : List (List Char) → List (List Char)
  | [] => [[c]]
  | l :: ls => (c :: l) :: ls

/-- The lines of a text. -/
def linesOfChars : List Char → List (List Char)
  | [] => []
  | '\r' :: '\n' :: cs => [] :: linesOfChars cs
  | c :: cs => if endsLine c then [] :: linesOfChars cs else consLine c (linesOfChars cs)

/-- The lines of a text. -/
def lines (s : String) : List String := (linesOfChars s.toList).map String.ofList

end Timebox.Text
