import Timebox.Json.Basic
import Timebox.Number.Shortest
import Timebox.Text.Quoted

/-!
# Writing JSON on one line

A value becomes a single line of printable ASCII characters: fields are sorted by key, a comma and
a colon are each followed by one space, and every character outside the printable ASCII range is
escaped, beyond the basic plane as a pair of surrogates. So no text in a value can break a line or
forge one. Whoever writes a value first sees whether it can be written (`Json.isWritable`).
-/

namespace Timebox.Json

/-- An escape of a sixteen-bit unit. -/
def unitEscape (n : Nat) : List Char :=
  Text.backslash :: 'u' :: Text.hexDigits 4 n

/-- One character of a text: itself, a short escape, or one or two escapes of sixteen bits. -/
def escapeChar (c : Char) : List Char :=
  let n := c.toNat
  if c = Text.doubleQuote ∨ c = Text.backslash then [Text.backslash, c]
  else if 0x20 ≤ n ∧ n ≤ 0x7E then [c]
  else if c = '\n' then [Text.backslash, 'n']
  else if c = '\r' then [Text.backslash, 'r']
  else if c = '\t' then [Text.backslash, 't']
  else if n = 8 then [Text.backslash, 'b']
  else if n = 12 then [Text.backslash, 'f']
  else if n < 0x10000 then unitEscape n
  else unitEscape (0xD800 + (n - 0x10000) / 0x400) ++ unitEscape (0xDC00 + (n - 0x10000) % 0x400)

/-- A text in double quotes. -/
def encodeText (s : String) : List Char :=
  Text.doubleQuote :: s.toList.flatMap escapeChar ++ [Text.doubleQuote]

/-- A floating-point number; the ones that are not finite have words. -/
def encodeReal (x : Binary64) : List Char :=
  match x.meaning with
  | .undefined => "NaN".toList
  | .infinite negative => if negative then "-Infinity".toList else "Infinity".toList
  | .finite .. => x.text.toList

/-- Members with a comma and a space between neighbours. -/
def separated : List (List Char) → List Char
  | [] => []
  | [m] => m
  | m :: n :: ms => m ++ ',' :: ' ' :: separated (n :: ms)

/-- Written fields in the order of their keys. -/
def sortFields (fields : List (String × List Char)) : List (String × List Char) :=
  fields.mergeSort fun a b => !(b.1 < a.1)

/-- A written field. -/
def encodeField (field : String × List Char) : List Char :=
  encodeText field.1 ++ ':' :: ' ' :: field.2

mutual

/-- The characters of a value. -/
def encode : Json → List Char
  | null => "null".toList
  | bool b => if b then "true".toList else "false".toList
  | int n => (toString n).toList
  | real x => encodeReal x
  | text s => encodeText s
  | list items => '[' :: separated (encodeItems items) ++ [']']
  | object fields =>
    '\x7b' :: separated ((sortFields (encodeFields fields)).map encodeField) ++ ['\x7d']

/-- The members of a list, each written. -/
def encodeItems : List Json → List (List Char)
  | [] => []
  | j :: js => encode j :: encodeItems js

/-- The fields of an object with their values written. -/
def encodeFields : List (String × Json) → List (String × List Char)
  | [] => []
  | (k, j) :: rest => (k, encode j) :: encodeFields rest

end

/-- The line of a value. -/
def line (j : Json) : String :=
  String.ofList j.encode

end Timebox.Json
