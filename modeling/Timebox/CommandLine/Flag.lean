import Timebox.Text.Cut
import Timebox.Text.Digit

/-!
# Flags

A flag starts with dashes. It is a switch, or it takes a value: the next word, or what follows an
equals sign. A long flag may be shortened as long as only one flag starts that way. A word that
starts with a dash and is no flag still counts as a value if it writes a negative number or holds a
space. After two dashes nothing is a flag any more.
-/

namespace Timebox.CommandLine

/-- A flag. -/
inductive Flag where
  | help
  | scenario
  | window
  | hasNext
  | profile
  | journey
  | argument
  | exclude
  | teardownWindow
  | console
  | logPath
  | verbose
  deriving DecidableEq, Repr

namespace Flag

/-- The spellings of a flag. -/
def spellings : Flag → List String
  | help => ["-h", "--help"]
  | scenario => ["--scenario"]
  | window => ["--window-ms"]
  | hasNext => ["--has-next"]
  | profile => ["--profile"]
  | journey => ["--journey"]
  | argument => ["--arg"]
  | exclude => ["--exclude"]
  | teardownWindow => ["--teardown-window-ms"]
  | console => ["--obs-console"]
  | logPath => ["--log-path"]
  | verbose => ["--verbose"]

/-- How messages call a flag. -/
def label (f : Flag) : String := "/".intercalate f.spellings

/-- The flag takes a value. -/
def takesValue : Flag → Bool
  | help => false
  | hasNext => false
  | console => false
  | verbose => false
  | _ => true

/-- The flags before the command. -/
def beforeCommand : List Flag := [help]

/-- The flags of the command that runs a scenario. -/
def ofRun : List Flag :=
  [help, scenario, window, hasNext, profile, journey, argument, exclude, teardownWindow, console,
    logPath, verbose]

/-- The spellings of some flags. -/
def table (flags : List Flag) : List (String × Flag) :=
  flags.flatMap fun f => f.spellings.map fun s => (s, f)

end Flag

/-- What is attached to a flag in its own word. -/
inductive Attached where
  | nothing
  /-- What follows the equals sign after a long flag. -/
  | marked (text : String)
  /-- What follows a short flag; an equals sign may come between. -/
  | glued (text : String)
  deriving DecidableEq, Repr

/-- What a word of the command line is. -/
inductive Word where
  | positional
  /-- Two dashes. -/
  | separator
  | flag (f : Flag) (attached : Attached)
  /-- It looks like a flag, and there is no such flag. -/
  | unknown
  deriving DecidableEq, Repr

/-- Decimal digits of any script, at least one. -/
def isDigits (cs : List Char) : Bool :=
  !cs.isEmpty && cs.all fun c => (Text.digitValue? c).isSome

/-- The word writes a negative number; a line feed may end it. -/
def isNegativeNumber (cs : List Char) : Bool :=
  match cs with
  | '-' :: rest =>
    let rest := if rest.getLast? = some '\n' then rest.dropLast else rest
    isDigits rest ||
      match Text.cutFirst '.' rest with
      | some (whole, fraction) => (whole.isEmpty || isDigits whole) && isDigits fraction
      | none => false
  | _ => false

/-- A flag that a word may be meant to be. -/
structure Candidate where
  spelling : String
  flag : Flag
  attached : Attached

/-- The part of a word before an equals sign, and what follows it. -/
def cutMark (word : List Char) : List Char × Attached :=
  match Text.cutFirst '=' word with
  | some (name, value) => (name, .marked (String.ofList value))
  | none => (word, .nothing)

/-- The flags that a word with two dashes may be meant to be: those that start with it. -/
def longCandidates (table : List (String × Flag)) (word : List Char) : List Candidate :=
  let (name, attached) := cutMark word
  (table.filter fun e => name.isPrefixOf e.1.toList).map fun e => ⟨e.1, e.2, attached⟩

/-- The flags that a word with one dash may be meant to be: a short flag with a value glued to it,
or one that starts with the word. -/
def shortCandidates (table : List (String × Flag)) (word : List Char) : List Candidate :=
  table.filterMap fun e =>
    if e.1.toList = word.take 2 then
      some ⟨e.1, e.2, .glued (String.ofList (word.drop 2))⟩
    else if word.isPrefixOf e.1.toList then some ⟨e.1, e.2, .nothing⟩
    else none

/-- The flags that a word may be meant to be, if it is not a flag as written. -/
def candidates (table : List (String × Flag)) (word : List Char) : List Candidate :=
  if "--".toList.isPrefixOf word then longCandidates table word else shortCandidates table word

/-- What an equals sign attaches to a flag of some spelling. -/
def attach (name : List Char) : Attached → Attached
  | .marked text => if "--".toList.isPrefixOf name then .marked text else .glued text
  | a => a

/-- The flag that a word is as written, up to an equals sign. -/
def exactFlag? (table : List (String × Flag)) (word : List Char) : Option Word :=
  match table.lookup (String.ofList word) with
  | some f => some (.flag f .nothing)
  | none =>
    let (name, attached) := cutMark word
    (table.lookup (String.ofList name)).map fun f => .flag f (attach name attached)

end Timebox.CommandLine
