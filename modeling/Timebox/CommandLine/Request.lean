import Timebox.CommandLine.Usage
import Timebox.Text.Integer

/-!
# Requests on the command line

A command line asks for help, or to run a scenario. All words are classified before any of them
takes effect, so an ambiguous flag is reported first. Then the words take effect from left to right,
the last value of a flag counts, and what is missing or was not recognized is reported at the end.
-/

namespace Timebox.CommandLine

/-- How a scenario is to be run. -/
structure Invocation where
  /-- The path of the scenario. -/
  scenario : String
  window : Int
  hasNext : Bool := false
  /-- The path of the profile. -/
  profile : Option String := none
  journey : Option String := none
  arguments : List (String × String) := []
  exclude : List String := []
  teardownWindow : Option Int := none
  console : Bool := false
  logPath : Option String := none
  verbose : Bool := false
  deriving DecidableEq, Repr

/-- What a command line asks for. -/
inductive Request where
  | help
  | run (i : Invocation)
  deriving DecidableEq, Repr

/-! ### Words -/

/-- What a word is, when the flags of a table are known. -/
def classify (table : List (String × Flag)) (raw : String) : Except UsageError Word :=
  let word := raw.toList
  if word.head? ≠ some '-' then .ok .positional
  else if word.length = 1 then .ok .positional
  else match exactFlag? table word with
    | some w => .ok w
    | none =>
      match candidates table word with
      | [c] => .ok (.flag c.flag c.attached)
      | [] => .ok (if isNegativeNumber word || word.contains ' ' then .positional else .unknown)
      | cs => .error (.ambiguous raw (cs.map Candidate.spelling))

/-- Classify all words. -/
def classifyAll (table : List (String × Flag)) :
    List String → Except UsageError (List (String × Word))
  | [] => .ok []
  | raw :: rest =>
    if raw = "--" then .ok ((raw, .separator) :: rest.map fun r => (r, .positional))
    else match classify table raw with
      | .error e => .error e
      | .ok w => (classifyAll table rest).map fun ws => (raw, w) :: ws

/-! ### Effects -/

/-- What has been said so far. -/
structure Draft where
  scenario : Option String := none
  window : Option Int := none
  hasNext : Bool := false
  profile : Option String := none
  journey : Option String := none
  arguments : List (String × String) := []
  exclude : List String := []
  teardownWindow : Option Int := none
  console : Bool := false
  logPath : Option String := none
  verbose : Bool := false
  /-- Words that were not recognized. -/
  extras : List String := []

namespace Draft

/-- An integer value of a flag. -/
def integerFor (f : Flag) (text : String) : Except UsageError Int :=
  match Text.readSpacedInteger text with
  | some n => .ok n
  | none => .error (.notAnInteger f text)

/-- Take a value for a flag. -/
def put (d : Draft) (f : Flag) (text : String) : Except UsageError Draft :=
  match f with
  | .scenario => .ok { d with scenario := some text }
  | .window => (integerFor f text).map fun n => { d with window := some n }
  | .profile => .ok { d with profile := some text }
  | .journey => .ok { d with journey := some text }
  | .argument =>
    match readSetting text with
    | .ok p => .ok { d with arguments := d.arguments ++ [p] }
    | .error e => .error (.badSetting f e)
  | .exclude => .ok { d with exclude := d.exclude ++ [text] }
  | .teardownWindow => (integerFor f text).map fun n => { d with teardownWindow := some n }
  | .logPath => .ok { d with logPath := some text }
  | _ => .ok d

/-- Turn a switch on. -/
def turnOn (d : Draft) : Flag → Draft
  | .hasNext => { d with hasNext := true }
  | .console => { d with console := true }
  | .verbose => { d with verbose := true }
  | _ => d

/-- Note a word that was not recognized. -/
def extra (d : Draft) (raw : String) : Draft :=
  { d with extras := d.extras ++ [raw] }

/-- The names of required flags that were not given. -/
def missing (d : Draft) : List String :=
  (if d.scenario.isNone then [Flag.scenario.label] else []) ++
    if d.window.isNone then [Flag.window.label] else []

/-- The finished request. -/
def finish (d : Draft) : Except UsageError Request :=
  match d.scenario, d.window with
  | some scenario, some window =>
    if d.extras.isEmpty then
      .ok (.run {
        scenario, window, hasNext := d.hasNext, profile := d.profile, journey := d.journey
        arguments := d.arguments, exclude := d.exclude, teardownWindow := d.teardownWindow
        console := d.console, logPath := d.logPath, verbose := d.verbose })
    else .error (.unrecognized d.extras)
  | _, _ => .error (.missing d.missing)

end Draft

/-- What is attached to the short flag for help may only be the same letter again. -/
def gluedHelp : List Char → Except UsageError Request
  | ['h'] => .ok .help
  | 'h' :: rest => gluedHelp rest
  | rest => .error (.valueIgnored .help (String.ofList rest))

/-- Help is asked for. -/
def askHelp : Attached → Except UsageError Request
  | .nothing => .ok .help
  | .marked text => .error (.valueIgnored .help text)
  | .glued text => gluedHelp text.toList

/-- A switch with nothing attached. -/
def readSwitch (d : Draft) (f : Flag) : Attached → Except UsageError Draft
  | .nothing => .ok (d.turnOn f)
  | .marked text => .error (.valueIgnored f text)
  | .glued text => .error (.valueIgnored f text)

/-- The value of a flag, attached or in the next word, and the words after it. -/
def takeValue (f : Flag) (attached : Attached) (rest : List (String × Word)) :
    Except UsageError (String × List (String × Word)) :=
  match attached, rest with
  | .marked text, _ => .ok (text, rest)
  | .glued text, _ => .ok (text, rest)
  | .nothing, (text, .positional) :: rest => .ok (text, rest)
  | .nothing, _ => .error (.valueExpected f)

/-- Taking a value leaves no more words than there were. -/
theorem length_le_of_takeValue {f : Flag} {a : Attached} {rest rest' : List (String × Word)}
    {text : String} (h : takeValue f a rest = .ok (text, rest')) : rest'.length ≤ rest.length := by
  unfold takeValue at h
  split at h <;> simp_all

/-- Let the words of the command take effect. -/
def readWords (d : Draft) : List (String × Word) → Except UsageError Request
  | [] => d.finish
  | (raw, w) :: rest =>
    match w with
    | .flag f attached =>
      if f = .help then askHelp attached
      else if f.takesValue then
        match _h : takeValue f attached rest with
        | .error e => .error e
        | .ok (text, rest') =>
          match d.put f text with
          | .error e => .error e
          | .ok d => readWords d rest'
      else match readSwitch d f attached with
        | .error e => .error e
        | .ok d => readWords d rest
    | _ => readWords (d.extra raw) rest
termination_by ws => ws.length
decreasing_by
  · have := length_le_of_takeValue _h
    simp only [List.length_cons]
    omega
  · simp
  · simp

/-- The command with the words after it, when some words before it were not recognized. -/
def readCommand (extras : List String) (command : String) (rest : List String) :
    Except UsageError Request :=
  if command = "run" then
    match classifyAll (Flag.table Flag.ofRun) rest with
    | .error e => .error e
    | .ok words => readWords { extras } words
  else .error (.noSuchCommand command)

/-- Look for the command. -/
def findCommand (extras : List String) : List (String × Word) → Except UsageError Request
  | [] => .error (.missing ["command"])
  | (raw, w) :: rest =>
    match w with
    | .positional => readCommand extras raw (rest.map Prod.fst)
    | .separator =>
      if rest.isEmpty then .error (.missing ["command"]) else .error (.noSuchCommand raw)
    | .flag _ attached => askHelp attached
    | .unknown => findCommand (extras ++ [raw]) rest

/-- What a command line asks for. -/
def Request.ofWords (words : List String) : Except UsageError Request :=
  match classifyAll (Flag.table Flag.beforeCommand) words with
  | .error e => .error e
  | .ok ws => findCommand [] ws

end Timebox.CommandLine
