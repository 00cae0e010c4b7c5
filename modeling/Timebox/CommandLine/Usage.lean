import Timebox.CommandLine.Flag
import Timebox.CommandLine.Setting

/-!
# Misuse of the command line

What can be wrong with a command line, and how it is reported.
-/

namespace Timebox.CommandLine

/-- What is wrong with a command line. -/
inductive UsageError where
  /-- Required words are not there. -/
  | missing (names : List String)
  /-- The first word is no command. -/
  | noSuchCommand (word : String)
  | unrecognized (words : List String)
  /-- A shortened flag may be any of several. -/
  | ambiguous (word : String) (spellings : List String)
  | valueExpected (f : Flag)
  /-- A switch has a value attached. -/
  | valueIgnored (f : Flag) (text : String)
  | notAnInteger (f : Flag) (text : String)
  | badSetting (f : Flag) (e : SettingError)
  deriving DecidableEq, Repr

namespace UsageError

/-- A message about a flag. -/
def about (f : Flag) (message : String) : String :=
  "argument " ++ f.label ++ ": " ++ message

/-- The text of the error. -/
def message : UsageError → String
  | missing names => "the following arguments are required: " ++ ", ".intercalate names
  | noSuchCommand word =>
    "argument command: invalid choice: " ++ Text.quoted word ++ " (choose from 'run')"
  | unrecognized words => "unrecognized arguments: " ++ " ".intercalate words
  | ambiguous word spellings =>
    "ambiguous option: " ++ word ++ " could match " ++ ", ".intercalate spellings
  | valueExpected f => about f "expected one argument"
  | valueIgnored f text => about f ("ignored explicit argument " ++ Text.quoted text)
  | notAnInteger f text => about f ("invalid int value: " ++ Text.quoted text)
  | badSetting f e => about f e.message

end UsageError

end Timebox.CommandLine
