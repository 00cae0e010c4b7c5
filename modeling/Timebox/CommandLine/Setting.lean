import Timebox.Text.Blank
import Timebox.Text.Cut
import Timebox.Text.Quoted

/-!
# Settings on the command line

An argument is set on the command line as `KEY=VALUE`. Blanks around the key do not count; the value
is everything after the first equals sign.
-/

namespace Timebox.CommandLine

/-- Why a text sets no argument. -/
inductive SettingError where
  /-- There is no equals sign. -/
  | noMark (raw : String)
  | emptyKey (raw : String)
  deriving DecidableEq, Repr

/-- The text of the error. -/
def SettingError.message : SettingError → String
  | noMark raw => "expected KEY=VALUE, got " ++ Text.quoted raw
  | emptyKey raw => "empty key in " ++ Text.quoted raw

/-- The key and value that a text sets. -/
def readSetting (raw : String) : Except SettingError (String × String) :=
  match Text.cutFirst '=' raw.toList with
  | none => .error (.noMark raw)
  | some (key, value) =>
    let key := Text.trim key
    if key.isEmpty then .error (.emptyKey raw)
    else .ok (String.ofList key, String.ofList value)

end Timebox.CommandLine
