import Std.Time.Format
import Timebox.CommandLine.Manual
import Timebox.CommandLine.Report

/-!
# The program

The words of the command line are read as a request. A run is worked out on a clock without jumps;
the program then waits as long as the run takes, and prints its lines. The exit code is 2 for a
misuse of the command line and 1 for a run that failed or could not start.
-/

namespace Timebox.CommandLine

/-- The present time in UTC, to the microsecond. -/
def presentStamp : IO String := do
  let now ← Std.Time.Timestamp.now
  return (Std.Time.DateTime.ofTimestampWithZone now Std.Time.TimeZone.UTC).format
    "uuuu-MM-dd'T'HH:mm:ss.SSSSSSxxx"

/-- The text of a file, or why it has none. -/
def textOfFile (path : String) : IO (Except FileFault String) := do
  match ← (IO.FS.readBinFile path).toBaseIO with
  | .ok bytes =>
    match String.fromUTF8? bytes with
    | some text => return .ok text
    | none => return .error .undecodable
  | .error (.inappropriateType ..) => return .error .directory
  | .error _ => return .error .missing

/-- The texts of the files that an invocation names. -/
def filesOf (i : Invocation) : IO Files := do
  let paths := i.scenario :: i.profile.toList
  let texts ← paths.mapM fun path => return (path, ← textOfFile path)
  return fun path => (texts.lookup path).getD (.error .missing)

/-- The environment, as far as the files of an invocation name its variables. -/
def environmentOf (i : Invocation) (files : Files) : IO Bindings := do
  let names := (i.scenario :: i.profile.toList).flatMap fun path =>
    match files path with
    | .ok text => Loading.variablesOf Markup.reader text
    | .error _ => []
  let pairs ← names.filterMapM fun name => do
    return (← IO.getEnv name).map fun text => (name, text)
  return .ofPairs pairs

/-- Run an invocation in real time. -/
def perform (i : Invocation) : IO UInt32 := do
  let files ← filesOf i
  let env ← environmentOf i files
  match i.run .builtIn .steady (← presentStamp) files env with
  | .error e =>
    IO.eprintln e.message
    return 1
  | .ok report =>
    IO.sleep report.session.now.toUInt32
    for line in report.lines do
      IO.println line
    return report.exitCode.toUInt32

/-- Carry out what the words of the command line ask for. -/
def obey (words : List String) : IO UInt32 := do
  match Request.ofWords words with
  | .error e =>
    IO.eprintln usage
    IO.eprintln ("error: " ++ e.message)
    return 2
  | .ok .help =>
    for line in manual do
      IO.println line
    return 0
  | .ok (.run i) => perform i

end Timebox.CommandLine

/-- The program. -/
def main (words : List String) : IO UInt32 :=
  Timebox.CommandLine.obey words
