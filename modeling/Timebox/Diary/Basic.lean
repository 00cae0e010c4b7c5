import Timebox.Diary.Filling
import Timebox.Diary.Narrative
import Timebox.Text.Lines

/-!
# The diary

A diary takes records of several levels and writes those from its own level up: all of them to its
stream, and those of the narrative to a file as well, if it has one. A diary that was set up before
is left as it is.
-/

namespace Timebox

/-- A record. -/
structure Diary.Record where
  name : String
  level : Int
  message : String
  arguments : List Value := []
  /-- The mark that puts it into the narrative, if it counts as true. -/
  mark : Option Value := none

/-- Where records go. -/
inductive Diary.Handler where
  | stream
  /-- A file for the narrative. -/
  | narrative (path : String)
  /-- Records are dropped. -/
  | discard
  deriving DecidableEq, Repr

/-- A diary. -/
structure Diary where
  /-- The lowest level of records that are written. -/
  level : Int := Diary.warningLevel
  handlers : List Diary.Handler := []
  deriving DecidableEq, Repr

namespace Diary

/-- The level of plain information. -/
def infoLevel : Int := 20

/-- The word of a level. -/
def levelWord (n : Int) : String :=
  if n = 0 then "NOTSET"
  else if n = 10 then "DEBUG"
  else if n = 20 then "INFO"
  else if n = 30 then "WARNING"
  else if n = 40 then "ERROR"
  else if n = 50 then "CRITICAL"
  else "Level " ++ toString n

/-- Set a diary up, unless it has handlers already. Only the first path is used, if it is not
empty. -/
def configure (d : Diary) (level : Int) (paths : List String) : Diary :=
  if d.handlers.isEmpty then
    let narrative := match paths with
      | path :: _ => if path.isEmpty then [] else [Handler.narrative path]
      | [] => []
    { level := level, handlers := .stream :: narrative }
  else d

/-- The diary writes the record. -/
def takes (d : Diary) (r : Record) : Bool :=
  0 < r.level && d.level ≤ r.level

namespace Record

/-- The message with its arguments; without arguments it is taken as it is. A template that cannot
be filled gives no text. -/
def text (r : Record) : Option String :=
  if r.arguments.isEmpty then some r.message else fillTemplate r.message r.arguments

/-- The name under which a record is written; a record without one belongs to the root. -/
def writtenName (r : Record) : String :=
  if r.name.isEmpty then "root" else r.name

/-- The record as lines, without its time stamp. -/
def lines (r : Record) : List String :=
  match r.text with
  | some text =>
    Text.lines ("[" ++ levelWord r.level ++ "] " ++ r.writtenName ++ ": " ++ text ++ "\n")
  | none => []

/-- The record belongs to the narrative. -/
def isNarrative (r : Record) : Bool :=
  Diary.isNarrative r.writtenName r.level r.mark

end Record

/-- The records that a handler takes. -/
def taken (d : Diary) (h : Handler) (rs : List Record) : List Record :=
  let rs := rs.filter d.takes
  match h with
  | .stream => rs
  | .narrative _ => rs.filter Record.isNarrative
  | .discard => []

/-- The lines that a handler writes. -/
def written (d : Diary) (h : Handler) (rs : List Record) : List String :=
  (d.taken h rs).flatMap Record.lines

/-- The path of a narrative file with its current and parent directories followed, part by part,
last to first. -/
def follow (done : List String) : List String → List String
  | [] => done
  | part :: parts =>
    if part = "" || part = "." then follow done parts
    else if part = ".." then follow done.tail parts
    else follow (part :: done) parts

/-- Where a narrative file is in the end; no part is left if the path names a directory. -/
def location (path : String) : List String :=
  (follow [] (path.splitOn "/")).reverse

end Diary

end Timebox
