import Timebox.Catalogue.Kind
import Timebox.Journey.Basic
import Timebox.Text.Blank
import Timebox.Text.Cut

/-!
# Catalogues of journeys

Journeys are found by identifiers in a catalogue of modules. A module has attributes, what they lead
to has attributes in turn, and a class is a journey if it can be run.

An identifier names the module and the path of attributes in it. With a colon between them the
module is as written; with periods only, the longest prefix that is a module is taken and the rest
is the path. A shorter prefix is not tried when the path leads nowhere.
-/

namespace Timebox

/-- A module with its attributes. -/
structure ModuleEntry where
  path : String
  /-- It may contain further modules. -/
  isPackage : Bool := false
  attributes : Catalogue.Members := []
  deriving Repr

/-- The modules that can be opened, the kinds of what they hold, and what the classes run that can
be run. -/
structure Catalogue where
  modules : List ModuleEntry
  kinds : List Catalogue.Kind := []
  journeys : List (String × Journey) := []
  deriving Repr

/-- Why a module cannot be opened. -/
inductive OpenError where
  | absent (message : String)
  | emptyName
  /-- The name starts with a period and there is nothing that it could be relative to. -/
  | relativeName
  deriving DecidableEq, Repr

/-- Why an identifier names no journey. -/
inductive ResolveError where
  | emptyIdentifier
  /-- The search ended with a message. -/
  | notFound (identifier message : String)
  | notAClass (identifier : String)
  | notRunnable (identifier : String)
  | relativeModule
  deriving DecidableEq, Repr

/-- The fault that reports the error. -/
def ResolveError.fault : ResolveError → Fault
  | emptyIdentifier => .coded .initialization (some "empty journey identifier") none
  | notFound id message => .coded .initialization (some (id ++ " (" ++ message ++ ")")) none
  | notAClass id => .coded .initialization (some (id ++ " is not a class")) none
  | notRunnable id => .coded .initialization (some (id ++ " has no run() method")) none
  | relativeModule => .general .badType none

namespace Catalogue

/-- Modules inside a package. -/
def submodules (path : String) (names : List String) : Members :=
  names.map fun n => (.module (path ++ "." ++ n), [n])

/-- Classes that a module defines. -/
def classesOf (path : String) (names : List String) : Members :=
  names.map fun n => (.class (path ++ "." ++ n), [n])

/-- Classes whose keys are their names. -/
def namesakes (names : List String) : Members :=
  names.map fun n => (.class n, [n])

/-- The module of a path. -/
def module? (cat : Catalogue) (path : String) : Option ModuleEntry :=
  cat.modules.find? fun m => m.path == path

/-- The first parts of a dotted name. -/
def dotted (parts : List String) : String :=
  Text.joinTexts '.' parts

/-- The message for a name that is no module: it names the first level that is missing, and the
level above it if that is a module without modules in it. -/
def absentMessage (cat : Catalogue) (parts : List String) : Nat → Nat → String
  | 0, _ => "No module named " ++ Text.quoted (dotted parts)
  | fuel + 1, k =>
    let path := dotted (parts.take k)
    match cat.module? path with
    | some _ => absentMessage cat parts fuel (k + 1)
    | none =>
      let parent := dotted (parts.take (k - 1))
      let missing := "No module named " ++ Text.quoted path
      match cat.module? parent with
      | some m =>
        if m.isPackage || k ≤ 1 then missing
        else missing ++ "; " ++ Text.quoted parent ++ " is not a package"
      | none => missing

/-- Open a module by name. -/
def openModule (cat : Catalogue) (name : String) : Except OpenError ModuleEntry :=
  if name.isEmpty then .error .emptyName
  else if name.front = '.' then .error .relativeName
  else match cat.module? name with
    | some m => .ok m
    | none =>
      let parts := Text.splitAt '.' name
      .error (.absent (cat.absentMessage parts parts.length 1))

/-- An attribute of an item. A module has its own attributes before those of its kind, and a package
has some more. -/
def attribute? (cat : Catalogue) (i : Item) (name : String) : Option Item :=
  match i with
  | .module path =>
    match cat.module? path with
    | some m =>
      (m.attributes.item? name).or
        ((i.attribute? cat.kinds name).or
          (if m.isPackage then Item.member? cat.kinds i "package" name else none))
    | none => i.attribute? cat.kinds name
  | i => i.attribute? cat.kinds name

/-- Follow a path of attributes. -/
def follow (cat : Catalogue) (item : Item) : List String → Except String Item
  | [] => .ok item
  | name :: rest =>
    match cat.attribute? item name with
    | none => .error (item.lacks cat.kinds name)
    | some next => follow cat next rest

/-- Follow a path of attributes and report a failure for an identifier. -/
def followFor (cat : Catalogue) (id : String) (m : ModuleEntry) (path : List String) :
    Except ResolveError Item :=
  match cat.follow (.module m.path) path with
  | .ok item => .ok item
  | .error message => .error (.notFound id message)

/-- Search the longest prefix of at most `k` parts that is a module. -/
def searchPrefix (cat : Catalogue) (id : String) (parts : List String) :
    Nat → Except ResolveError Item
  | 0 => .error (.notFound id ("no importable module in " ++ Text.quoted id))
  | k + 1 =>
    match cat.openModule (dotted (parts.take (k + 1))) with
    | .ok m => cat.followFor id m (parts.drop (k + 1))
    | .error (.absent _) => searchPrefix cat id parts k
    | .error .emptyName => .error (.notFound id "Empty module name")
    | .error .relativeName => .error .relativeModule

/-- What an identifier names. -/
def locate (cat : Catalogue) (id : String) : Except ResolveError Item :=
  match Text.cutFirst ':' id.toList with
  | some (name, path) =>
    match cat.openModule (String.ofList name) with
    | .ok m => cat.followFor id m (Text.splitAt '.' (String.ofList path))
    | .error (.absent message) => .error (.notFound id message)
    | .error .emptyName => .error (.notFound id "Empty module name")
    | .error .relativeName => .error .relativeModule
  | none =>
    let parts := Text.splitAt '.' id
    cat.searchPrefix id parts (parts.length - 1)

/-- The journey that an identifier names; blanks around it do not count. -/
def resolve (cat : Catalogue) (identifier : String) : Except ResolveError Journey :=
  let id := Text.strip identifier
  if id.isEmpty then .error .emptyIdentifier
  else match cat.locate id with
    | .error e => .error e
    | .ok (.class key) =>
      match cat.journeys.lookup key with
      | some j => .ok j
      | none => .error (.notRunnable id)
    | .ok _ => .error (.notAClass id)

end Catalogue

/-- What a run is asked to run. -/
inductive Target where
  /-- A value that identifies a journey by its display. -/
  | identifier (v : Value)
  | blueprint (b : Blueprint)
  deriving Repr

/-- The text of an identifying value; a value that does not count as true identifies nothing. -/
def identifierText (v : Value) : String :=
  if v.isEmptyish then "" else v.display

/-- The journey of a target. -/
def Target.resolve (cat : Catalogue) : Target → Except ResolveError Journey
  | identifier v => cat.resolve (identifierText v)
  | blueprint b =>
    match b.toJourney? with
    | some j => .ok j
    | none => .error (.notRunnable b.name)

end Timebox
