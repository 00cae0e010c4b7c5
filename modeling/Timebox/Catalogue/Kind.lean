import Timebox.Text.Cut

/-!
# Kinds

An identifier can lead to a module, a class or a value, and each of them has attributes in turn.
What a value has follows from its kind. A kind extends others, and it is itself something that an
identifier can lead to: a class, which is a value of the kind of classes.

A class has the members that it or a kind that it extends defines, and after those the members of
all values of the kind of classes. A value has the members that its kind and those that this extends
show on values. A function among the members of a class is bound to the value on which it shows.
-/

namespace Timebox.Catalogue

/-- What an identifier can lead to. -/
inductive Item where
  | module (path : String)
  | class (kind : String)
  | value (kind : String)
  /-- A value of a kind of functions that belongs to another item. -/
  | bound (kind : String) (owner : Item)
  /-- A value of a kind that stands for a class. -/
  | standIn (kind target : String)
  deriving DecidableEq, Repr

/-- Names with the item that each of them stands for. -/
abbrev Members := List (Item × List String)

/-- What comes after the last period. -/
def lastPart (name : String) : String :=
  ((Text.splitAt '.' name).getLast?).getD name

/-- The words of some lines. -/
def words (lines : List String) : List String :=
  lines.flatMap (Text.splitAt ' ')

/-- A kind of values. -/
structure Kind where
  /-- The name by which items refer to it. -/
  key : String
  /-- How messages about the class call it. -/
  name : String := lastPart key
  /-- How messages about its values call it. -/
  valueName : String := name
  /-- The kinds that it extends, nearest first. -/
  ancestors : List String := ["object"]
  /-- The kind of the class. -/
  family : String := "type"
  /-- What the class lacks is reported by its bare name. -/
  terse : Bool := false
  /-- What the class has. -/
  onClass : Members := []
  /-- What its values have that does not follow from what the class has. -/
  onValue : Members := []
  deriving Repr

/-- The item that a name stands for. -/
def Members.item? (ms : Members) (name : String) : Option Item :=
  (ms.find? fun m => m.2.contains name).map Prod.fst

namespace Kind

/-- The kind of a key. A kind that is not listed is known by its name alone. -/
def ofKey (kinds : List Kind) (key : String) : Kind :=
  (kinds.find? fun k => k.key == key).getD { key }

/-- A kind and those that it extends. -/
def lineage (kinds : List Kind) (key : String) : List Kind :=
  let k := ofKey kinds key
  k :: k.ancestors.map (ofKey kinds)

/-- A member that a class or a kind that it extends defines. -/
def classMember? (kinds : List Kind) (key name : String) : Option Item :=
  (lineage kinds key).findSome? fun k => k.onClass.item? name

end Kind

namespace Item

/-- How a member of a class shows on the class: functions for the class are bound to it. -/
def onClass (key : String) : Item → Item
  | value "method" => bound "method" (.class key)
  | value "builtin_function_or_method" => bound "builtin_function_or_method" (.class key)
  | i => i

/-- How a member of a class shows on one of its values: functions for values are bound to it. -/
def onValue (key : String) (owner : Item) : Item → Item
  | value "function" => bound "method" owner
  | value "method_descriptor" => bound "builtin_function_or_method" owner
  | value "wrapper_descriptor" => bound "method-wrapper" owner
  | i => i.onClass key

/-- A member that a value of a kind has. -/
def member? (kinds : List Kind) (owner : Item) (key name : String) : Option Item :=
  (Kind.lineage kinds key).findSome? fun k =>
    (k.onValue.item? name).or ((k.onClass.item? name).map (onValue key owner))

/-- The class that a class extends first; the first of all extends nothing. -/
def baseOf (kinds : List Kind) (key : String) : Item :=
  match (Kind.ofKey kinds key).ancestors with
  | a :: _ => .class a
  | [] => value "NoneType"

/-- An attribute of a class. -/
def ofClass? (kinds : List Kind) (key name : String) : Option Item :=
  let family := (Kind.ofKey kinds key).family
  if name = "__class__" then some (.class family)
  else if name = "__base__" then some (baseOf kinds key)
  else ((Kind.classMember? kinds key name).map (onClass key)).or
    (member? kinds (.class key) family name)

/-- The name is special: double lines enclose it. -/
def isSpecial (name : String) : Bool :=
  "__".isPrefixOf name && "__".toList.isSuffixOf name.toList

/-- An attribute of an item. Modules have those of their kind, and their own are not told here. -/
def attribute? (kinds : List Kind) (i : Item) (name : String) : Option Item :=
  match i with
  | module _ => if name = "__class__" then some (.class "module") else member? kinds i "module" name
  | .class key => ofClass? kinds key name
  | value key => if name = "__class__" then some (.class key) else member? kinds i key name
  | bound key owner =>
    if name = "__class__" then some (.class key)
    else if name = "__self__" then some owner
    else member? kinds i key name
  | standIn key target =>
    if name = "__class__" then some (.class key)
    else if name = "__origin__" then some (.class target)
    else (member? kinds i key name).or (if isSpecial name then none else ofClass? kinds target name)

/-- The message that a class lacks an attribute. -/
def classLacks (kinds : List Kind) (key name : String) : String :=
  let k := Kind.ofKey kinds key
  if k.terse || name = "__abstractmethods__" then name
  else "type object '" ++ k.name ++ "' has no attribute '" ++ name ++ "'"

/-- The message that a value of a kind lacks an attribute. -/
def valueLacks (kinds : List Kind) (key name : String) : String :=
  "'" ++ (Kind.ofKey kinds key).valueName ++ "' object has no attribute '" ++ name ++ "'"

/-- The message that an item lacks an attribute. -/
def lacks (kinds : List Kind) (i : Item) (name : String) : String :=
  match i with
  | module path => "module '" ++ path ++ "' has no attribute '" ++ name ++ "'"
  | .class key => classLacks kinds key name
  | value key => valueLacks kinds key name
  | bound key _ => valueLacks kinds key name
  | standIn _ target => if isSpecial name then name else classLacks kinds target name

end Item

end Timebox.Catalogue
