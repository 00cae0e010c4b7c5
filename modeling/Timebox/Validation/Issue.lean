/-!
# Validation issues

What is wrong with a piece of data, and where: a path of field names and list positions, and the
problem found there.
-/

namespace Timebox.Validation

/-- A step of the path to a faulty piece of data. -/
inductive Place where
  | field (name : String)
  | item (position : Nat)
  deriving DecidableEq, Repr

/-- What is wrong at a place. -/
inductive Problem where
  /-- A required field is not there. -/
  | missing
  /-- A field that the description does not know. -/
  | unknownField
  | notText
  | emptyText
  /-- Not one of the words allowed. -/
  | notAChoice
  | notASequence
  | notARecord
  | notAList
  | notAMapping
  | notAnInteger
  /-- A text that writes no integer. -/
  | unreadableInteger
  /-- A text that writes an integer of too many digits. -/
  | oversizedInteger
  /-- A number with a fraction. -/
  | fractionalNumber
  | infiniteNumber
  | belowMinimum
  /-- A value that cannot be written as a text. -/
  | noText
  deriving DecidableEq, Repr

/-- The word that reports a problem. -/
def Problem.word : Problem → String
  | missing => "missing"
  | unknownField => "extra_forbidden"
  | notText => "string_type"
  | emptyText => "string_too_short"
  | notAChoice => "enum"
  | notASequence => "tuple_type"
  | notARecord => "model_type"
  | notAList => "list_type"
  | notAMapping => "dict_type"
  | notAnInteger => "int_type"
  | unreadableInteger => "int_parsing"
  | oversizedInteger => "int_parsing_size"
  | fractionalNumber => "int_from_float"
  | infiniteNumber => "finite_number"
  | belowMinimum => "greater_than_equal"
  | noText => "value_error"

/-- A problem and the path to it. -/
structure Issue where
  path : List Place
  problem : Problem
  deriving DecidableEq, Repr

/-- A step of a path as text. -/
def Place.text : Place → String
  | field name => name
  | item position => toString position

/-- The issue as text: its path with periods, and the word of its problem. -/
def Issue.text (issue : Issue) : String :=
  ".".intercalate (issue.path.map Place.text) ++ ": " ++ issue.problem.word

/-- The same issue seen from one level further out. -/
def Issue.under (place : Place) (issue : Issue) : Issue :=
  { issue with path := place :: issue.path }

end Timebox.Validation
