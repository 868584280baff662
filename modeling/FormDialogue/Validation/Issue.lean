import FormDialogue.Text.Join

/-! # Issues of data

What is wrong with a piece of data, where it is, and how that is reported. An issue has a message
and a short tag; a report names what was to be built and lists the issues, one on a line. -/

namespace FormDialogue.Validation

inductive Fault
  | missing
  | text
  | flag
  | flagText
  | int
  | intText
  | intFraction
  | intSize
  | notFinite
  | atLeast (bound : Int)
  | number
  | numberText
  | member (names : List String)
  | list
  | tuple
  | path
  | model (name : String)
  | value (name : String)
  | frozen
  | noAttribute (name : String)
  | rejected (why : String)
  deriving DecidableEq, Repr

namespace Fault

def message : Fault → String
  | missing => "Field required"
  | text => "Input should be a valid string"
  | flag => "Input should be a valid boolean"
  | flagText => "Input should be a valid boolean, unable to interpret input"
  | int => "Input should be a valid integer"
  | intText => "Input should be a valid integer, unable to parse string as an integer"
  | intFraction => "Input should be a valid integer, got a number with a fractional part"
  | intSize => "Unable to parse input string as an integer, exceeded maximum size"
  | notFinite => "Input should be a finite number"
  | atLeast bound => "Input should be greater than or equal to " ++ toString bound
  | number => "Input should be a valid number"
  | numberText => "Input should be a valid number, unable to parse string as a number"
  | member names => "Input should be " ++ Text.alternatives names
  | list => "Input should be a valid list"
  | tuple => "Input should be a valid tuple"
  | path => "Input is not a valid path for <class 'pathlib.Path'>"
  | model name => "Input should be a valid dictionary or instance of " ++ name
  | value name => "Input should be a dictionary or an instance of " ++ name
  | frozen => "Instance is frozen"
  | noAttribute name => "Object has no attribute '" ++ name ++ "'"
  | rejected why => "Value error, " ++ why

def tag : Fault → String
  | missing => "missing"
  | text => "string_type"
  | flag => "bool_type"
  | flagText => "bool_parsing"
  | int => "int_type"
  | intText => "int_parsing"
  | intFraction => "int_from_float"
  | intSize => "int_parsing_size"
  | notFinite => "finite_number"
  | atLeast _ => "greater_than_equal"
  | number => "float_type"
  | numberText => "float_parsing"
  | member _ => "enum"
  | list => "list_type"
  | tuple => "tuple_type"
  | path => "path_type"
  | model _ => "model_type"
  | value _ => "dataclass_type"
  | frozen => "frozen_instance"
  | noAttribute _ => "no_such_attribute"
  | rejected _ => "value_error"

end Fault

/-- A fault at a place, which is a path of names and positions from the outside in. -/
structure Issue where
  place : List String
  fault : Fault
  deriving DecidableEq, Repr

def Issue.within (name : String) (i : Issue) : Issue := { i with place := name :: i.place }

def Issue.line (i : Issue) : String :=
  ".".intercalate i.place ++ ": " ++ i.fault.message ++ " [" ++ i.fault.tag ++ "]"

structure Report where
  model : String
  issues : List Issue
  deriving DecidableEq, Repr

def Report.message (r : Report) : String :=
  "\n".intercalate (r.model :: r.issues.map Issue.line)

end FormDialogue.Validation
