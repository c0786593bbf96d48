/-!
# Issues of a record

What can be wrong with a record of fields that is to become a value of the domain: a field is
missing, or what it holds is not of the kind that the field asks for. An issue says where, as a
path of field names and list indices, and what.

Paths are built from the inside. An issue of a value has an empty path, and each record or list
around the value puts a step in front of it.
-/

namespace ErDiagram.Record

/-- One step on the way to a part of a record. The two kinds of steps are told apart because a
field may have the name of a number. -/
inductive Step where
  | field (name : String)
  | index (i : Nat)
deriving Repr, DecidableEq

/-- What is wrong with a part of a record. -/
inductive Fault where
  | missing
  | stringType
  | stringUnicode
  | boolParsing
  | boolType
  | intParsing
  | intParsingSize
  | intType
  | intFromFloat
  | floatParsing
  | floatType
  | finiteNumber
  | listType
  | recordType
  | pathType
  | choice
  | rejected
deriving Repr, DecidableEq

/-- The code that answers use for a fault. -/
def Fault.code : Fault → String
  | missing => "missing"
  | stringType => "string_type"
  | stringUnicode => "string_unicode"
  | boolParsing => "bool_parsing"
  | boolType => "bool_type"
  | intParsing => "int_parsing"
  | intParsingSize => "int_parsing_size"
  | intType => "int_type"
  | intFromFloat => "int_from_float"
  | floatParsing => "float_parsing"
  | floatType => "float_type"
  | finiteNumber => "finite_number"
  | listType => "list_type"
  | recordType => "model_type"
  | pathType => "path_type"
  | choice => "enum"
  | rejected => "value_error"

/-- **An issue**: a part of a record and what is wrong with it. It does not hold the value that is
wrong, and it has no wording; a code is all that is answered of the fault. -/
structure Issue where
  /-- The way to the part. -/
  path : List Step
  /-- What is wrong with it. -/
  fault : Fault
deriving Repr, DecidableEq

/-- The same issue, one step further out. -/
def Issue.under (s : Step) (i : Issue) : Issue := { i with path := s :: i.path }

end ErDiagram.Record
