import Codegen.Value.Basic

/-! Faults that a schema finds in a document, each with the place where it stands. -/

namespace Codegen

inductive DocumentStep
  | field (name : String)
  | item (index : Nat)
  deriving Repr, DecidableEq

inductive SchemaFault
  | notText
  | notUnicode
  | notPath
  | notList
  | notRecord (expected : String)
  | required
  | notVisibility
  | notBoolean
  | unreadableBoolean
  | notInteger
  | unreadableInteger
  | integerTooLong
  | notFinite
  | fraction
  | notPositive
  deriving Repr, DecidableEq

structure SchemaProblem where
  location : List DocumentStep
  fault : SchemaFault
  input : Value

instance : Inhabited SchemaProblem := ⟨⟨[], .required, .null⟩⟩

namespace SchemaFault

def code : SchemaFault → String
  | notText => "string_type"
  | notUnicode => "string_unicode"
  | notPath => "path_type"
  | notList => "list_type"
  | notRecord _ => "model_type"
  | required => "missing"
  | notVisibility => "literal_error"
  | notBoolean => "bool_type"
  | unreadableBoolean => "bool_parsing"
  | notInteger => "int_type"
  | unreadableInteger => "int_parsing"
  | integerTooLong => "int_parsing_size"
  | notFinite => "finite_number"
  | fraction => "int_from_float"
  | notPositive => "greater_than"

def message : SchemaFault → String
  | notText => "Input should be a valid string"
  | notUnicode => "Input should be a valid string, unable to parse raw data as a unicode string"
  | notPath => "Input is not a valid path for <class 'pathlib.Path'>"
  | notList => "Input should be a valid list"
  | notRecord expected => "Input should be a valid dictionary or instance of " ++ expected
  | required => "Field required"
  | notVisibility => "Input should be 'public', 'protected', 'private' or 'package'"
  | notBoolean => "Input should be a valid boolean"
  | unreadableBoolean => "Input should be a valid boolean, unable to interpret input"
  | notInteger => "Input should be a valid integer"
  | unreadableInteger => "Input should be a valid integer, unable to parse string as an integer"
  | integerTooLong => "Unable to parse input string as an integer, exceeded maximum size"
  | notFinite => "Input should be a finite number"
  | fraction => "Input should be a valid integer, got a number with a fractional part"
  | notPositive => "Input should be greater than 0"

end SchemaFault

namespace DocumentStep

def text : DocumentStep → String
  | field name => name
  | item index => toString index

end DocumentStep

namespace SchemaProblem

/-- The problem as seen from a document that holds this one under `step`. -/
def under (step : DocumentStep) (p : SchemaProblem) : SchemaProblem :=
  { p with location := step :: p.location }

def text (p : SchemaProblem) : String :=
  Text.join "." (p.location.map DocumentStep.text) ++ ": " ++ p.fault.message

end SchemaProblem

end Codegen
