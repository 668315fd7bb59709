import RecordCheck.Text.Blank
import RecordCheck.Value.Kind

/-!
The types that a field can be declared to have, their names and synonyms, and which values are of
which type.
-/

namespace RecordCheck

inductive ScalarType
  | string
  | integer
  | number
  | boolean
deriving DecidableEq

inductive FieldType
  | scalar (type : ScalarType)
  | object
  | array
deriving DecidableEq

namespace ScalarType

def name : ScalarType → String
  | string => "string"
  | integer => "integer"
  | number => "number"
  | boolean => "boolean"

end ScalarType

namespace FieldType

def name : FieldType → String
  | scalar type => type.name
  | object => "object"
  | array => "array"

def isScalar : FieldType → Bool
  | scalar _ => true
  | _ => false

def ofWord? (word : String) : Option FieldType :=
  if word = "string" then some (scalar .string)
  else if word = "integer" || word = "int" then some (scalar .integer)
  else if word = "number" || word = "float" then some (scalar .number)
  else if word = "boolean" || word = "bool" then some (scalar .boolean)
  else if word = "object" then some object
  else if word = "array" then some array
  else none

/-- The type that a text names, in any case and with blanks around it. Only ASCII letters are
lowered: no other character becomes a letter of these words. -/
def ofName? (name : String) : Option FieldType :=
  ofWord? (String.ofList ((Text.trim name.toList).map Char.toLower))

def errorId : FieldType → String
  | scalar .string => "VALIDATION_ERROR_NOT_STRING"
  | scalar .integer => "VALIDATION_ERROR_NOT_INTEGER"
  | scalar .number => "VALIDATION_ERROR_NOT_NUMBER"
  | scalar .boolean => "VALIDATION_ERROR_NOT_BOOLEAN"
  | object => "VALIDATION_ERROR_NOT_OBJECT"
  | array => "VALIDATION_ERROR_NOT_ARRAY"

def errorMessage : FieldType → String
  | scalar .string => "Value is not a string"
  | scalar .integer => "Value is not an integer"
  | scalar .number => "Value is not a number"
  | scalar .boolean => "Value is not a boolean"
  | object => "Value is not an object"
  | array => "Value is not an array"

def admits (type : FieldType) (value : Value) : Bool :=
  match type with
  | scalar .string => value.isText
  | scalar .integer => value.isWholeNumber
  | scalar .number => value.isNumber
  | scalar .boolean => value.isBool
  | object => value.isMapping
  | array => value.isSequence

end FieldType

end RecordCheck
