import RecordCheck.Json.Writer
import RecordCheck.Number.Numeral
import RecordCheck.Schema.FieldType
import RecordCheck.Value.Same

/-!
Best-effort coercion of a value to a type. Only the numeric types refuse values: null and NaN become
zero, a numeric text becomes the number it writes, and other texts and containers fail. Every value
has a truth form, and a text form unless an integer in it is too long; the container types leave a
value alone.
-/

namespace RecordCheck

inductive CastError
  | refused (value : Value) (target : FieldType)
  | unreadable (text : String)
  | integer (fault : Whole.Fault)
deriving DecidableEq

namespace CastError

def message : CastError → String
  | refused value target => "cannot cast " ++ value.written ++ " to " ++ target.name
  | unreadable text => "could not convert string to float: " ++ Text.quoted text
  | integer fault => fault.message

/-- The refusal of a value names it, so the value has to be written. -/
def refusal (value : Value) (target : FieldType) : CastError :=
  if value.writable then refused value target else integer .unwritable

end CastError

namespace Value

def castText (target : FieldType) (content : String) : Except CastError Value :=
  if Numeral.isNumeric content.toList then
    match Numeral.float? content.toList with
    | none => .error (.unreadable content)
    | some number =>
        if number.isFinite then .ok (.float number) else .error (.refused (.text content) target)
  else .error (.refused (.text content) target)

def castNumber (target : FieldType) : Value → Except CastError Value
  | .null => .ok (.int 0)
  | .bool flag => .ok (.int (if flag then 1 else 0))
  | .int integer => .ok (.int integer)
  | .float number =>
      if number.isNaN then .ok (.int 0)
      else if number.isFinite then .ok (.float number)
      else .error (.refused (.float number) target)
  | .text content => castText target content
  | value => .error (.refusal value target)

def truncated : Value → Value
  | .float number =>
      match number.truncate? with
      | some integer => .int integer
      | none => .float number
  | value => value

/-- The text form of a value: containers become documents. -/
def textForm : Value → Except Whole.Fault String
  | .text content => .ok content
  | .list items => Json.write (.list items)
  | .tuple items => Json.write (.tuple items)
  | .dict entries => Json.write (.dict entries)
  | value => value.scalarText

def castString (value : Value) : Except CastError Value :=
  (value.textForm.mapError .integer).map .text

def cast (target : FieldType) (value : Value) : Except CastError Value :=
  match target with
  | .scalar .number => value.castNumber target
  | .scalar .integer => (value.castNumber target).map truncated
  | .scalar .boolean => .ok (.bool value.truthy)
  | .scalar .string => value.castString
  | .object | .array => .ok value

end Value

end RecordCheck
