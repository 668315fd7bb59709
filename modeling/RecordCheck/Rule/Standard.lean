import RecordCheck.Number.Numeral
import RecordCheck.Path
import RecordCheck.Rule.DateTime
import RecordCheck.Rule.Email
import RecordCheck.Rule.Phone
import RecordCheck.Rule.Registry
import RecordCheck.Value.Same

/-!
The ten standard rules. A rule that needs a number takes it from an argument by position: a number,
or text that writes one. A rule that compares texts fails on what cannot be written as one.
-/

namespace RecordCheck

def Value.toFloat? : Value → Except RuleError (Option Binary64)
  | .bool flag => .ok (some (Binary64.ofInt (if flag then 1 else 0)))
  | .int integer =>
      let number := Binary64.ofInt integer
      if number.isFinite then .ok (some number) else .error .tooLarge
  | .float number => .ok (some number)
  | .text content => .ok (Numeral.float? content.toList)
  | .bytes content =>
      if content.all (· < 128) then
        .ok (Numeral.float? (content.map fun byte => Char.ofNat byte.toNat))
      else .ok none
  | _ => .ok none

def Value.isDateTime : Value → Bool
  | .text content => DateTime.accepts content.toList
  | _ => false

namespace Standard

def numberArgument (rule : String) (arguments : List Argument) (position : Nat) :
    Except RuleError Binary64 :=
  match (Argument.positionals arguments)[position]? with
  | none => .error (.numberNeeded rule position)
  | some value =>
      value.toFloat?.bind fun number =>
        match number with
        | some number => .ok number
        | none => .error (.numberNeeded rule position)

def email : Predicate := fun value _ _ =>
  match value with
  | .text content => .ok (Email.accepts content.toList)
  | _ => .ok false

def betweenNumber : Predicate := fun value arguments _ =>
  (numberArgument "betweenNumber" arguments 0).bind fun low =>
    (numberArgument "betweenNumber" arguments 1).map fun high =>
      match value.number? with
      | some number =>
          value.isNumber && (Number.binary low).le number && number.le (.binary high)
      | none => false

def equals : Predicate := fun value arguments record =>
  match Argument.positionals arguments with
  | [] => .error (.fieldNeeded "equals")
  | field :: _ =>
      (field.display.mapError .integer).map fun name => value.same (record.lookup name)

/-- Whether a field has the value or the scalar text that a condition expects. -/
def meets (actual : Value) (expected : String) : Except Whole.Fault Bool :=
  match actual with
  | .absent => .ok false
  | value =>
      if value.same (.text expected) then .ok true else value.scalarText.map (· == expected)

/-- Whether a record meets all conditions. The first that it does not meet is the last looked at. -/
def meetsAll (record : Value) : List (String × String) → Except Whole.Fault Bool
  | [] => .ok true
  | (field, expected) :: rest =>
      (meets (record.lookup field) expected).bind fun met =>
        if met then meetsAll record rest else .ok false

def required : Predicate := fun value arguments record =>
  ((meetsAll record (Argument.keyeds arguments)).mapError .integer).map fun met =>
    !met || !value.isEmpty

def phoneUS : Predicate := fun value _ _ =>
  match value with
  | .text content => .ok (Phone.acceptsUnitedStates content.toList)
  | _ => .ok false

def phoneGB : Predicate := fun value _ _ =>
  match value with
  | .text content => .ok (Phone.acceptsGreatBritain content.toList)
  | _ => .ok false

def oneOf : Predicate := fun value arguments _ =>
  let allowed := Argument.positionals arguments
  if allowed.any fun item => value.same item then .ok true
  else
    (value.scalarText.mapError .integer).map fun content =>
      allowed.any fun item => (Value.text content).same item

def dateTime : Predicate := fun value _ _ => .ok value.isDateTime

def minLength : Predicate := fun value arguments _ =>
  match value.length? with
  | some length =>
      (numberArgument "minLength" arguments 0).map fun least =>
        (Number.binary least).le (.whole length)
  | none => .ok false

def maxLength : Predicate := fun value arguments _ =>
  match value.length? with
  | some length =>
      (numberArgument "maxLength" arguments 0).map fun most =>
        (Number.whole length).le (.binary most)
  | none => .ok false

def rules : List Rule :=
  [.make "email" email "Value is not a valid email address" none false,
    .make "betweenNumber" betweenNumber "Value should be between \x7b0\x7d and \x7b1\x7d" none
      false,
    .make "equals" equals "Value should be equal to \x7b0\x7d" none false,
    .make "required" required "Value is required" none true,
    .make "phoneUS" phoneUS "Value is not a valid US phone number" none false,
    .make "phoneGB" phoneGB "Value is not a valid GB phone number" none false,
    .make "oneOf" oneOf "Value should be one of the allowed values" none false,
    .make "dateTime" dateTime "Value is not an ISO-8601 date-time" none false,
    .make "minLength" minLength "Value should have a length of at least \x7b0\x7d" none false,
    .make "maxLength" maxLength "Value should have a length of at most \x7b0\x7d" none false]

def registry : Registry := .ofRules rules

end Standard

end RecordCheck
