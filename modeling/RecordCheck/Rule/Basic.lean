import RecordCheck.Rule.ErrorId
import RecordCheck.Rule.Message

/-!
Rules: a predicate on a value, the arguments of a directive and the whole record, together with what
is reported when the predicate is false. A predicate may fail instead of answering.
-/

namespace RecordCheck

/-- Why a rule gave no answer. What a registered predicate fails with by itself is `raised`. -/
inductive RuleError
  | unknownRule (name : String)
  | numberNeeded (rule : String) (position : Nat)
  | fieldNeeded (rule : String)
  | tooLarge
  | integer (fault : Whole.Fault)
  | raised (kind message : String)
deriving DecidableEq

namespace RuleError

def message : RuleError → String
  | unknownRule name => "unknown validation rule " ++ Text.quoted name
  | numberNeeded rule position =>
      "rule " ++ Text.quoted rule ++ " needs a numeric argument at position " ++ toString position
  | fieldNeeded rule =>
      "rule " ++ Text.quoted rule ++ " needs the name of the field to compare with"
  | tooLarge => "the integer is too large for a floating point number"
  | integer fault => fault.message
  | raised _ message => message

end RuleError

abbrev Predicate := Value → List Argument → Value → Except RuleError Bool

/-- A named predicate and what is reported when it is false. A rule that checks missing fields is
also asked, with null as the value, about a field that is not there. -/
structure Rule where
  name : String
  predicate : Predicate
  template : String
  errorId : String
  checkMissing : Bool

inductive Outcome
  | valid
  | invalid (errorId message : String)
deriving DecidableEq

namespace Rule

/-- A rule whose identifier, if none or an empty one is given, is made from its name. -/
def make (name : String) (predicate : Predicate) (template : String) (errorId : Option String)
    (checkMissing : Bool) : Rule :=
  let chosen :=
    match errorId with
    | none => ErrorId.ofName name
    | some given => if given = "" then ErrorId.ofName name else given
  ⟨name, predicate, template, chosen, checkMissing⟩

def message (rule : Rule) (arguments : List Argument) : Except RuleError String :=
  (fillTemplate rule.template arguments).mapError .integer

def evaluate (rule : Rule) (value : Value) (arguments : List Argument) (record : Value) :
    Except RuleError Outcome :=
  (rule.predicate value arguments record).bind fun holds =>
    if holds then .ok .valid
    else (rule.message arguments).map fun message => .invalid rule.errorId message

def literal (rule : Rule) : String :=
  "Rule(" ++ Text.quoted rule.name ++ ", error_id=" ++ Text.quoted rule.errorId ++ ")"

end Rule

end RecordCheck
