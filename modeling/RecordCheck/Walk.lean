import RecordCheck.Cast
import RecordCheck.Path
import RecordCheck.Rule.Registry
import RecordCheck.Schema.Basic

/-!
Walking a record along a schema. Each step gives the normalised value together with what was found
on the way: complaints at paths, in the order in which they arise, and the paths of fields that
nobody declared. A field that is not there is walked as the absent marker.
-/

namespace RecordCheck

structure Complaint where
  id : String
  message : String
deriving DecidableEq

structure Findings where
  complaints : List (Path × Complaint)
  orphans : List Path
deriving DecidableEq

inductive WalkError
  | rule (error : RuleError)
  | unreadable (text : String)
  | integer (fault : Whole.Fault)
deriving DecidableEq

structure Setting where
  mode : Mode
  cast : Bool
  registry : Registry
  record : Value

namespace Findings

def none : Findings := ⟨[], []⟩

def append (first second : Findings) : Findings :=
  ⟨first.complaints ++ second.complaints, first.orphans ++ second.orphans⟩

instance : Append Findings := ⟨append⟩

def complaint (path : Path) (id message : String) : Findings := ⟨[(path, ⟨id, message⟩)], []⟩

def wrongType (path : Path) (type : FieldType) : Findings :=
  complaint path type.errorId type.errorMessage

end Findings

namespace Walk

abbrev Step (value : Type) := Except WalkError (value × Findings)

/-- Asks the rules about a value in order, up to the first that is unknown or not satisfied. -/
def applyRules (setting : Setting) (value : Value) (path : Path) :
    List Directive → Except WalkError Findings
  | [] => .ok .none
  | directive :: rest =>
      if !setting.registry.contains directive.name then
        .ok (.complaint path "VALIDATION_UNKNOWN_RULE"
          ("Unknown validation rule '" ++ directive.name ++ "'"))
      else
        match setting.registry.evaluate directive.name value directive.arguments
            setting.record with
        | .error error => .error (.rule error)
        | .ok (.invalid id message) => .ok (.complaint path id message)
        | .ok .valid => applyRules setting value path rest

def applyMissingRules (setting : Setting) (path : Path) :
    List Directive → Except WalkError Findings
  | [] => .ok .none
  | directive :: rest =>
      match setting.registry.find? directive.name with
      | none => applyMissingRules setting path rest
      | some rule =>
          if !rule.checkMissing then applyMissingRules setting path rest
          else
            match rule.evaluate .null directive.arguments setting.record with
            | .error error => .error (.rule error)
            | .ok (.invalid id message) => .ok (.complaint path id message)
            | .ok .valid => applyMissingRules setting path rest

/-- The value after the cast, if the schema casts and the field is a leaf; `none` when the cast is
refused. -/
def castLeaf (setting : Setting) (type : FieldType) (value : Value) :
    Except WalkError (Option Value) :=
  if setting.cast && type.isScalar then
    match value.cast type with
    | .ok result => .ok (some result)
    | .error (.refused _ _) => .ok none
    | .error (.unreadable text) => .error (.unreadable text)
    | .error (.integer fault) => .error (.integer fault)
  else .ok (some value)

def isDeclared (members : List (String × Property)) : Key → Bool
  | .text name => (members.lookup name).isSome
  | _ => false

def undeclared (members : List (String × Property)) (entries : List (Key × Value)) :
    List (Key × Value) :=
  entries.filter fun entry => !isDeclared members entry.1

def kept (setting : Setting) (members : List (String × Property))
    (entries : List (Key × Value)) : List (Key × Value) :=
  match setting.mode with
  | .loose => undeclared members entries
  | _ => []

def pathsOf (path : Path) : List Key → Except Whole.Fault (List Path)
  | [] => .ok []
  | key :: rest =>
      key.name.bind fun name => (pathsOf path rest).map ((path ++ [.name name]) :: ·)

def forbidden (setting : Setting) (members : List (String × Property))
    (entries : List (Key × Value)) (path : Path) : Except WalkError Findings :=
  match setting.mode with
  | .strict =>
      ((pathsOf path ((undeclared members entries).map Prod.fst)).mapError .integer).map
        fun paths => ⟨[], paths⟩
  | _ => .ok .none

def fieldValue (name : String) (entries : List (Key × Value)) : Value :=
  (entries.lookup (.text name)).getD .absent

/-- A declared field in front of the others, unless it is absent. -/
def placed (name : String) (value : Value) (rest : List (Key × Value)) : List (Key × Value) :=
  match value with
  | .absent => rest
  | value => (.text name, value) :: rest

def itemsOf : Value → List Value
  | .list items | .tuple items => items
  | _ => []

def entriesOf : Value → List (Key × Value)
  | .dict entries => entries
  | _ => []

def visitItems (visitItem : Path → Value → Step Value) (path : Path) :
    Nat → List Value → Step (List Value)
  | _, [] => .ok ([], .none)
  | position, item :: rest =>
      (visitItem (path ++ [.index position]) item).bind fun (value, found) =>
        (visitItems visitItem path (position + 1) rest).map fun (values, later) =>
          (value :: values, found ++ later)

mutual

/-- Walks one field. An absent field takes its default, or the fields of its object are walked as
absent ones; a present one is cast, checked, walked inside, and then held to its rules. -/
def visit (setting : Setting) (property : Property) (path : Path) (value : Value) : Step Value :=
  match property with
  | ⟨shape, rules, fallback, _⟩ =>
      if value = .absent then
        match fallback with
        | some default => .ok (default, .none)
        | none =>
            (visitAbsent setting shape path).bind fun (result, found) =>
              (applyMissingRules setting path rules).map fun later => (result, found ++ later)
      else
        (castLeaf setting shape.type value).bind fun
          | none => .ok (value, .wrongType path shape.type)
          | some value =>
              if !shape.type.admits value then .ok (value, .wrongType path shape.type)
              else
                (visitInside setting shape path value).bind fun (result, found) =>
                  (applyRules setting result path rules).map fun later => (result, found ++ later)

def visitAbsent (setting : Setting) (shape : Shape Property) (path : Path) : Step Value :=
  match shape with
  | .object (some members) =>
      (visitMembers setting members path []).map fun (entries, found) =>
        (if entries.isEmpty then .absent else .dict entries, found)
  | _ => .ok (.absent, .none)

def visitInside (setting : Setting) (shape : Shape Property) (path : Path) (value : Value) :
    Step Value :=
  match shape with
  | .scalar _ => .ok (value, .none)
  | .array none => .ok (.list (itemsOf value), .none)
  | .array (some item) =>
      (visitItems (visit setting item) path 0 (itemsOf value)).map fun (items, found) =>
        (.list items, found)
  | .object none => .ok (value, .none)
  | .object (some members) =>
      (visitMembers setting members path (entriesOf value)).bind fun (entries, found) =>
        (forbidden setting members (entriesOf value) path).map fun others =>
          (.dict (entries ++ kept setting members (entriesOf value)), found ++ others)

def visitMembers (setting : Setting) (members : List (String × Property)) (path : Path)
    (entries : List (Key × Value)) : Step (List (Key × Value)) :=
  match members with
  | [] => .ok ([], .none)
  | (name, property) :: rest =>
      (visit setting property (path ++ [.name name]) (fieldValue name entries)).bind
        fun (value, found) =>
          (visitMembers setting rest path entries).map fun (later, others) =>
            (placed name value later, found ++ others)

end

end Walk

end RecordCheck
