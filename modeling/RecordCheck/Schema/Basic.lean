import RecordCheck.Directive.Basic
import RecordCheck.Schema.FieldType

/-!
Compiled schemas. A property is a leaf of some type, an object that may declare its fields, or an
array that may declare its items; each carries its rules, a default and the keys that have no
meaning here. `render` writes a schema back as plain data, in the canonical spelling.
-/

namespace RecordCheck

inductive Shape (Child : Type)
  | scalar (type : ScalarType)
  | object (members : Option (List (String × Child)))
  | array (item : Option Child)

structure Property where
  shape : Shape Property
  rules : List Directive
  fallback : Option Value
  extras : List (Key × Value)

inductive Mode
  | strict
  | loose
  | filter
deriving DecidableEq

structure Schema where
  mode : Mode
  cast : Bool
  members : List (String × Property)
  extras : List (Key × Value)

namespace Mode

def name : Mode → String
  | strict => "strict"
  | loose => "loose"
  | filter => "filter"

def ofName? (name : String) : Option Mode :=
  if name = "strict" then some strict
  else if name = "loose" then some loose
  else if name = "filter" then some filter
  else none

end Mode

namespace Shape

variable {Child : Type}

def type : Shape Child → FieldType
  | scalar type => .scalar type
  | object _ => .object
  | array _ => .array

def isArray : Shape Child → Bool
  | array _ => true
  | _ => false

def members? : Shape Child → Option (List (String × Child))
  | object members => members
  | _ => none

def item? : Shape Child → Option Child
  | array item => item
  | _ => none

end Shape

namespace Property

def type (property : Property) : FieldType := property.shape.type

def renderTail (rules : List Directive) (fallback : Option Value) (extras : List (Key × Value)) :
    List (Key × Value) :=
  (if rules.isEmpty then [] else [(.text "validation", .list (rules.map Directive.render))]) ++
    (match fallback with
    | some value => [(.text "default", value)]
    | none => []) ++ extras

mutual

def render : Property → Value
  | { shape := .scalar type, rules, fallback, extras } =>
      .dict ((.text "type", .text type.name) :: renderTail rules fallback extras)
  | { shape := .object none, rules, fallback, extras } =>
      .dict ((.text "type", .text "object") :: renderTail rules fallback extras)
  | { shape := .object (some members), rules, fallback, extras } =>
      .dict ((.text "type", .text "object") ::
        (.text "properties", .dict (renderMembers members)) :: renderTail rules fallback extras)
  | { shape := .array none, rules, fallback, extras } =>
      .dict ((.text "type", .text "array") :: renderTail rules fallback extras)
  | { shape := .array (some item), rules, fallback, extras } =>
      .dict ((.text "type", .text "array") ::
        (.text "schema", render item) :: renderTail rules fallback extras)

def renderMembers : List (String × Property) → List (Key × Value)
  | [] => []
  | (name, property) :: rest => (.text name, render property) :: renderMembers rest

end

end Property

def Schema.render (schema : Schema) : Value :=
  .dict ((.text "mode", .text schema.mode.name) :: (.text "cast", .bool schema.cast) ::
    (.text "properties", .dict (Property.renderMembers schema.members)) :: schema.extras)

end RecordCheck
