import RecordCheck.Schema.Basic
import RecordCheck.Value.Literal

/-!
Compiled parts as messages show them: the name of the kind and the fields in brackets.
-/

namespace RecordCheck

namespace Argument

def shown : Argument → String
  | positional value => value.written
  | keyed key text => "KeyedArgument(key=" ++ Text.quoted key ++ ", value=" ++ Text.quoted text ++ ")"

end Argument

namespace Directive

def shown (directive : Directive) : String :=
  "RuleDescriptor(name=" ++ Text.quoted directive.name ++ ", arguments=" ++
    Value.bracketed (directive.arguments.map Argument.shown) ++ ")"

def writable (directive : Directive) : Bool := directive.arguments.all Argument.writable

end Directive

def FieldType.shown (type : FieldType) : String :=
  "<FieldType." ++ type.name.toUpper ++ ": " ++ Text.quoted type.name ++ ">"

def Mode.shown (mode : Mode) : String :=
  "<Mode." ++ mode.name.toUpper ++ ": " ++ Text.quoted mode.name ++ ">"

def frozenText (entries : List String) : String :=
  "mappingproxy(\x7b" ++ ", ".intercalate entries ++ "\x7d)"

namespace Property

def textWith (type : FieldType) (isArray : Bool) (members item : String)
    (rules : List Directive) (fallback : Option Value) (extras : List (Key × Value)) : String :=
  "PropertySchema(field_type=" ++ type.shown ++ ", is_array=" ++
    (if isArray then "True" else "False") ++ ", properties=" ++ members ++ ", item_schema=" ++
    item ++ ", rules=" ++ Value.bracketed (rules.map Directive.shown) ++ ", default=" ++
    (fallback.getD .absent).written ++ ", extras=" ++
    frozenText (Value.writtenEntries extras) ++ ")"

mutual

def shown : Property → String
  | { shape := .scalar type, rules, fallback, extras } =>
      textWith (.scalar type) false "None" "None" rules fallback extras
  | { shape := .object none, rules, fallback, extras } =>
      textWith .object false "None" "None" rules fallback extras
  | { shape := .object (some members), rules, fallback, extras } =>
      textWith .object false (frozenText (shownMembers members)) "None" rules fallback extras
  | { shape := .array none, rules, fallback, extras } =>
      textWith .array true "None" "None" rules fallback extras
  | { shape := .array (some item), rules, fallback, extras } =>
      textWith .array true "None" (shown item) rules fallback extras

def shownMembers : List (String × Property) → List String
  | [] => []
  | (name, property) :: rest =>
      (Text.quoted name ++ ": " ++ shown property) :: shownMembers rest

end

def writableTail (rules : List Directive) (fallback : Option Value)
    (extras : List (Key × Value)) : Bool :=
  rules.all Directive.writable && (fallback.getD .absent).writable && Value.writableEntries extras

mutual

def writable : Property → Bool
  | { shape := .object (some members), rules, fallback, extras } =>
      writableMembers members && writableTail rules fallback extras
  | { shape := .array (some item), rules, fallback, extras } =>
      writable item && writableTail rules fallback extras
  | { shape := _, rules, fallback, extras } => writableTail rules fallback extras

def writableMembers : List (String × Property) → Bool
  | [] => true
  | (_, property) :: rest => writable property && writableMembers rest

end

end Property

namespace Schema

def shown (schema : Schema) : String :=
  "SchemaRoot(mode=" ++ schema.mode.shown ++ ", cast=" ++
    (if schema.cast then "True" else "False") ++ ", properties=" ++
    frozenText (Property.shownMembers schema.members) ++ ", extras=" ++
    frozenText (Value.writtenEntries schema.extras) ++ ")"

def writable (schema : Schema) : Bool :=
  Property.writableMembers schema.members && Value.writableEntries schema.extras

end Schema

end RecordCheck
