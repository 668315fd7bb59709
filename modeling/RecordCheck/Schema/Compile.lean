import RecordCheck.Path
import RecordCheck.Schema.Rules

/-!
Compiling drafts. A type may be left out where fields are declared; both ways to write an array
give the same shape; every text of rules is read; what has no meaning here is kept beside.
Compiling a compiled part gives the part itself.
-/

namespace RecordCheck

inductive DefinitionFault
  | notMapping
  | unknownType (literal : String)
  | noType
  | badRule (literal : String)
  | badRules (kind : String)
  | arrayTwice
  | badMembers (kind : String)
deriving DecidableEq

inductive SchemaError
  | notMapping (kind : String)
  | unknownMode (literal : String)
  | unknownType (literal : String)
  | definition (path : Path) (fault : DefinitionFault)
  | rules (error : DirectiveError)
  | uncopied
  | integer (fault : Whole.Fault)
deriving DecidableEq

namespace DefinitionFault

def message (path : String) : DefinitionFault → String
  | notMapping => path ++ ": property definition must be a mapping"
  | unknownType literal => path ++ ": unknown type " ++ literal
  | noType => path ++ ": property has no 'type'"
  | badRule literal => path ++ ": invalid validation entry " ++ literal
  | badRules kind => path ++ ": 'validation' must be a string or a list, got " ++ kind
  | arrayTwice => path ++ ": 'array: true' cannot be combined with type 'array'"
  | badMembers kind =>
      (if path = "" then "schema" else path) ++ ": 'properties' must be a mapping, got " ++ kind

end DefinitionFault

namespace SchemaError

def message : SchemaError → String
  | notMapping kind => "schema must be a mapping, got " ++ kind
  | unknownMode literal =>
      "invalid mode " ++ literal ++ "; expected one of ['strict', 'loose', 'filter']"
  | unknownType literal => "unknown type " ++ literal
  | definition path fault => fault.message path.render
  | rules error => error.message
  | uncopied => "cannot pickle 'mappingproxy' object"
  | integer fault => fault.message

/-- An error that names a draft, or the error that the draft cannot be written. -/
def naming (error : String → SchemaError) (draft : Draft) : SchemaError :=
  match draft.literal with
  | .ok literal => error literal
  | .error fault => integer fault

end SchemaError

def FieldType.ofDraft (name : Draft) : Except SchemaError FieldType :=
  match name with
  | .text content =>
      match FieldType.ofName? content with
      | some type => .ok type
      | none => .error (.naming .unknownType name)
  | _ => .error (.naming .unknownType name)

namespace Draft

def isPropertyKey (key : Key) : Bool :=
  key ∈ ["type", "array", "schema", "properties", "validation", "default"].map Key.text

def isSchemaKey (key : Key) : Bool := key ∈ ["mode", "cast", "properties"].map Key.text

def further (known : Key → Bool) (entries : List (Key × Draft)) : List (Key × Draft) :=
  entries.filter fun entry => !known entry.1

def extras (known : Key → Bool) (entries : List (Key × Draft)) : List (Key × Value) :=
  plainEntries (further known entries)

/-- The default that a property declares; the absent marker declares none. -/
def fallback (entries : List (Key × Draft)) : Option Value :=
  match entries.lookup (.text "default") with
  | none | some .absent => none
  | some draft => some draft.plain

def keepable (entries : List (Key × Draft)) : Bool :=
  copyableEntries (further isPropertyKey entries) &&
    ((entries.lookup (.text "default")).map copyable).getD true

def holds (name : String) (entries : List (Key × Draft)) : Bool :=
  ((entries.lookup (.text name)).map Value.truthy).getD false

/-- The declared type of a property: an object where only fields are declared. -/
def declaredType (path : Path) (entries : List (Key × Draft)) : Except SchemaError FieldType :=
  match entries.lookup (.text "type") with
  | some draft =>
      match FieldType.ofDraft draft with
      | .ok type => .ok type
      | .error _ =>
          .error (.naming (fun literal => .definition path (.unknownType literal)) draft)
  | none =>
      if (entries.lookup (.text "properties")).isSome then .ok .object
      else .error (.definition path .noType)

def rulesOfItem (path : Path) : Draft → Except SchemaError (List Directive)
  | .text content => (Directive.read content).mapError .rules
  | draft =>
      match Directive.ofDraft draft with
      | .ok directive => .ok [directive]
      | .error (.integer fault) => .error (.integer fault)
      | .error _ => .error (.naming (fun literal => .definition path (.badRule literal)) draft)

def rulesOfItems (path : Path) : List Draft → Except SchemaError (List Directive)
  | [] => .ok []
  | draft :: rest =>
      (rulesOfItem path draft).bind fun first => (rulesOfItems path rest).map (first ++ ·)

def rulesOf (path : Path) : Draft → Except SchemaError (List Directive)
  | .null => .ok []
  | .text content => (Directive.read content).mapError .rules
  | .list items | .tuple items => rulesOfItems path items
  | draft => .error (.definition path (.badRules draft.kindName))

/-- A property of the shape, or an array of items of the shape if the array mark is set. The items
take the rules, the array keeps the default and the further keys. -/
def wrapped (entries : List (Key × Draft)) (rules : List Directive) (shape : Shape Property) :
    Property :=
  if holds "array" entries then
    ⟨.array (some ⟨shape, rules, none, []⟩), [], fallback entries, extras isPropertyKey entries⟩
  else ⟨shape, rules, fallback entries, extras isPropertyKey entries⟩

mutual

def compileProperty (path : Path) : Draft → Except SchemaError Property
  | .part (.property property) => .ok property
  | .dict entries =>
      (declaredType path entries).bind fun type =>
        if !keepable entries then .error .uncopied
        else
          (rulesOf path ((entries.lookup (.text "validation")).getD .null)).bind fun rules =>
            match type with
            | .array =>
                if holds "array" entries then .error (.definition path .arrayTwice)
                else
                  (compileItem path entries).map fun item =>
                    ⟨.array item, rules, fallback entries, extras isPropertyKey entries⟩
            | .object =>
                (compileMembersIn path entries).map fun members =>
                  wrapped entries rules (.object members)
            | .scalar type => .ok (wrapped entries rules (.scalar type))
  | _ => .error (.definition path .notMapping)

def compileItem (path : Path) : List (Key × Draft) → Except SchemaError (Option Property)
  | [] => .ok none
  | (key, draft) :: rest =>
      if key = .text "schema" then
        if draft.isNull then .ok none else (compileProperty path draft).map some
      else compileItem path rest

def compileMembersIn (path : Path) :
    List (Key × Draft) → Except SchemaError (Option (List (String × Property)))
  | [] => .ok none
  | (key, draft) :: rest =>
      if key = .text "properties" then (compileMembers path draft).map some
      else compileMembersIn path rest

/-- Compiles a mapping from names to definitions; null declares no field. -/
def compileMembers (path : Path) : Draft → Except SchemaError (List (String × Property))
  | .null => .ok []
  | .dict entries => (compileEntries path entries).map Entries.ofTexts
  | draft => .error (.definition path (.badMembers draft.kindName))

def compileEntries (path : Path) :
    List (Key × Draft) → Except SchemaError (List (String × Property))
  | [] => .ok []
  | (key, draft) :: rest =>
      (key.name.mapError .integer).bind fun name =>
        (compileProperty (path ++ [.name name]) draft).bind fun property =>
          (compileEntries path rest).map ((name, property) :: ·)

end

/-- The mode of a schema; what counts as false leaves the mode at its default. -/
def modeOf (draft : Draft) : Except SchemaError Mode :=
  if !draft.truthy then .ok .filter
  else
    match draft with
    | .text name =>
        match Mode.ofName? name with
        | some mode => .ok mode
        | none => .error (.naming .unknownMode draft)
    | _ => .error (.naming .unknownMode draft)

def compile : Draft → Except SchemaError Schema
  | .part (.schema schema) => .ok schema
  | .dict entries =>
      (modeOf ((entries.lookup (.text "mode")).getD .null)).bind fun mode =>
        (compileMembers [] ((entries.lookup (.text "properties")).getD .null)).bind fun members =>
          if copyableEntries (further isSchemaKey entries) then
            .ok ⟨mode, holds "cast" entries, members, extras isSchemaKey entries⟩
          else .error .uncopied
  | draft => .error (.notMapping draft.kindName)

end Draft

def Schema.ofValue (value : Value) : Except SchemaError Schema := Draft.compile value.embed

end RecordCheck
