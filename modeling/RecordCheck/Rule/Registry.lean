import RecordCheck.Rule.Basic

/-!
Registries of rules by name, and catalogues of registries by name. Registering a rule replaces the
rule of that name; a copy of a registry is independent of it.
-/

namespace RecordCheck

structure Registry where
  rules : List (String × Rule)

inductive RegistrationError
  | badName
deriving DecidableEq

def RegistrationError.message : RegistrationError → String
  | badName => "rule name must be a non-empty string"

namespace Registry

def empty : Registry := ⟨[]⟩

def find? (registry : Registry) (name : String) : Option Rule := registry.rules.lookup name

def contains (registry : Registry) (name : String) : Bool := (registry.find? name).isSome

def get (registry : Registry) (name : String) : Except RuleError Rule :=
  match registry.find? name with
  | some rule => .ok rule
  | none => .error (.unknownRule name)

def size (registry : Registry) : Nat := registry.rules.length

def names (registry : Registry) : List String :=
  (registry.rules.map Prod.fst).mergeSort fun left right => left ≤ right

def add (registry : Registry) (rule : Rule) : Registry :=
  ⟨Entries.put (· == ·) rule.name rule registry.rules⟩

def ofRules (rules : List Rule) : Registry := rules.foldl add empty

def copy (registry : Registry) : Registry := ofRules (registry.rules.map Prod.snd)

def register (registry : Registry) (name : Value) (predicate : Predicate) (template : String)
    (errorId : Option String) (checkMissing : Bool) :
    Except RegistrationError (Registry × Rule) :=
  match name with
  | .text content =>
      if content = "" then .error .badName
      else
        let rule := Rule.make content predicate template errorId checkMissing
        .ok (registry.add rule, rule)
  | _ => .error .badName

def evaluate (registry : Registry) (name : String) (value : Value) (arguments : List Argument)
    (record : Value) : Except RuleError Outcome :=
  (registry.get name).bind fun rule => rule.evaluate value arguments record

end Registry

abbrev Catalogue := List (String × Registry)

inductive CatalogueStep
  | create (target : String)
  | copy (source target : String)
  | register (target : String) (name : Value) (predicate : Predicate) (template : String)
      (errorId : Option String) (checkMissing : Bool)

inductive CatalogueError
  | noRegistry (name : String)
  | registration (error : RegistrationError)
deriving DecidableEq

namespace Catalogue

def find (catalogue : Catalogue) (name : String) : Except CatalogueError Registry :=
  match catalogue.lookup name with
  | some registry => .ok registry
  | none => .error (.noRegistry name)

def store (catalogue : Catalogue) (name : String) (registry : Registry) : Catalogue :=
  Entries.put (· == ·) name registry catalogue

def apply (catalogue : Catalogue) : CatalogueStep → Except CatalogueError Catalogue
  | .create target => .ok (catalogue.store target .empty)
  | .copy source target =>
      (catalogue.find source).map fun registry => catalogue.store target registry.copy
  | .register target name predicate template errorId checkMissing =>
      (catalogue.find target).bind fun registry =>
        match registry.register name predicate template errorId checkMissing with
        | .ok (extended, _) => .ok (catalogue.store target extended)
        | .error error => .error (.registration error)

/-- Carries out changes in order; a refused one changes nothing. -/
def run (catalogue : Catalogue) : List CatalogueStep → Catalogue
  | [] => catalogue
  | step :: rest =>
      match catalogue.apply step with
      | .ok changed => run changed rest
      | .error _ => run catalogue rest

end Catalogue

end RecordCheck
