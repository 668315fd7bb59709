import RecordCheck.Schema.Basic

/-!
The tree of properties in a schema. A whole schema is read as the property of an object, so that
what holds at every level is said once for properties.
-/

namespace RecordCheck

namespace Shape

variable {Child : Type}

def children : Shape Child → List Child
  | object (some members) => members.map Prod.snd
  | array (some item) => [item]
  | _ => []

@[simp] theorem children_scalar (type : ScalarType) :
    (scalar type : Shape Child).children = [] := rfl

@[simp] theorem children_object_none : (object none : Shape Child).children = [] := rfl

@[simp] theorem children_object_some (members : List (String × Child)) :
    (object (some members)).children = members.map Prod.snd := rfl

@[simp] theorem children_array_none : (array none : Shape Child).children = [] := rfl

@[simp] theorem children_array_some (item : Child) : (array (some item)).children = [item] := rfl

def names : Shape Child → List String
  | object (some members) => members.map Prod.fst
  | _ => []

end Shape

namespace Property

theorem sizeOf_child_lt {shape : Shape Property} {child : Property}
    (inside : child ∈ shape.children) (rules : List Directive) (fallback : Option Value)
    (extras : List (Key × Value)) : sizeOf child < sizeOf (mk shape rules fallback extras) := by
  rw [mk.sizeOf_spec]
  rcases shape with type | (_ | members) | (_ | item)
  · simp at inside
  · simp at inside
  · obtain ⟨⟨name, property⟩, member, same⟩ := List.mem_map.mp inside
    have entry := List.sizeOf_lt_of_mem member
    rw [Prod.mk.sizeOf_spec] at entry
    rw [Shape.object.sizeOf_spec, Option.some.sizeOf_spec, ← same]
    dsimp only
    omega
  · simp at inside
  · have same : child = item := by simpa using inside
    rw [Shape.array.sizeOf_spec, Option.some.sizeOf_spec, same]
    omega

/-- Induction on the properties inside a property. -/
@[elab_as_elim, induction_eliminator]
theorem byChildren {motive : Property → Prop}
    (node : ∀ shape rules fallback extras, (∀ child ∈ shape.children, motive child) →
      motive ⟨shape, rules, fallback, extras⟩)
    (property : Property) : motive property :=
  match property with
  | ⟨shape, rules, fallback, extras⟩ =>
      node shape rules fallback extras fun child _ => byChildren node child
termination_by sizeOf property
decreasing_by exact sizeOf_child_lt (by assumption) rules fallback extras

inductive Everywhere (holds : Property → Prop) : Property → Prop
  | node {property} : holds property → (∀ child ∈ property.shape.children, Everywhere holds child) →
      Everywhere holds property

/-- A property that is another one or stands inside it, at any level. -/
inductive Within (property : Property) : Property → Prop
  | here : Within property property
  | inside {outer child : Property} : child ∈ outer.shape.children → Within property child →
      Within property outer

namespace Everywhere

variable {holds : Property → Prop} {property : Property}

theorem here (everywhere : property.Everywhere holds) : holds property := by
  cases everywhere with
  | node own _ => exact own

theorem inside (everywhere : property.Everywhere holds) {child : Property}
    (member : child ∈ property.shape.children) : child.Everywhere holds := by
  cases everywhere with
  | node _ children => exact children child member

theorem member {members : List (String × Property)} {rules fallback extras name child}
    (everywhere : Everywhere holds ⟨.object (some members), rules, fallback, extras⟩)
    (member : (name, child) ∈ members) : child.Everywhere holds :=
  everywhere.inside (List.mem_map_of_mem (f := Prod.snd) member)

theorem item {item : Property} {rules fallback extras}
    (everywhere : Everywhere holds ⟨.array (some item), rules, fallback, extras⟩) :
    item.Everywhere holds :=
  everywhere.inside (by simp)

theorem mono {weaker : Property → Prop} (everywhere : property.Everywhere holds)
    (step : ∀ node, holds node → weaker node) : property.Everywhere weaker := by
  induction everywhere with
  | node own _ ih => exact .node (step _ own) ih

theorem within {target : Property} (everywhere : property.Everywhere holds)
    (inside : target.Within property) : holds target := by
  induction inside with
  | here => exact everywhere.here
  | inside member _ ih => exact ih (everywhere.inside member)

theorem of_within (each : ∀ target : Property, target.Within property → holds target) :
    property.Everywhere holds := by
  induction property with
  | node shape rules fallback extras ih =>
      refine .node (each _ .here) fun child member => ih child member fun target inside => ?_
      exact each target (.inside member inside)

end Everywhere

def DistinctNames (property : Property) : Prop :=
  property.Everywhere fun node => node.shape.names.Nodup

def Unfilled (property : Property) : Prop :=
  property.Everywhere fun node => node.fallback = none

end Property

def Schema.root (schema : Schema) : Property :=
  ⟨.object (some schema.members), [], none, schema.extras⟩

end RecordCheck
