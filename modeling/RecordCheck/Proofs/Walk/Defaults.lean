import RecordCheck.Proofs.Entries
import RecordCheck.Proofs.Value.Tree
import RecordCheck.Proofs.Walk.Locations

/-!
Schemas that differ in their defaults. A default is looked at for a missing field only, so a walk
that comes to no missing field does not depend on any of them.
-/

namespace RecordCheck

namespace Value

variable {Part : Type}

inductive Unmarked : Value Part → Prop
  | node {value : Value Part} : value ≠ .absent → (∀ child ∈ value.children, Unmarked child) →
      Unmarked value

namespace Unmarked

variable {value : Value Part}

theorem present (unmarked : value.Unmarked) : value ≠ .absent := by
  cases unmarked with
  | node present _ => exact present

theorem inside (unmarked : value.Unmarked) {child : Value Part} (member : child ∈ value.children) :
    child.Unmarked := by
  cases unmarked with
  | node _ children => exact children child member

end Unmarked

end Value

namespace Property

mutual

/-- Definitions that differ in their defaults at most, at every level. -/
inductive Refilled : Property → Property → Prop
  | node {shape other rules fallback otherFallback extras} : RefilledShape shape other →
      Refilled ⟨shape, rules, fallback, extras⟩ ⟨other, rules, otherFallback, extras⟩

inductive RefilledShape : Shape Property → Shape Property → Prop
  | scalar {type} : RefilledShape (.scalar type) (.scalar type)
  | anyObject : RefilledShape (.object none) (.object none)
  | object {members others} : RefilledMembers members others →
      RefilledShape (.object (some members)) (.object (some others))
  | anyArray : RefilledShape (.array none) (.array none)
  | array {item other} : Refilled item other →
      RefilledShape (.array (some item)) (.array (some other))

inductive RefilledMembers : List (String × Property) → List (String × Property) → Prop
  | nil : RefilledMembers [] []
  | cons {name property other rest later} : Refilled property other → RefilledMembers rest later →
      RefilledMembers ((name, property) :: rest) ((name, other) :: later)

end

theorem Refilled.shape {property other : Property} (refilled : property.Refilled other) :
    RefilledShape property.shape other.shape := by
  cases refilled with
  | node shapes => exact shapes

theorem RefilledShape.type_eq {shape other : Shape Property}
    (refilled : RefilledShape shape other) : other.type = shape.type := by
  cases refilled <;> rfl

theorem RefilledMembers.lookup_isSome {members others : List (String × Property)}
    (refilled : RefilledMembers members others) (name : String) :
    (others.lookup name).isSome = (members.lookup name).isSome := by
  induction members generalizing others with
  | nil =>
      cases refilled
      rfl
  | cons member rest ih =>
      cases refilled with
      | cons _ later =>
          rw [List.lookup_cons, List.lookup_cons]
          split
          · rfl
          · exact ih later

end Property

namespace Walk

open Property

variable {setting : Setting}

/-- A value holds every field that is declared for a mapping that the walk comes to in it. -/
def Supplies (property : Property) (value : Value) : Prop :=
  ∀ path target members entries, Reaches property value path target (.dict entries) →
    target.shape = .object (some members) →
      ∀ member ∈ members, (entries.lookup (.text member.1)).isSome = true

def NoneMissing (property : Property) (value : Value) : Prop :=
  ∀ path target raw, Reaches property value path target raw → raw ≠ .absent

theorem itemsOf_subset_children (value : Value) : itemsOf value ⊆ value.children := by
  cases value with
  | list items => exact List.Subset.refl items
  | tuple items => exact List.Subset.refl items
  | _ => exact List.nil_subset _

theorem supplies_scalar (type : ScalarType) (rules : List Directive) (fallback : Option Value)
    (extras : List (Key × Value)) (value : Value) :
    Supplies ⟨.scalar type, rules, fallback, extras⟩ value := by
  intro path target members entries reached shape
  cases path with
  | nil =>
      obtain ⟨rfl, _⟩ := reaches_nil.mp reached
      cases shape
  | cons segment rest =>
      obtain ⟨_, _, _, inside, _⟩ := reaches_cons.mp reached
      cases inside

theorem supplies_object {members : List (String × Property)} {entries : List (Key × Value)}
    (each : ∀ member ∈ members, (entries.lookup (.text member.1)).isSome = true ∧
      Supplies member.2 (fieldValue member.1 entries))
    (rules : List Directive) (fallback : Option Value) (extras : List (Key × Value)) :
    Supplies ⟨.object (some members), rules, fallback, extras⟩ (.dict entries) := by
  intro path target declared found reached shape
  cases path with
  | nil =>
      obtain ⟨rfl, same⟩ := reaches_nil.mp reached
      cases same
      cases shape
      exact fun member inside => (each member inside).1
  | cons segment rest =>
      obtain ⟨_, _, _, inside, reached⟩ := reaches_cons.mp reached
      cases inside with
      | field inside => exact (each _ inside).2 rest target declared found reached shape

theorem Supplies.inside {property child : Property} {value element : Value} {segment : Segment}
    (supplies : Supplies property value) (opens : Opens property value)
    (inside : Inside property.shape value segment child element) : Supplies child element :=
  fun path target members entries reached =>
    supplies (segment :: path) target members entries
      (reaches_cons.mpr ⟨opens, child, element, inside, reached⟩)

theorem Inside.uncast {shape : Shape Property} {value result element : Value} {segment : Segment}
    {child : Property} (inside : Inside shape result segment child element)
    (cast : castLeaf setting shape.type value = .ok (some result)) : result = value := by
  rcases castLeaf_ok cast with ⟨type, rfl⟩ | same
  · cases inside
  · exact Option.some.inj same

theorem Inside.unmarked {property child : Property} {value element : Value} {segment : Segment}
    (inside : Inside property.shape value segment child element) (opens : Opens property value)
    (supplies : Supplies property value) (unmarked : value.Unmarked) : element.Unmarked := by
  obtain ⟨shape, rules, fallback, extras⟩ := property
  cases inside with
  | @field members _ name _ declared =>
      have mapping := opens.2 unmarked.present
      cases value with
      | dict entries =>
          have there := supplies [] _ members entries .here rfl _ declared
          obtain ⟨element, found⟩ := Option.isSome_iff_exists.mp there
          rw [entriesOf, fieldValue, found, Option.getD_some]
          exact unmarked.inside (List.mem_map_of_mem (Entries.mem_of_lookup found))
      | _ => cases mapping
  | item there =>
      exact unmarked.inside (itemsOf_subset_children value (List.mem_of_getElem? there))

theorem Supplies.noneMissing {property : Property} {value : Value}
    (supplies : Supplies property value) (unmarked : value.Unmarked) :
    NoneMissing property value := by
  intro path target raw reached
  induction path generalizing property value with
  | nil =>
      obtain ⟨_, rfl⟩ := reaches_nil.mp reached
      exact unmarked.present
  | cons segment rest ih =>
      obtain ⟨opens, child, element, inside, reached⟩ := reaches_cons.mp reached
      exact ih (supplies.inside opens inside) (inside.unmarked opens supplies unmarked) reached

theorem NoneMissing.here {property : Property} {value : Value}
    (noneMissing : NoneMissing property value) : value ≠ .absent :=
  noneMissing [] property value .here

theorem NoneMissing.inside {property child : Property} {value element : Value} {segment : Segment}
    (noneMissing : NoneMissing property value) (opens : Opens property value)
    (inside : Inside property.shape value segment child element) : NoneMissing child element :=
  fun path target raw reached =>
    noneMissing (segment :: path) target raw
      (reaches_cons.mpr ⟨opens, child, element, inside, reached⟩)

theorem NoneMissing.afterCast {property : Property} {value result : Value}
    (noneMissing : NoneMissing property value)
    (cast : castLeaf setting property.type value = .ok (some result))
    (admitted : property.type.admits result = true) {segment : Segment} {child : Property}
    {element : Value} (inside : Inside property.shape result segment child element) :
    NoneMissing child element := by
  obtain rfl := inside.uncast cast
  have opens : Opens property result :=
    ⟨fun absent => absurd absent noneMissing.here, fun _ => admitted⟩
  exact noneMissing.inside opens inside

section Refilled

variable {members others : List (String × Property)}

theorem undeclared_refilled (refilled : RefilledMembers members others)
    (entries : List (Key × Value)) : undeclared others entries = undeclared members entries := by
  have declared : isDeclared others = isDeclared members := by
    funext key
    cases key with
    | text name => exact refilled.lookup_isSome name
    | _ => rfl
  rw [undeclared, undeclared, declared]

theorem kept_refilled (refilled : RefilledMembers members others) (entries : List (Key × Value)) :
    kept setting others entries = kept setting members entries := by
  rw [kept, kept, undeclared_refilled refilled]

theorem forbidden_refilled (refilled : RefilledMembers members others)
    (entries : List (Key × Value)) (path : Path) :
    forbidden setting others entries path = forbidden setting members entries path := by
  rw [forbidden, forbidden, undeclared_refilled refilled]

/-- The walk of a value in which no field is missing does not depend on the defaults. -/
abbrev IgnoresDefaults (setting : Setting) (property : Property) : Prop :=
  ∀ other value path, property.Refilled other → NoneMissing property value →
    visit setting other path value = visit setting property path value

theorem visitMembers_refilled (refilled : RefilledMembers members others)
    (each : ∀ member ∈ members, IgnoresDefaults setting member.2) {entries : List (Key × Value)}
    (present : ∀ member ∈ members, NoneMissing member.2 (fieldValue member.1 entries))
    (path : Path) :
    visitMembers setting others path entries = visitMembers setting members path entries := by
  induction members generalizing others with
  | nil =>
      cases refilled
      rfl
  | cons member rest ih =>
      cases refilled with
      | @cons name property other _ later first refilled =>
          have own := each _ List.mem_cons_self other _ (path ++ [.name name]) first
            (present _ List.mem_cons_self)
          have later := ih refilled
            (fun member inside => each member (List.mem_cons_of_mem _ inside))
            (fun member inside => present member (List.mem_cons_of_mem _ inside))
          rw [visitMembers, visitMembers, own, later]

theorem visitItems_congr {visitItem visitOther : Path → Value → Step Value} {items : List Value}
    (each : ∀ item ∈ items, ∀ path, visitOther path item = visitItem path item) (path : Path)
    (position : Nat) :
    visitItems visitOther path position items = visitItems visitItem path position items := by
  induction items generalizing position with
  | nil => rfl
  | cons item rest ih =>
      have own := each item List.mem_cons_self (path ++ [.index position])
      have later := ih (fun other inside => each other (List.mem_cons_of_mem _ inside))
        (position + 1)
      rw [visitItems, visitItems, own, later]

theorem visitInside_refilled {shape other : Shape Property} (refilled : RefilledShape shape other)
    (each : ∀ child ∈ shape.children, IgnoresDefaults setting child) {value : Value}
    (present : ∀ segment child element, Inside shape value segment child element →
      NoneMissing child element) (path : Path) :
    visitInside setting other path value = visitInside setting shape path value := by
  cases refilled with
  | scalar => rfl
  | anyObject => rfl
  | anyArray => rfl
  | object refilled =>
      have declared := visitMembers_refilled refilled
        (fun member inside => each member.2 (List.mem_map_of_mem inside))
        (fun member inside => present _ _ _ (.field inside)) path
      rw [visitInside, visitInside, declared, kept_refilled refilled, forbidden_refilled refilled]
  | @array item other refilled =>
      have own : ∀ element ∈ itemsOf value, ∀ path,
          visit setting other path element = visit setting item path element := by
        intro element there path
        obtain ⟨position, found⟩ := List.getElem?_of_mem there
        exact each item (by simp) other element path refilled (present _ _ _ (.item found))
      rw [visitInside, visitInside, visitItems_congr own]

theorem visit_refilled (property : Property) : IgnoresDefaults setting property := by
  induction property with
  | node shape rules fallback extras ih =>
      intro other value path refilled noneMissing
      cases refilled with
      | @node _ other _ _ otherFallback _ refilled =>
          -- the defaults stand in the branch of a missing field, which is not taken
          simp only [visit, noneMissing.here, if_false, refilled.type_eq]
          rcases cast : castLeaf setting shape.type value with error | (_ | result)
          · rfl
          · rfl
          · by_cases admitted : shape.type.admits result = true
            · have inner : visitInside setting other path result =
                  visitInside setting shape path result :=
                visitInside_refilled refilled ih
                  (fun _ _ _ inside => noneMissing.afterCast cast admitted inside) path
              simp only [Except.bind, admitted, Bool.not_true, Bool.false_eq_true, if_false, inner]
            · simp only [Except.bind, admitted, Bool.not_false, if_true]

end Refilled

end Walk

end RecordCheck
