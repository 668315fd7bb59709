import RecordCheck.Proofs.Cast
import RecordCheck.Proofs.Report.Failures

/-!
Checks that cast, against schemas without rules. Main statement: such a check gives a report, or
names undeclared keys, or stops. It stops exactly when the walk comes to a field where it cannot go
on: a numeric text with a separator stands at a numeric type, an integer is too long for a text that
the cast makes, or the strict mode has an undeclared key to name and the key is such an integer.
-/

namespace RecordCheck

/-- No definition has rules, at any level. -/
def Property.Ruleless (property : Property) : Prop :=
  property.Everywhere fun node => node.rules = []

namespace Walk

/-- What stops the walk at a field that is cast and has no rules, with the error that comes of it. -/
inductive Stops (mode : Mode) (property : Property) (value : Value) : WalkError → Prop
  | unreadable {text} : property.type.isNumeric = true → value = .text text →
      Value.Separated text → Stops mode property value (.unreadable text)
  | unwritable : Value.Overlong property.type value →
      Stops mode property value (.integer .unwritable)
  | unnamed {members entry} : mode = .strict → property.shape = .object (some members) →
      entry ∈ undeclared members (entriesOf value) → entry.1.writable = false →
      Stops mode property value (.integer .unwritable)

variable {setting : Setting}

theorem castLeaf_error {property : Property} {value : Value} {error : WalkError}
    (failed : castLeaf setting property.type value = .error error) :
    Stops setting.mode property value error := by
  unfold castLeaf at failed
  split at failed
  · split at failed
    · cases failed
    · cases failed
    · rename_i text unread
      cases failed
      obtain ⟨same, numeric, separated⟩ := Value.cast_unreadable_iff.mp unread
      exact .unreadable numeric same separated
    · rename_i fault unwritten
      cases failed
      obtain ⟨rfl, long⟩ := Value.cast_integer_iff.mp unwritten
      exact .unwritable long
  · cases failed

theorem castLeaf_stuck (casts : setting.cast = true) {type : FieldType} {value : Value}
    (scalar : type.isScalar = true) {error : CastError} (failed : value.cast type = .error error)
    (unrefused : ∀ refused target, error ≠ .refused refused target) :
    ¬Returns (castLeaf setting type value) := by
  rw [castLeaf, casts, scalar, Bool.and_self, if_pos rfl, failed]
  cases error with
  | refused refused target => exact absurd rfl (unrefused refused target)
  | unreadable text => exact not_returns_error _
  | integer fault => exact not_returns_error _

theorem isScalar_of_isNumeric {type : FieldType} (numeric : type.isNumeric = true) :
    type.isScalar = true := by
  cases type <;> first | rfl | cases numeric

theorem isScalar_of_overlong {type : FieldType} {value : Value} (long : Value.Overlong type value) :
    type.isScalar = true := by
  obtain ⟨_, rfl | ⟨numeric, _⟩⟩ := long
  · rfl
  · exact isScalar_of_isNumeric numeric

theorem memberFailures_error {members : List (String × Property)} {entries : List (Key × Value)}
    {error : WalkError} (failed : memberFailures setting members entries = .error error) :
    ∃ name child, (name, child) ∈ members ∧
      failures setting child (fieldValue name entries) = .error error := by
  induction members with
  | nil => simp [memberFailures] at failed
  | cons member rest ih =>
      obtain ⟨name, child⟩ := member
      rw [memberFailures] at failed
      rcases bind_error_iff.mp failed with first | ⟨found, _, later⟩
      · exact ⟨name, child, List.mem_cons_self, first⟩
      · obtain ⟨other, property, declared, inside⟩ := ih (map_error_iff.mp later)
        exact ⟨other, property, List.mem_cons_of_mem _ declared, inside⟩

theorem itemFailures_error {failuresOf : Value → Except WalkError Complaints} {position : Nat}
    {items : List Value} {error : WalkError}
    (failed : itemFailures failuresOf position items = .error error) :
    ∃ (index : Nat) (item : Value), items[index]? = some item ∧ failuresOf item = .error error := by
  induction items generalizing position with
  | nil => simp [itemFailures] at failed
  | cons item rest ih =>
      rw [itemFailures] at failed
      rcases bind_error_iff.mp failed with first | ⟨found, _, later⟩
      · exact ⟨0, item, rfl, first⟩
      · obtain ⟨index, other, found, inside⟩ := ih (map_error_iff.mp later)
        exact ⟨index + 1, other, found, inside⟩

theorem innerFailures_error {property : Property} {value : Value} {error : WalkError}
    (failed : innerFailures setting property.shape value = .error error) :
    (∃ segment child element, Inside property.shape value segment child element ∧
      failures setting child element = .error error) ∨ Stops setting.mode property value error := by
  obtain ⟨shape, rules, fallback, extras⟩ := property
  rcases shape with type | (_ | members) | (_ | item)
  · cases failed
  · cases failed
  · rcases innerFailures_object_error_iff.mp failed with declared | ⟨_, unnamed, rfl⟩
    · obtain ⟨name, child, member, within⟩ := memberFailures_error declared
      exact Or.inl ⟨_, child, _, .field member, within⟩
    · simp only [Nameable, Classical.not_imp, not_forall, Bool.not_eq_true] at unnamed
      obtain ⟨strict, entry, member, long⟩ := unnamed
      exact Or.inr (.unnamed strict rfl member long)
  · cases failed
  · obtain ⟨index, element, there, within⟩ := itemFailures_error failed
    exact Or.inl ⟨_, item, element, .item there, within⟩

/-- The walk of a field comes to one that stops it. -/
def StopsInside (mode : Mode) (property : Property) (value : Value) (error : WalkError) : Prop :=
  ∃ path target raw, Reaches property value path target raw ∧ Stops mode target raw error

theorem stopsInside_of_inner {property : Property} {value : Value} (opens : Opens property value)
    (each : ∀ child ∈ property.shape.children, ∀ value error,
      failures setting child value = .error error → StopsInside setting.mode child value error)
    {error : WalkError} (failed : innerFailures setting property.shape value = .error error) :
    StopsInside setting.mode property value error := by
  rcases innerFailures_error failed with ⟨segment, child, element, inside, within⟩ | own
  · obtain ⟨path, target, raw, reached, stops⟩ := each child inside.child_mem _ _ within
    exact ⟨_, target, raw, reaches_cons.mpr ⟨opens, child, element, inside, reached⟩, stops⟩
  · exact ⟨[], property, value, .here, own⟩

theorem stopsInside_of_error (property : Property) (ruleless : property.Ruleless) :
    ∀ value error, failures setting property value = .error error →
      StopsInside setting.mode property value error := by
  induction property with
  | node shape rules fallback extras ih =>
      intro value error failed
      have none : rules = [] := ruleless.here
      subst none
      have each := fun child member => ih child member (ruleless.inside member)
      by_cases absent : value = .absent
      · subst absent
        cases fallback with
        | some default => simp [failures] at failed
        | none =>
            simp only [failures, if_true] at failed
            rcases bind_error_iff.mp failed with inside | ⟨found, _, own⟩
            · exact stopsInside_of_inner ⟨fun _ => rfl, fun present => absurd rfl present⟩ each inside
            · cases own
      · simp only [failures, absent, if_false] at failed
        rcases bind_error_iff.mp failed with refused | ⟨outcome, cast, failed⟩
        · exact ⟨[], _, _, .here, castLeaf_error refused⟩
        · cases outcome with
          | none => cases failed
          | some result =>
              by_cases admitted : shape.type.admits result = true
              · simp only [admitted, Bool.not_true, Bool.false_eq_true, if_false] at failed
                rcases bind_error_iff.mp failed with inside | ⟨found, _, own⟩
                · rcases castLeaf_ok cast with ⟨type, rfl⟩ | same
                  · cases inside
                  · cases same
                    have opens : Opens ⟨shape, [], fallback, extras⟩ value :=
                      ⟨fun missing => absurd missing absent, fun _ => admitted⟩
                    exact stopsInside_of_inner opens each inside
                · cases own
              · simp [admitted] at failed

theorem returned_of_reaches {property target : Property} {value raw : Value} {path : Path}
    (reached : Reaches property value path target raw) {found : Complaints}
    (returned : failures setting property value = .ok found) :
    ∃ inner, failures setting target raw = .ok inner := by
  induction path generalizing property value found with
  | nil =>
      obtain ⟨rfl, rfl⟩ := reaches_nil.mp reached
      exact ⟨found, returned⟩
  | cons segment rest ih =>
      obtain ⟨opens, child, element, inside, reached⟩ := reaches_cons.mp reached
      obtain ⟨inner, _, _, opened, _⟩ := failures_split returned
      obtain ⟨own, ownOk⟩ := innerFailures_each (opened opens) inside
      exact ih reached ownOk

theorem not_returns_of_castLeaf {property : Property} {value : Value} (present : value ≠ .absent)
    (stuck : ¬Returns (castLeaf setting property.type value)) :
    ¬Returns (failures setting property value) := by
  obtain ⟨shape, rules, fallback, extras⟩ := property
  simp only [failures, present, if_false, returns_bind]
  rintro ⟨outcome, cast, _⟩
  exact stuck ⟨outcome, cast⟩

theorem not_returns_of_stops (casts : setting.cast = true) {property : Property} {value : Value}
    {error : WalkError} (stops : Stops setting.mode property value error) :
    ¬Returns (failures setting property value) := by
  cases stops with
  | unreadable numeric same separated =>
      subst same
      have failed := Value.cast_unreadable_iff.mpr ⟨rfl, numeric, separated⟩
      exact not_returns_of_castLeaf nofun
        (castLeaf_stuck casts (isScalar_of_isNumeric numeric) failed nofun)
  | unwritable long =>
      have present : value ≠ .absent := by
        rintro rfl
        exact nomatch long.1
      have failed := Value.cast_integer_iff.mpr ⟨rfl, long⟩
      exact not_returns_of_castLeaf present
        (castLeaf_stuck casts (isScalar_of_overlong long) failed nofun)
  | unnamed strict declares member long =>
      rintro ⟨found, walked⟩
      obtain ⟨inner, _, _, opened, _⟩ := failures_split walked
      -- only a mapping has keys, and one is looked into
      have opens : Opens property value := by
        cases value with
        | dict entries =>
            refine ⟨nofun, fun _ => ?_⟩
            rw [Property.type, declares]
            rfl
        | _ => simp [entriesOf, undeclared] at member
      have inside := opened opens
      rw [declares] at inside
      have named := (innerFailures_object_ok_iff.mp inside).2 strict _ member
      rw [long] at named
      cases named

theorem failures_error_iff (casts : setting.cast = true) {property : Property}
    (ruleless : property.Ruleless) {value : Value} :
    (∃ error, failures setting property value = .error error) ↔
      ∃ error, StopsInside setting.mode property value error := by
  constructor
  · rintro ⟨error, failed⟩
    exact ⟨error, stopsInside_of_error property ruleless value error failed⟩
  · rintro ⟨error, path, target, raw, reached, stops⟩
    refine not_returns_iff.mp ?_
    rintro ⟨found, walked⟩
    exact not_returns_of_stops casts stops (returned_of_reaches reached walked)

end Walk

namespace Schema

variable {schema : Schema} {registry : Registry} {entries : List (Key × Value)}

theorem check_error_iff {error : WalkError} :
    schema.check registry (.dict entries) = .error (.walk error) ↔
      Walk.failures (schema.setting registry (.dict entries)) schema.root (.dict entries) =
        .error error := by
  rw [check_eq]
  cases Walk.failures (schema.setting registry (.dict entries)) schema.root (.dict entries) with
  | error other => simp
  | ok complaints =>
      simp only [reduceCtorEq, iff_false]
      split <;> simp

theorem check_cases (schema : Schema) (registry : Registry) (entries : List (Key × Value)) :
    (∃ report, schema.check registry (.dict entries) = .ok report) ∨
    (∃ paths, schema.mode = .strict ∧
      schema.check registry (.dict entries) = .error (.orphans paths)) ∨
    ∃ error, schema.check registry (.dict entries) = .error (.walk error) := by
  rw [check_eq]
  cases Walk.failures (schema.setting registry (.dict entries)) schema.root (.dict entries) with
  | error error => exact Or.inr (Or.inr ⟨error, rfl⟩)
  | ok complaints =>
      dsimp only
      split
      · exact Or.inl ⟨_, rfl⟩
      · rename_i named
        refine Or.inr (Or.inl ⟨_, ?_, rfl⟩)
        have mode : (schema.setting registry (.dict entries)).mode = schema.mode := rfl
        rw [Walk.reported, mode] at named
        split at named
        · assumption
        · exact absurd rfl named

/-- What stops the check of a record, with the error: a field that the walk comes to. -/
def StopsAt (schema : Schema) (record : Value) (path : Path) (property : Property) (value : Value)
    (error : WalkError) : Prop :=
  schema.Location record path property value ∧ Walk.Stops schema.mode property value error

/-- A cast gives a value or refuses one, and the exceptions are numeric texts with a separator and
values with an integer that is too long for a text. A check that casts, against a schema without
rules, gives a report or names undeclared keys, unless it stops: then it has come to a field that
stops it, and where there is such a field it does. -/
theorem casting_outcomes (schema : Schema) (registry : Registry) (entries : List (Key × Value))
    (casts : schema.cast = true) (ruleless : schema.root.Ruleless) :
    (∀ (target : FieldType) (value : Value), (∃ result, value.cast target = .ok result) ∨
      value.cast target = .error (.refused value target) ∨
        (∃ text, value.cast target = .error (.unreadable text)) ∨
          value.cast target = .error (.integer .unwritable)) ∧
    (∀ (target : FieldType) (value : Value) (text : String),
      value.cast target = .error (.unreadable text) ↔
        value = .text text ∧ target.isNumeric = true ∧ Value.Separated text) ∧
    (∀ (target : FieldType) (value : Value),
      value.cast target = .error (.integer .unwritable) ↔ Value.Overlong target value) ∧
    ((∃ report, schema.check registry (.dict entries) = .ok report) ∨
      (∃ paths, schema.mode = .strict ∧
        schema.check registry (.dict entries) = .error (.orphans paths)) ∨
      ∃ error, schema.check registry (.dict entries) = .error (.walk error)) ∧
    ((∃ error, schema.check registry (.dict entries) = .error (.walk error)) ↔
      ∃ path property value error, schema.StopsAt (.dict entries) path property value error) ∧
    ∀ error, schema.check registry (.dict entries) = .error (.walk error) →
      ∃ path property value, schema.StopsAt (.dict entries) path property value error := by
  refine ⟨?_, fun target value text => Value.cast_unreadable_iff, ?_,
    check_cases schema registry entries, ?_, ?_⟩
  · intro target value
    cases outcome : value.cast target with
    | ok result => exact Or.inl ⟨result, rfl⟩
    | error error =>
        cases error with
        | unreadable text => exact Or.inr (Or.inr (Or.inl ⟨text, rfl⟩))
        | refused refused other =>
            obtain ⟨rfl, rfl⟩ := Value.cast_refused outcome
            exact Or.inr (Or.inl rfl)
        | integer fault =>
            obtain ⟨rfl, _⟩ := Value.cast_integer_iff.mp outcome
            exact Or.inr (Or.inr (Or.inr rfl))
  · intro target value
    rw [Value.cast_integer_iff]
    exact and_iff_right rfl
  · simp only [check_error_iff]
    rw [Walk.failures_error_iff casts ruleless]
    constructor
    · rintro ⟨error, path, target, raw, stops⟩
      exact ⟨path, target, raw, error, stops⟩
    · rintro ⟨path, target, raw, error, stops⟩
      exact ⟨error, path, target, raw, stops⟩
  · intro error failed
    exact Walk.stopsInside_of_error schema.root ruleless _ error (check_error_iff.mp failed)

def pricing : Schema where
  mode := .filter
  cast := true
  members := [("prices", ⟨.array (some ⟨.scalar .number, [], none, []⟩), [], none, []⟩)]
  extras := []

theorem pricing_ruleless : pricing.root.Ruleless := by
  refine .node rfl ?_
  intro child inside
  rw [List.mem_singleton.mp inside]
  refine .node rfl ?_
  intro item inside
  rw [List.mem_singleton.mp inside]
  exact .node rfl (by simp)

def priced : List (Key × Value) := [(.text "prices", .list [.int 1, .text "\x1c1"])]

theorem pricing_unreadable :
    pricing.cast = true ∧ pricing.root.Ruleless ∧
      pricing.check .empty (.dict priced) = .error (.walk (.unreadable "\x1c1")) ∧
      ∃ path property value,
        pricing.StopsAt (.dict priced) path property value (.unreadable "\x1c1") := by
  have failed : pricing.check .empty (.dict priced) = .error (.walk (.unreadable "\x1c1")) := rfl
  have outcomes := casting_outcomes pricing .empty priced rfl pricing_ruleless
  exact ⟨rfl, pricing_ruleless, failed, outcomes.2.2.2.2.2 _ failed⟩

end Schema

end RecordCheck
