import RecordCheck.Proofs.Walk.Places
import RecordCheck.Proofs.Walk.Settled

/-!
The same walk with and without casts. Main statement: without rules, a walk that casts complains
about some of what the other complains about, in the same order and words, and a leaf that is of its
type without a cast stays equal to what it was.
-/

namespace RecordCheck

def Setting.withCast (setting : Setting) (cast : Bool) : Setting := { setting with cast }

namespace Walk

variable {setting : Setting}

theorem castLeaf_of_cast (casts : setting.cast = true) {type : ScalarType} {value result : Value}
    (cast : value.cast (.scalar type) = .ok result) :
    castLeaf setting (.scalar type) value = .ok (some result) := by
  simp [castLeaf, casts, FieldType.isScalar, cast]

theorem admits_of_castLeaf (casts : setting.cast = true) {type : ScalarType}
    {value result : Value} (cast : castLeaf setting (.scalar type) value = .ok (some result)) :
    (FieldType.scalar type).admits result = true := by
  simp only [castLeaf, casts, FieldType.isScalar, Bool.and_self, if_true] at cast
  split at cast
  · rename_i castOk
    cases cast
    exact Value.admits_of_cast castOk
  · cases cast
  · cases cast
  · cases cast

/-- A leaf that can be cast is complained about by its rules only. -/
theorem fails_of_cast (casts : setting.cast = true) {property : Property} {type : ScalarType}
    (leaf : property.shape = .scalar type) {value result : Value} (present : value ≠ .absent)
    (cast : value.cast (.scalar type) = .ok result) (complaint : Complaint) :
    Fails setting property value complaint ↔
      FirstComplaint (Rejects setting result) property.rules complaint := by
  have kind : property.type = .scalar type := congrArg Shape.type leaf
  have outcome : castLeaf setting property.type value = .ok (some result) := by
    rw [kind, castLeaf_of_cast casts cast]
  have admitted : property.type.admits result = true := by
    rw [kind, Value.admits_of_cast cast]
  have normalised : normal setting property value = result := by
    rw [normal_of_admitted property present outcome admitted, leaf]
    rfl
  rw [fails_of_admitted present outcome admitted, normalised]

/-- Where both passes return, the first has some of the complaints of the second, in that order. -/
def Fewer (less more : Except WalkError Complaints) : Prop :=
  ∀ few many, less = .ok few → more = .ok many → few.Sublist many

namespace Fewer

theorem refl (pass : Except WalkError Complaints) : Fewer pass pass := by
  intro few many fewOk manyOk
  rw [fewOk] at manyOk
  cases manyOk
  exact List.Sublist.refl _

theorem below {less more later others : Except WalkError Complaints} (own : Fewer less more)
    (rest : Fewer later others) (segment : Segment) :
    Fewer (less.bind fun found => later.map fun found' => Walk.below segment found ++ found')
      (more.bind fun found => others.map fun found' => Walk.below segment found ++ found') := by
  intro few many fewOk manyOk
  simp only [bind_ok_iff, map_ok_iff] at fewOk manyOk
  obtain ⟨found, lessOk, found', laterOk, rfl⟩ := fewOk
  obtain ⟨all, moreOk, all', othersOk, rfl⟩ := manyOk
  exact ((own found all lessOk moreOk).map _).append (rest found' all' laterOk othersOk)

theorem alone {less more : Except WalkError Complaints} (inner : Fewer less more) :
    Fewer (less.bind fun found => (Except.ok Findings.none).map fun later =>
        found ++ later.complaints)
      (more.bind fun found => (Except.ok Findings.none).map fun later =>
        found ++ later.complaints) := by
  intro few many fewOk manyOk
  simp only [bind_ok_iff, Except.map, Findings.none, List.append_nil, Except.ok.injEq]
    at fewOk manyOk
  obtain ⟨_, lessOk, rfl⟩ := fewOk
  obtain ⟨_, moreOk, rfl⟩ := manyOk
  exact inner _ _ lessOk moreOk

end Fewer

section Failures

variable (setting)

abbrev Relieved (property : Property) : Prop :=
  ∀ value, Fewer (failures (setting.withCast true) property value)
    (failures (setting.withCast false) property value)

variable {setting}

theorem memberFailures_relieved {members : List (String × Property)}
    (each : ∀ member ∈ members, Relieved setting member.2) (entries : List (Key × Value)) :
    Fewer (memberFailures (setting.withCast true) members entries)
      (memberFailures (setting.withCast false) members entries) := by
  induction members with
  | nil => exact Fewer.refl _
  | cons member rest ih =>
      obtain ⟨name, child⟩ := member
      have own := each (name, child) List.mem_cons_self (fieldValue name entries)
      have later := ih fun other inside => each other (List.mem_cons_of_mem _ inside)
      exact own.below later (.name name)

theorem itemFailures_relieved {item : Property} (each : Relieved setting item) (position : Nat)
    (items : List Value) :
    Fewer (itemFailures (failures (setting.withCast true) item) position items)
      (itemFailures (failures (setting.withCast false) item) position items) := by
  induction items generalizing position with
  | nil => exact Fewer.refl _
  | cons value rest ih => exact (each value).below (ih (position + 1)) (.index position)

theorem innerFailures_relieved {shape : Shape Property}
    (each : ∀ child ∈ shape.children, Relieved setting child) (value : Value) :
    Fewer (innerFailures (setting.withCast true) shape value)
      (innerFailures (setting.withCast false) shape value) := by
  rcases shape with type | (_ | members) | (_ | item)
  · exact Fewer.refl _
  · exact Fewer.refl _
  · intro few many fewOk manyOk
    exact memberFailures_relieved (fun member inside => each member.2 (List.mem_map_of_mem inside))
      (entriesOf value) few many (innerFailures_object_ok_iff.mp fewOk).1
      (innerFailures_object_ok_iff.mp manyOk).1
  · exact Fewer.refl _
  · exact itemFailures_relieved (each item (by simp)) 0 (itemsOf value)

theorem failures_leaf {type : ScalarType} {value : Value} (present : value ≠ .absent)
    (fallback : Option Value) (extras : List (Key × Value)) :
    Fewer (failures (setting.withCast true) ⟨.scalar type, [], fallback, extras⟩ value)
      (failures (setting.withCast false) ⟨.scalar type, [], fallback, extras⟩ value) := by
  intro few many fewOk manyOk
  simp only [failures, present, if_false, Shape.type, bind_ok_iff] at fewOk manyOk
  obtain ⟨outcome, cast, fewOk⟩ := fewOk
  obtain ⟨_, same, manyOk⟩ := manyOk
  cases same
  cases outcome with
  | some result =>
      -- what a leaf is cast to is of its type, and there is nothing to complain of
      have admitted := admits_of_castLeaf rfl cast
      simp only [admitted, Bool.not_true, Bool.false_eq_true, if_false] at fewOk
      cases fewOk
      exact List.nil_sublist many
  | none =>
      by_cases admitted : (FieldType.scalar type).admits value = true
      · obtain ⟨result, castOk, _⟩ := Value.cast_of_admits admitted
        rw [castLeaf_of_cast rfl castOk] at cast
        cases cast
      · simp only [admitted, Bool.not_false, if_true] at manyOk
        cases fewOk
        cases manyOk
        exact List.Sublist.refl _

theorem failures_container {shape : Shape Property} (container : shape.type.isScalar = false)
    (inner : ∀ value, Fewer (innerFailures (setting.withCast true) shape value)
      (innerFailures (setting.withCast false) shape value))
    {value : Value} (present : value ≠ .absent) (fallback : Option Value)
    (extras : List (Key × Value)) :
    Fewer (failures (setting.withCast true) ⟨shape, [], fallback, extras⟩ value)
      (failures (setting.withCast false) ⟨shape, [], fallback, extras⟩ value) := by
  simp only [failures, present, if_false, castLeaf_container _ container, Except.bind]
  by_cases admitted : shape.type.admits value = true
  · simp only [admitted, Bool.not_true, Bool.false_eq_true, if_false]
    exact (inner value).alone
  · simp only [admitted, Bool.not_false, if_true]
    exact Fewer.refl _

theorem failures_relieved (property : Property)
    (ruleless : property.Everywhere fun node => node.rules = []) : Relieved setting property := by
  induction property with
  | node shape rules fallback extras ih =>
      have none : rules = [] := ruleless.here
      subst none
      have inner := innerFailures_relieved fun child member =>
        ih child member (ruleless.inside member)
      intro value
      by_cases absent : value = .absent
      · cases fallback with
        | some default =>
            simp only [failures, absent, if_true]
            exact Fewer.refl _
        | none =>
            simp only [failures, absent, if_true]
            exact (inner .absent).alone
      · cases shape with
        | scalar type => exact failures_leaf absent fallback extras
        | object members => exact failures_container rfl inner absent fallback extras
        | array item => exact failures_container rfl inner absent fallback extras

end Failures

theorem normal_leaf_same {property : Property} {type : ScalarType}
    (leaf : property.shape = .scalar type) {value : Value} (casts : setting.cast = true)
    (admitted : property.type.admits value = true) :
    (normal setting property value).same value = true := by
  obtain ⟨shape, rules, fallback, extras⟩ := property
  cases leaf
  obtain ⟨result, cast, same⟩ := Value.cast_of_admits admitted
  rw [normal_of_admitted ⟨.scalar type, rules, fallback, extras⟩ (ne_absent_of_admits admitted)
    (castLeaf_of_cast casts cast) (Value.admits_of_cast cast)]
  exact same

end Walk

end RecordCheck
