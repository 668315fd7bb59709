import RecordCheck.Proofs.Outcome
import RecordCheck.Proofs.Walk.Passes

/-!
Schemas stripped of their rules. The walk of a stripped property gives the same value and meets the
same undeclared keys, and of the complaints it leaves out those of the rules and no others.
-/

namespace RecordCheck

namespace Property

mutual

/-- A property without rules, at every level; all else stays. -/
def withoutRules (property : Property) : Property :=
  match property with
  | ⟨shape, _, fallback, extras⟩ => ⟨shapeWithoutRules shape, [], fallback, extras⟩

def shapeWithoutRules (shape : Shape Property) : Shape Property :=
  match shape with
  | .scalar type => .scalar type
  | .object none => .object none
  | .object (some members) => .object (some (membersWithoutRules members))
  | .array none => .array none
  | .array (some item) => .array (some (withoutRules item))

def membersWithoutRules (members : List (String × Property)) : List (String × Property) :=
  match members with
  | [] => []
  | (name, property) :: rest => (name, withoutRules property) :: membersWithoutRules rest

end

@[simp] theorem shapeWithoutRules_type (shape : Shape Property) :
    (shapeWithoutRules shape).type = shape.type := by
  rcases shape with type | (_ | members) | (_ | item) <;> rfl

theorem lookup_membersWithoutRules (name : String) (members : List (String × Property)) :
    (membersWithoutRules members).lookup name = (members.lookup name).map withoutRules := by
  induction members with
  | nil => rfl
  | cons member rest ih =>
      obtain ⟨known, property⟩ := member
      simp only [membersWithoutRules, List.lookup_cons, ih]
      split <;> rfl

end Property

def Schema.withoutRules (schema : Schema) : Schema :=
  { schema with members := Property.membersWithoutRules schema.members }

namespace Walk

open Property

theorem undeclared_withoutRules (members : List (String × Property))
    (entries : List (Key × Value)) :
    undeclared (membersWithoutRules members) entries = undeclared members entries := by
  have declared : ∀ key, isDeclared (membersWithoutRules members) key = isDeclared members key := by
    intro key
    cases key with
    | text name => simp [isDeclared, lookup_membersWithoutRules]
    | _ => rfl
  simp only [undeclared, declared]

section Strays

variable {members : List (String × Property)}

theorem memberStrays_withoutRules
    (each : ∀ member ∈ members, ∀ value,
      strays member.2.withoutRules value = strays member.2 value) (entries : List (Key × Value)) :
    memberStrays (membersWithoutRules members) entries = memberStrays members entries := by
  induction members with
  | nil => rfl
  | cons member rest ih =>
      obtain ⟨name, child⟩ := member
      have own := each (name, child) List.mem_cons_self (fieldValue name entries)
      have later := ih fun other inside => each other (List.mem_cons_of_mem _ inside)
      rw [membersWithoutRules, memberStrays, memberStrays, own, later]

theorem strays_withoutRules (property : Property) : ∀ value,
    strays property.withoutRules value = strays property value := by
  induction property with
  | node shape rules fallback extras ih =>
      intro value
      have inside : innerStrays (shapeWithoutRules shape) value = innerStrays shape value := by
        rcases shape with type | (_ | members) | (_ | item)
        · rfl
        · rfl
        · have declared := memberStrays_withoutRules (fun member inside =>
            ih member.2 (List.mem_map_of_mem inside)) (entriesOf value)
          rw [shapeWithoutRules, innerStrays, innerStrays, declared, undeclared_withoutRules]
        · rfl
        · have itemEq : strays item.withoutRules = strays item := funext (ih item (by simp))
          rw [shapeWithoutRules, innerStrays, innerStrays, itemEq]
      rw [withoutRules, strays, strays, inside, shapeWithoutRules_type]

end Strays

section Normal

variable {setting : Setting}

theorem kept_withoutRules (members : List (String × Property)) (entries : List (Key × Value)) :
    kept setting (membersWithoutRules members) entries = kept setting members entries := by
  rw [kept, kept, undeclared_withoutRules]

theorem normalMembers_withoutRules {members : List (String × Property)}
    (each : ∀ member ∈ members, ∀ value,
      normal setting member.2.withoutRules value = normal setting member.2 value)
    (entries : List (Key × Value)) :
    normalMembers setting (membersWithoutRules members) entries =
      normalMembers setting members entries := by
  induction members with
  | nil => rfl
  | cons member rest ih =>
      obtain ⟨name, child⟩ := member
      have own := each (name, child) List.mem_cons_self (fieldValue name entries)
      have later := ih fun other inside => each other (List.mem_cons_of_mem _ inside)
      rw [membersWithoutRules, normalMembers, normalMembers, own, later]

section Children

variable {shape : Shape Property} (each : ∀ child ∈ shape.children, ∀ value,
  normal setting child.withoutRules value = normal setting child value)

include each

theorem normalInside_withoutRules (value : Value) :
    normalInside setting (shapeWithoutRules shape) value = normalInside setting shape value := by
  rcases shape with type | (_ | members) | (_ | item)
  · rfl
  · rfl
  · have declared := normalMembers_withoutRules (fun member inside =>
      each member.2 (List.mem_map_of_mem inside)) (entriesOf value)
    rw [shapeWithoutRules, normalInside, normalInside, declared, kept_withoutRules]
  · rfl
  · have itemEq : normal setting item.withoutRules = normal setting item :=
      funext (each item (by simp))
    rw [shapeWithoutRules, normalInside, normalInside, itemEq]

theorem normalAbsent_withoutRules :
    normalAbsent setting (shapeWithoutRules shape) = normalAbsent setting shape := by
  rcases shape with type | (_ | members) | (_ | item)
  · rfl
  · rfl
  · have declared := normalMembers_withoutRules (fun member inside =>
      each member.2 (List.mem_map_of_mem inside)) []
    rw [shapeWithoutRules, normalAbsent, normalAbsent, declared]
  · rfl
  · rfl

end Children

theorem normal_withoutRules (property : Property) : ∀ value,
    normal setting property.withoutRules value = normal setting property value := by
  induction property with
  | node shape rules fallback extras ih =>
      intro value
      simp only [withoutRules, normal, normalInside_withoutRules ih, normalAbsent_withoutRules ih,
        shapeWithoutRules_type]

end Normal

/-- Where one pass returns so does the other, with complaints that the first has in that order. -/
def FindsLess (less more : Except WalkError Complaints) : Prop :=
  ∀ complaints, more = .ok complaints → ∃ fewer, less = .ok fewer ∧ fewer.Sublist complaints

namespace FindsLess

theorem refl (pass : Except WalkError Complaints) : FindsLess pass pass :=
  fun complaints returned => ⟨complaints, returned, List.Sublist.refl _⟩

theorem below {less more later others : Except WalkError Complaints} (own : FindsLess less more)
    (rest : FindsLess later others) (segment : Segment) :
    FindsLess (less.bind fun found => later.map fun found' => Walk.below segment found ++ found')
      (more.bind fun found => others.map fun found' => Walk.below segment found ++ found') := by
  intro complaints returned
  simp only [bind_ok_iff, map_ok_iff] at returned
  obtain ⟨found, moreOk, found', othersOk, rfl⟩ := returned
  obtain ⟨fewer, lessOk, ownSublist⟩ := own found moreOk
  obtain ⟨fewer', laterOk, restSublist⟩ := rest found' othersOk
  refine ⟨Walk.below segment fewer ++ fewer', ?_, (ownSublist.map _).append restSublist⟩
  simp [lessOk, laterOk, Except.bind, Except.map]

theorem inside {less more : Except WalkError Complaints} (inner : FindsLess less more)
    (own : Except WalkError Findings) :
    FindsLess (less.bind fun found => (Except.ok Findings.none).map fun later =>
        found ++ later.complaints)
      (more.bind fun found => own.map fun later => found ++ later.complaints) := by
  intro complaints returned
  simp only [bind_ok_iff, map_ok_iff] at returned
  obtain ⟨found, moreOk, later, _, rfl⟩ := returned
  obtain ⟨fewer, lessOk, sublist⟩ := inner found moreOk
  refine ⟨fewer, ?_, sublist.trans (List.sublist_append_left found later.complaints)⟩
  simp [lessOk, Except.bind, Except.map, Findings.none]

end FindsLess

section Failures

variable {setting : Setting}

theorem memberFailures_withoutRules {members : List (String × Property)}
    (each : ∀ member ∈ members, ∀ value,
      FindsLess (failures setting member.2.withoutRules value) (failures setting member.2 value))
    (entries : List (Key × Value)) :
    FindsLess (memberFailures setting (membersWithoutRules members) entries)
      (memberFailures setting members entries) := by
  induction members with
  | nil => exact FindsLess.refl _
  | cons member rest ih =>
      obtain ⟨name, child⟩ := member
      have own := each (name, child) List.mem_cons_self (fieldValue name entries)
      have later := ih fun other inside => each other (List.mem_cons_of_mem _ inside)
      exact own.below later (.name name)

theorem itemFailures_withoutRules {item : Property}
    (each : ∀ value,
      FindsLess (failures setting item.withoutRules value) (failures setting item value))
    (position : Nat) (items : List Value) :
    FindsLess (itemFailures (failures setting item.withoutRules) position items)
      (itemFailures (failures setting item) position items) := by
  induction items generalizing position with
  | nil => exact FindsLess.refl _
  | cons value rest ih => exact (each value).below (ih (position + 1)) (.index position)

theorem innerFailures_withoutRules {shape : Shape Property}
    (each : ∀ child ∈ shape.children, ∀ value,
      FindsLess (failures setting child.withoutRules value) (failures setting child value))
    (value : Value) : FindsLess (innerFailures setting (shapeWithoutRules shape) value)
      (innerFailures setting shape value) := by
  rcases shape with type | (_ | members) | (_ | item)
  · exact FindsLess.refl _
  · exact FindsLess.refl _
  · have declared := memberFailures_withoutRules (fun member inside =>
      each member.2 (List.mem_map_of_mem inside)) (entriesOf value)
    intro complaints returned
    obtain ⟨walked, named⟩ := innerFailures_object_ok_iff.mp returned
    obtain ⟨fewer, lessOk, sublist⟩ := declared complaints walked
    refine ⟨fewer, innerFailures_object_ok_iff.mpr ⟨lessOk, ?_⟩, sublist⟩
    rwa [Nameable, undeclared_withoutRules]
  · exact FindsLess.refl _
  · exact itemFailures_withoutRules (each item (by simp)) 0 (itemsOf value)

theorem failures_withoutRules (property : Property) : ∀ value,
    FindsLess (failures setting property.withoutRules value) (failures setting property value) := by
  induction property with
  | node shape rules fallback extras ih =>
      have inner := innerFailures_withoutRules ih
      intro value
      by_cases absent : value = .absent
      · cases fallback with
        | some default =>
            simp only [withoutRules, failures, absent, if_true]
            exact FindsLess.refl _
        | none =>
            simp only [withoutRules, failures, absent, if_true]
            exact (inner .absent).inside (applyMissingRules setting [] rules)
      · simp only [withoutRules, failures, absent, if_false, shapeWithoutRules_type]
        cases castLeaf setting shape.type value with
        | error error => exact FindsLess.refl _
        | ok outcome =>
            cases outcome with
            | none => exact FindsLess.refl _
            | some result =>
                -- a complaint about the type is found by both passes; rules are asked after it
                by_cases admitted : shape.type.admits result = true
                · simp only [Except.bind, admitted, Bool.not_true, Bool.false_eq_true, if_false]
                  exact (inner result).inside
                    (applyRules setting (normalInside setting shape result) [] rules)
                · simp only [Except.bind, admitted, Bool.not_false, if_true]
                  exact FindsLess.refl _

end Failures

end Walk

end RecordCheck
