import RecordCheck.Proofs.Rule.Standard
import RecordCheck.Proofs.Walk.Passes

/-!
What a walk asks its rules. At a field of a type a rule is asked about values of that type, and
about null if it checks missing fields, and about nothing else. So two walks whose rules give the
same answers there find the same; with the standard rules, two walks over records that agree where
the rules look.
-/

namespace RecordCheck.Walk

/-- The values that a rule can be asked about at a field of a type. -/
def Askable (rule : Rule) (type : FieldType) (value : Value) : Prop :=
  type.admits value = true ∨ rule.checkMissing = true ∧ value = .null

inductive SameAnswers (first second : Setting) (type : FieldType) (directive : Directive) : Prop
  | unknown : first.registry.find? directive.name = none →
      second.registry.find? directive.name = none → SameAnswers first second type directive
  | known {one other : Rule} : first.registry.find? directive.name = some one →
      second.registry.find? directive.name = some other →
      one.checkMissing = other.checkMissing →
      (∀ value, Askable one type value →
        one.evaluate value directive.arguments first.record =
          other.evaluate value directive.arguments second.record) →
      SameAnswers first second type directive

theorem admits_normalInside (setting : Setting) {shape : Shape Property} {value : Value}
    (admitted : shape.type.admits value = true) :
    shape.type.admits (normalInside setting shape value) = true := by
  rcases shape with type | (_ | members) | (_ | item)
  · exact admitted
  · exact admitted
  · rfl
  · rfl
  · rfl

section Congr

variable {first second : Setting}

theorem applyRules_congr {type : FieldType} {value : Value}
    (admitted : type.admits value = true) {rules : List Directive}
    (same : ∀ directive ∈ rules, SameAnswers first second type directive) (path : Path) :
    applyRules first value path rules = applyRules second value path rules := by
  induction rules with
  | nil => rfl
  | cons directive rest ih =>
      have later := ih fun other member => same other (List.mem_cons_of_mem _ member)
      rw [applyRules, applyRules, later]
      cases same directive List.mem_cons_self with
      | unknown one other => simp [Registry.contains, one, other]
      | known one other _ answers =>
          have answer := answers value (Or.inl admitted)
          simp [Registry.contains, Registry.evaluate, Registry.get, one, other, Except.bind, answer]

theorem applyMissingRules_congr {type : FieldType} {rules : List Directive}
    (same : ∀ directive ∈ rules, SameAnswers first second type directive) (path : Path) :
    applyMissingRules first path rules = applyMissingRules second path rules := by
  induction rules with
  | nil => rfl
  | cons directive rest ih =>
      have later := ih fun other member => same other (List.mem_cons_of_mem _ member)
      rw [applyMissingRules, applyMissingRules, later]
      cases same directive List.mem_cons_self with
      | unknown one other => simp [one, other]
      | @known rule _ one other checks answers =>
          simp only [one, other, ← checks]
          -- only a rule that checks missing fields is asked, and then about null
          by_cases asked : rule.checkMissing = true
          · rw [answers .null (Or.inr ⟨asked, rfl⟩)]
          · simp [asked]

variable (mode : first.mode = second.mode) (cast : first.cast = second.cast)

include mode in
theorem kept_congr (members : List (String × Property)) (entries : List (Key × Value)) :
    kept first members entries = kept second members entries := by
  rw [kept, kept, mode]

include mode in
theorem nameKeys_congr (members : List (String × Property)) (entries : List (Key × Value)) :
    nameKeys first members entries = nameKeys second members entries := by
  have same : Nameable first members entries ↔ Nameable second members entries := by
    rw [Nameable, Nameable, mode]
  exact if_congr same rfl rfl

include cast in
theorem castLeaf_congr (type : FieldType) (value : Value) :
    castLeaf first type value = castLeaf second type value := by
  rw [castLeaf, castLeaf, cast]

theorem normalMembers_congr {members : List (String × Property)}
    {entries others : List (Key × Value)}
    (each : ∀ member ∈ members, normal first member.2 (fieldValue member.1 entries) =
      normal second member.2 (fieldValue member.1 others)) :
    normalMembers first members entries = normalMembers second members others := by
  induction members with
  | nil => rfl
  | cons member rest ih =>
      obtain ⟨name, child⟩ := member
      have own := each (name, child) List.mem_cons_self
      have later := ih fun other inside => each other (List.mem_cons_of_mem _ inside)
      rw [normalMembers, normalMembers, own, later]

section Children

variable {shape : Shape Property} (each : ∀ child ∈ shape.children, ∀ value,
  normal first child value = normal second child value)

include each

theorem normalAbsent_congr : normalAbsent first shape = normalAbsent second shape := by
  rcases shape with type | (_ | members) | (_ | item)
  · rfl
  · rfl
  · have membersEq : normalMembers first members [] = normalMembers second members [] :=
      normalMembers_congr fun member inside => each member.2 (List.mem_map_of_mem inside) _
    rw [normalAbsent, normalAbsent, membersEq]
  · rfl
  · rfl

include mode in
theorem normalInside_congr (value : Value) :
    normalInside first shape value = normalInside second shape value := by
  rcases shape with type | (_ | members) | (_ | item)
  · rfl
  · rfl
  · have membersEq : normalMembers first members (entriesOf value) =
        normalMembers second members (entriesOf value) :=
      normalMembers_congr fun member inside => each member.2 (List.mem_map_of_mem inside) _
    rw [normalInside, normalInside, membersEq, kept_congr mode]
  · rfl
  · have itemEq : normal first item = normal second item := funext (each item (by simp))
    rw [normalInside, normalInside, itemEq]

end Children

include mode cast in
theorem normal_congr (property : Property) : ∀ value,
    normal first property value = normal second property value := by
  induction property with
  | node shape rules fallback extras ih =>
      intro value
      simp only [normal, castLeaf_congr cast, normalAbsent_congr ih, normalInside_congr mode ih]

theorem memberFailures_congr {members : List (String × Property)}
    {entries others : List (Key × Value)}
    (each : ∀ member ∈ members, failures first member.2 (fieldValue member.1 entries) =
      failures second member.2 (fieldValue member.1 others)) :
    memberFailures first members entries = memberFailures second members others := by
  induction members with
  | nil => rfl
  | cons member rest ih =>
      obtain ⟨name, child⟩ := member
      have own := each (name, child) List.mem_cons_self
      have later := ih fun other inside => each other (List.mem_cons_of_mem _ inside)
      rw [memberFailures, memberFailures, own, later]

include mode in
theorem innerFailures_congr {shape : Shape Property}
    (each : ∀ child ∈ shape.children, ∀ value,
      failures first child value = failures second child value) (value : Value) :
    innerFailures first shape value = innerFailures second shape value := by
  rcases shape with type | (_ | members) | (_ | item)
  · rfl
  · rfl
  · have membersEq : memberFailures first members (entriesOf value) =
        memberFailures second members (entriesOf value) :=
      memberFailures_congr fun member inside =>
        each member.2 (List.mem_map_of_mem (f := Prod.snd) inside) _
    rw [innerFailures, innerFailures, membersEq, nameKeys_congr mode]
  · rfl
  · have items : failures first item = failures second item := funext (each item (by simp))
    rw [innerFailures, innerFailures, items]

include mode cast in
/-- Walks that cast alike and treat undeclared keys alike find the same, if their rules give the
same answers wherever they can be asked. -/
theorem failures_congr (property : Property) (same : property.Everywhere fun node =>
      ∀ directive ∈ node.rules, SameAnswers first second node.type directive) : ∀ value,
    failures first property value = failures second property value := by
  induction property with
  | node shape rules fallback extras ih =>
      intro value
      have own : ∀ directive ∈ rules, SameAnswers first second shape.type directive := same.here
      have inner := innerFailures_congr mode fun child inside => ih child inside (same.inside inside)
      have inside : ∀ value, normalInside first shape value = normalInside second shape value :=
        normalInside_congr mode fun child _ => normal_congr mode cast child
      by_cases absent : value = .absent
      · simp only [failures, absent, if_true, inner, applyMissingRules_congr own]
      · simp only [failures, absent, if_false, inner, castLeaf_congr cast, inside]
        cases castLeaf second shape.type value with
        | error error => rfl
        | ok outcome =>
            cases outcome with
            | none => rfl
            | some result =>
                by_cases admitted : shape.type.admits result = true
                · have asked := admits_normalInside second admitted
                  simp only [Except.bind, applyRules_congr asked own]
                · simp [Except.bind, admitted]

end Congr

/-- With the standard rules the answers depend on the record only where the rules look. -/
theorem sameAnswers_of_reads {first second : Setting} (firstRules : first.registry = Standard.registry)
    (secondRules : second.registry = Standard.registry) {property : Property}
    (same : property.Everywhere fun node => ∀ directive ∈ node.rules,
      ∀ dotted ∈ Standard.reads directive, first.record.lookup dotted = second.record.lookup dotted) :
    property.Everywhere fun node => ∀ directive ∈ node.rules,
      SameAnswers first second node.type directive := by
  refine same.mono fun node each directive member => ?_
  cases found : Standard.registry.find? directive.name with
  | none => exact .unknown (firstRules ▸ found) (secondRules ▸ found)
  | some rule =>
      refine .known (firstRules ▸ found) (secondRules ▸ found) rfl fun value _ => ?_
      rw [Rule.evaluate, Rule.evaluate, Standard.predicate_congr found (each directive member)]

end RecordCheck.Walk
