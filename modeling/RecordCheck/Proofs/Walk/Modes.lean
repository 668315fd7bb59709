import RecordCheck.Proofs.Walk.Rebuilt

/-!
How the mode shows in a walk. Where no undeclared key is met the mode does not show at all, and where
one is met that has no name the strict mode brings the walk to a halt.
-/

namespace RecordCheck

def Setting.inMode (setting : Setting) (mode : Mode) : Setting := { setting with mode }

namespace Walk

def Named (found : List Stray) : Prop := ∀ stray ∈ found, stray.2.writable = true

instance (found : List Stray) : Decidable (Named found) :=
  inferInstanceAs (Decidable (∀ _ ∈ _, _))

/-- The mode of a walk may be changed unnoticed: both modes keep undeclared keys, or both drop
them, or there are none. Those that there are have names. -/
structure Unnoticed (setting : Setting) (mode : Mode) (found : List Stray) : Prop where
  kept : (setting.mode = .loose ↔ mode = .loose) ∨ found = []
  named : Named found

section Unnoticed

variable {setting : Setting} {mode : Mode}

theorem unnoticed_nil : Unnoticed setting mode [] := ⟨Or.inr rfl, by simp [Named]⟩

theorem named_append {first second : List Stray} :
    Named (first ++ second) ↔ Named first ∧ Named second := by
  simp only [Named, List.forall_mem_append]

@[simp] theorem named_inside {hop : Hop} {found : List Stray} :
    Named (found.map (Stray.inside hop)) ↔ Named found := by
  simp only [Named, List.forall_mem_map, Stray.inside]

theorem unnoticed_append {first second : List Stray} :
    Unnoticed setting mode (first ++ second) ↔
      Unnoticed setting mode first ∧ Unnoticed setting mode second := by
  constructor
  · rintro ⟨kept, named⟩
    obtain ⟨one, other⟩ := named_append.mp named
    refine ⟨⟨kept.imp_right ?_, one⟩, ⟨kept.imp_right ?_, other⟩⟩
    · exact fun none => (List.append_eq_nil_iff.mp none).1
    · exact fun none => (List.append_eq_nil_iff.mp none).2
  · rintro ⟨⟨kept, one⟩, ⟨others, other⟩⟩
    refine ⟨?_, named_append.mpr ⟨one, other⟩⟩
    rw [List.append_eq_nil_iff, or_and_left]
    exact ⟨kept, others⟩

theorem unnoticed_inside {hop : Hop} {found : List Stray} :
    Unnoticed setting mode (found.map (Stray.inside hop)) ↔ Unnoticed setting mode found := by
  constructor
  · rintro ⟨kept, named⟩
    exact ⟨kept.imp_right List.map_eq_nil_iff.mp, named_inside.mp named⟩
  · rintro ⟨kept, named⟩
    exact ⟨kept.imp_right List.map_eq_nil_iff.mpr, named_inside.mpr named⟩

section Own

variable {members : List (String × Property)} {entries : List (Key × Value)}
  (unnoticed : Unnoticed setting mode ((undeclared members entries).map fun entry => ([], entry.1)))

include unnoticed

theorem kept_inMode : kept (setting.inMode mode) members entries = kept setting members entries := by
  obtain ⟨own, cast, registry, record⟩ := setting
  rcases unnoticed.kept with same | none
  · cases own <;> cases mode <;> simp [kept, Setting.inMode] at same ⊢
  · rw [List.map_eq_nil_iff] at none
    cases own <;> cases mode <;> simp [kept, Setting.inMode, none]

theorem nameable_of_unnoticed (other : Setting) : Nameable other members entries :=
  fun _ => List.forall_mem_map.mp unnoticed.named

theorem nameKeys_inMode :
    nameKeys (setting.inMode mode) members entries = nameKeys setting members entries := by
  rw [nameKeys, nameKeys, if_pos (nameable_of_unnoticed unnoticed _),
    if_pos (nameable_of_unnoticed unnoticed _)]

end Own

theorem applyRules_inMode (value : Value) (path : Path) (rules : List Directive) :
    applyRules (setting.inMode mode) value path rules = applyRules setting value path rules := by
  induction rules with
  | nil => rfl
  | cons directive rest ih =>
      simp only [applyRules, ih]
      rfl

theorem applyMissingRules_inMode (path : Path) (rules : List Directive) :
    applyMissingRules (setting.inMode mode) path rules =
      applyMissingRules setting path rules := by
  induction rules with
  | nil => rfl
  | cons directive rest ih =>
      simp only [applyMissingRules, ih]
      rfl

/-- The passes over one field do not notice another mode. -/
def SameIn (setting : Setting) (mode : Mode) (property : Property) (value : Value) : Prop :=
  normal (setting.inMode mode) property value = normal setting property value ∧
    failures (setting.inMode mode) property value = failures setting property value

theorem members_inMode {members : List (String × Property)} {entries : List (Key × Value)}
    (each : ∀ member ∈ members, ∀ value, Unnoticed setting mode (strays member.2 value) →
      SameIn setting mode member.2 value)
    (unnoticed : Unnoticed setting mode (memberStrays members entries)) :
    normalMembers (setting.inMode mode) members entries = normalMembers setting members entries ∧
      memberFailures (setting.inMode mode) members entries =
        memberFailures setting members entries := by
  induction members with
  | nil => simp [normalMembers, memberFailures]
  | cons member rest ih =>
      obtain ⟨name, child⟩ := member
      rw [memberStrays, unnoticed_append] at unnoticed
      obtain ⟨first, later⟩ := unnoticed
      obtain ⟨normalEq, failuresEq⟩ := each (name, child) List.mem_cons_self
        (fieldValue name entries) (unnoticed_inside.mp first)
      obtain ⟨restNormal, restFailures⟩ :=
        ih (fun other inside => each other (List.mem_cons_of_mem _ inside)) later
      dsimp only at normalEq failuresEq
      simp only [normalMembers, memberFailures, normalEq, failuresEq, restNormal, restFailures,
        and_self]

theorem items_inMode {item : Property} {position : Nat} {items : List Value}
    (each : ∀ value, Unnoticed setting mode (strays item value) → SameIn setting mode item value)
    (unnoticed : Unnoticed setting mode (itemStrays (strays item) position items)) :
    items.map (normal (setting.inMode mode) item) = items.map (normal setting item) ∧
      itemFailures (failures (setting.inMode mode) item) position items =
        itemFailures (failures setting item) position items := by
  induction items generalizing position with
  | nil => simp [itemFailures]
  | cons value rest ih =>
      rw [itemStrays, unnoticed_append] at unnoticed
      obtain ⟨first, later⟩ := unnoticed
      obtain ⟨normalEq, failuresEq⟩ := each value (unnoticed_inside.mp first)
      obtain ⟨restNormal, restFailures⟩ := ih later
      simp only [List.map_cons, itemFailures, normalEq, failuresEq, restNormal, restFailures,
        and_self]

theorem inside_inMode {shape : Shape Property} {value : Value}
    (each : ∀ child ∈ shape.children, ∀ value, Unnoticed setting mode (strays child value) →
      SameIn setting mode child value)
    (unnoticed : Unnoticed setting mode (innerStrays shape value)) :
    normalInside (setting.inMode mode) shape value = normalInside setting shape value ∧
      innerFailures (setting.inMode mode) shape value = innerFailures setting shape value := by
  rcases shape with type | (_ | members) | (_ | item)
  · simp [normalInside, innerFailures]
  · simp [normalInside, innerFailures]
  · rw [innerStrays, unnoticed_append] at unnoticed
    obtain ⟨declared, others⟩ := unnoticed
    have keptEq := kept_inMode others
    have keysEq := nameKeys_inMode others
    obtain ⟨normalEq, failuresEq⟩ := members_inMode (fun member inside =>
      each member.2 (List.mem_map_of_mem (f := Prod.snd) inside)) declared
    simp only [normalInside, innerFailures, keptEq, keysEq, normalEq, failuresEq, and_self]
  · simp [normalInside, innerFailures]
  · obtain ⟨normalEq, failuresEq⟩ := items_inMode (each item (by simp)) unnoticed
    simp only [normalInside, innerFailures, normalEq, failuresEq, and_self]

theorem absent_inMode {shape : Shape Property}
    (each : ∀ child ∈ shape.children, ∀ value, Unnoticed setting mode (strays child value) →
      SameIn setting mode child value) :
    normalAbsent (setting.inMode mode) shape = normalAbsent setting shape ∧
      innerFailures (setting.inMode mode) shape .absent = innerFailures setting shape .absent := by
  rcases shape with type | (_ | members) | (_ | item)
  · simp [normalAbsent, innerFailures]
  · simp [normalAbsent, innerFailures]
  · have nothing : Unnoticed setting mode (memberStrays members []) := by
      rw [memberStrays_nil]
      exact unnoticed_nil
    obtain ⟨normalEq, failuresEq⟩ := members_inMode (fun member inside =>
      each member.2 (List.mem_map_of_mem (f := Prod.snd) inside)) nothing
    simp only [normalAbsent, innerFailures, entriesOf, nameKeys_nil, normalEq, failuresEq, and_self]
  · simp [normalAbsent, innerFailures]
  · simp [normalAbsent, innerFailures, itemsOf, itemFailures]

theorem same_inMode (property : Property) : ∀ value,
    Unnoticed setting mode (strays property value) → SameIn setting mode property value := by
  induction property with
  | node shape rules fallback extras ih =>
      intro value unnoticed
      have castEq : ∀ type value, castLeaf (setting.inMode mode) type value =
          castLeaf setting type value := fun _ _ => rfl
      by_cases absent : value = .absent
      · obtain ⟨normalEq, failuresEq⟩ := absent_inMode ih
        subst absent
        cases fallback <;>
          simp [SameIn, normal, failures, normalEq, failuresEq, applyMissingRules_inMode]
      · simp only [SameIn, normal, failures, absent, if_false, castEq]
        cases cast : castLeaf setting shape.type value with
        | error error => simp [Except.bind]
        | ok outcome =>
            cases outcome with
            | none => simp [Except.bind]
            | some result =>
                rw [strays_of_cast setting ⟨shape, rules, fallback, extras⟩ absent cast]
                  at unnoticed
                by_cases admitted : shape.type.admits result = true
                · rw [if_pos admitted] at unnoticed
                  obtain ⟨normalEq, failuresEq⟩ := inside_inMode ih unnoticed
                  simp only [Except.bind, admitted, normalEq, failuresEq, applyRules_inMode,
                    and_self]
                · simp [Except.bind, admitted]

end Unnoticed

theorem strict_ne_loose : Mode.strict ≠ .loose := nofun

section Unnamed

variable {setting : Setting} (own : setting.mode ≠ .loose)

/-- Where a key has no name, the strict mode fails if the walk comes to an end otherwise. -/
def Halts (setting : Setting) (property : Property) (value : Value) : Prop :=
  ¬Named (strays property value) → Returns (failures setting property value) →
    failures (setting.inMode .strict) property value = .error (.integer .unwritable)

include own

theorem same_inStrict {property : Property} {value : Value}
    (named : Named (strays property value)) : SameIn setting .strict property value :=
  same_inMode property value ⟨Or.inl (iff_of_false own strict_ne_loose), named⟩

theorem members_halt {members : List (String × Property)} {entries : List (Key × Value)}
    (each : ∀ member ∈ members, ∀ value, Halts setting member.2 value)
    (unnamed : ¬Named (memberStrays members entries))
    (returns : Returns (memberFailures setting members entries)) :
    memberFailures (setting.inMode .strict) members entries = .error (.integer .unwritable) := by
  induction members with
  | nil => exact absurd (by simp [memberStrays, Named]) unnamed
  | cons member rest ih =>
      obtain ⟨name, child⟩ := member
      rw [memberStrays, named_append, named_inside] at unnamed
      obtain ⟨found, walked, later⟩ := returns_bind.mp returns
      rw [memberFailures]
      by_cases named : Named (strays child (fieldValue name entries))
      · -- the key without a name is met in a later field
        have others := ih (fun other inside => each other (List.mem_cons_of_mem _ inside))
          (fun named' => unnamed ⟨named, named'⟩) (returns_map.mp later)
        rw [(same_inStrict own named).2, walked, others]
        rfl
      · rw [each (name, child) List.mem_cons_self _ named ⟨found, walked⟩]
        rfl

theorem items_halt {item : Property} {position : Nat} {items : List Value}
    (each : ∀ value, Halts setting item value)
    (unnamed : ¬Named (itemStrays (strays item) position items))
    (returns : Returns (itemFailures (failures setting item) position items)) :
    itemFailures (failures (setting.inMode .strict) item) position items =
      .error (.integer .unwritable) := by
  induction items generalizing position with
  | nil => exact absurd (by simp [itemStrays, Named]) unnamed
  | cons value rest ih =>
      rw [itemStrays, named_append, named_inside] at unnamed
      obtain ⟨found, walked, later⟩ := returns_bind.mp returns
      rw [itemFailures]
      by_cases named : Named (strays item value)
      · have others := ih (fun named' => unnamed ⟨named, named'⟩) (returns_map.mp later)
        rw [(same_inStrict own named).2, walked, others]
        rfl
      · rw [each value named ⟨found, walked⟩]
        rfl

theorem inside_halts {shape : Shape Property} {value : Value}
    (each : ∀ child ∈ shape.children, ∀ value, Halts setting child value)
    (unnamed : ¬Named (innerStrays shape value))
    (returns : Returns (innerFailures setting shape value)) :
    innerFailures (setting.inMode .strict) shape value = .error (.integer .unwritable) := by
  rcases shape with type | (_ | members) | (_ | item)
  · exact absurd (by simp [innerStrays, Named]) unnamed
  · exact absurd (by simp [innerStrays, Named]) unnamed
  · obtain ⟨found, walked⟩ := returns
    have walked := (innerFailures_object_ok_iff.mp walked).1
    refine innerFailures_object_error_iff.mpr ?_
    by_cases declared : Named (memberStrays members (entriesOf value))
    · -- the key without a name is one of the object's own
      have unnoticed : Unnoticed setting .strict (memberStrays members (entriesOf value)) :=
        ⟨Or.inl (iff_of_false own strict_ne_loose), declared⟩
      have same := (members_inMode (fun member _ => same_inMode member.2) unnoticed).2
      refine Or.inr ⟨⟨found, same.trans walked⟩, fun nameable => unnamed ?_, rfl⟩
      exact named_append.mpr ⟨declared, List.forall_mem_map.mpr (nameable rfl)⟩
    · exact Or.inl (members_halt own (fun member inside =>
        each member.2 (List.mem_map_of_mem (f := Prod.snd) inside)) declared ⟨found, walked⟩)
  · exact absurd (by simp [innerStrays, Named]) unnamed
  · exact items_halt own (each item (by simp)) unnamed returns

theorem halts (property : Property) : ∀ value, Halts setting property value := by
  induction property with
  | node shape rules fallback extras ih =>
      intro value unnamed returns
      have present : value ≠ .absent := by
        rintro rfl
        exact unnamed (by simp [strays_absent, Named])
      have castEq : castLeaf (setting.inMode .strict) shape.type value =
          castLeaf setting shape.type value := rfl
      simp only [failures, present, if_false] at returns ⊢
      obtain ⟨outcome, cast, returns⟩ := returns_bind.mp returns
      cases outcome with
      | none =>
          rw [strays_of_refusal setting ⟨shape, rules, fallback, extras⟩ cast] at unnamed
          exact absurd (by simp [Named]) unnamed
      | some result =>
          rw [strays_of_cast setting ⟨shape, rules, fallback, extras⟩ present cast] at unnamed
          by_cases admitted : shape.type.admits result = true
          · simp only [admitted, Bool.not_true, Bool.false_eq_true, if_false] at returns
            rw [if_pos admitted] at unnamed
            obtain ⟨found, walked, _⟩ := returns_bind.mp returns
            rw [castEq, cast]
            simp only [Except.bind, admitted, Bool.not_true, Bool.false_eq_true, if_false]
            rw [inside_halts own ih unnamed ⟨found, walked⟩]
          · rw [if_neg admitted] at unnamed
            exact absurd (by simp [Named]) unnamed

end Unnamed

end Walk

end RecordCheck
