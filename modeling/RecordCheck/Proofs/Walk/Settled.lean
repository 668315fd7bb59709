import RecordCheck.Proofs.Cast
import RecordCheck.Proofs.Walk.Asked
import RecordCheck.Proofs.Walk.Locations
import RecordCheck.Proofs.Walk.Rebuilt

/-!
Walking twice. Main statement: without defaults, the normalised value of a field about which there
are no complaints is settled. Walking it again changes nothing, finds nothing to complain about, and
meets an undeclared key only in the mode that keeps those.
-/

namespace RecordCheck.Walk

variable {setting : Setting}

/-- A walk leaves the value of the field as it is and has no complaints. -/
structure Settled (setting : Setting) (property : Property) (value : Value) : Prop where
  normal : normal setting property value = value
  failures : failures setting property value = .ok []
  strays : setting.mode ≠ .loose → strays property value = []

theorem castLeaf_again {type : FieldType} {value result : Value}
    (cast : castLeaf setting type value = .ok (some result)) :
    castLeaf setting type result = .ok (some result) := by
  unfold castLeaf at cast ⊢
  split at cast
  · rename_i casts
    rw [if_pos casts]
    split at cast
    · rename_i other castOk
      cases cast
      rw [Value.cast_cast castOk]
    · cases cast
    · cases cast
    · cases cast
  · rename_i casts
    rw [if_neg casts]

theorem itemFailures_eq_nil {failuresOf : Value → Except WalkError Complaints} {position : Nat}
    {items : List Value} : itemFailures failuresOf position items = .ok [] ↔
      ∀ item ∈ items, failuresOf item = .ok [] := by
  induction items generalizing position with
  | nil => simp [itemFailures]
  | cons item rest ih =>
      simp only [itemFailures, bind_ok_iff, map_ok_iff, List.append_eq_nil_iff, below,
        List.map_eq_nil_iff, List.forall_mem_cons]
      constructor
      · rintro ⟨_, own, _, later, rfl, rfl⟩
        exact ⟨own, ih.mp later⟩
      · rintro ⟨own, later⟩
        exact ⟨[], own, [], ih.mpr later, rfl, rfl⟩

theorem memberFailures_eq_nil {members : List (String × Property)}
    {entries : List (Key × Value)} : memberFailures setting members entries = .ok [] ↔
      ∀ member ∈ members, failures setting member.2 (fieldValue member.1 entries) = .ok [] := by
  induction members with
  | nil => simp [memberFailures]
  | cons member rest ih =>
      simp only [memberFailures, bind_ok_iff, map_ok_iff, List.append_eq_nil_iff, below,
        List.map_eq_nil_iff, List.forall_mem_cons]
      constructor
      · rintro ⟨_, own, _, later, rfl, rfl⟩
        exact ⟨own, ih.mp later⟩
      · rintro ⟨own, later⟩
        exact ⟨[], own, [], ih.mpr later, rfl, rfl⟩

theorem itemStrays_eq_nil {straysOf : Value → List Stray} {position : Nat} {items : List Value}
    (each : ∀ item ∈ items, straysOf item = []) : itemStrays straysOf position items = [] := by
  induction items generalizing position with
  | nil => rfl
  | cons item rest ih =>
      rw [itemStrays, each item List.mem_cons_self]
      exact ih fun other inside => each other (List.mem_cons_of_mem _ inside)

theorem memberStrays_eq_nil {members : List (String × Property)} {entries : List (Key × Value)}
    (each : ∀ member ∈ members, strays member.2 (fieldValue member.1 entries) = []) :
    memberStrays members entries = [] := by
  induction members with
  | nil => rfl
  | cons member rest ih =>
      rw [memberStrays, each member List.mem_cons_self]
      exact ih fun other inside => each other (List.mem_cons_of_mem _ inside)

/-- The inside of an admitted value is settled: the three passes over it agree with `Settled`. -/
structure SettledInside (setting : Setting) (shape : Shape Property) (value : Value) : Prop where
  normal : normalInside setting shape value = value
  failures : innerFailures setting shape value = .ok []
  strays : setting.mode ≠ .loose → innerStrays shape value = []

theorem settled_members {members : List (String × Property)}
    (names : (members.map Prod.fst).Nodup) {entries : List (Key × Value)}
    (each : ∀ member ∈ members, Settled setting member.2
      (Walk.normal setting member.2 (fieldValue member.1 entries))) :
    SettledInside setting (.object (some members)) (.dict (rebuilt setting members entries)) := by
  have field : ∀ member ∈ members, fieldValue member.1 (rebuilt setting members entries) =
      Walk.normal setting member.2 (fieldValue member.1 entries) :=
    fun member inside => fieldValue_rebuilt names inside entries
  constructor
  · have again : normalMembers setting members (rebuilt setting members entries) =
        normalMembers setting members entries := by
      refine normalMembers_congr fun member inside => ?_
      rw [field member inside]
      exact (each member inside).normal
    simp only [normalInside, entriesOf, again, kept_rebuilt]
  · have quiet : memberFailures setting members (rebuilt setting members entries) = .ok [] := by
      refine memberFailures_eq_nil.mpr fun member inside => ?_
      rw [field member inside]
      exact (each member inside).failures
    refine innerFailures_object_ok_iff.mpr ⟨quiet, fun strict => ?_⟩
    -- a mode that forbids undeclared keys has dropped them
    have dropped : kept setting members entries = [] := by simp [kept, strict]
    rw [entriesOf, undeclared_rebuilt, dropped]
    exact List.forall_mem_nil _
  · intro drops
    have dropped : kept setting members entries = [] := by rw [kept_eq, if_neg drops]
    have declared : memberStrays members (rebuilt setting members entries) = [] := by
      refine memberStrays_eq_nil fun member inside => ?_
      rw [field member inside]
      exact (each member inside).strays drops
    rw [innerStrays, entriesOf, declared, undeclared_rebuilt, dropped]
    rfl

theorem settled_items {item : Property} {items : List Value}
    (each : ∀ value ∈ items, Settled setting item value) :
    SettledInside setting (.array (some item)) (.list items) := by
  constructor
  · have same : items.map (Walk.normal setting item) = items.map id :=
      List.map_congr_left fun value inside => (each value inside).normal
    rw [normalInside, itemsOf, same, List.map_id]
  · exact itemFailures_eq_nil.mpr fun value inside => (each value inside).failures
  · intro drops
    exact itemStrays_eq_nil fun value inside => (each value inside).strays drops

theorem settled_inside {shape : Shape Property} (names : shape.names.Nodup)
    (each : ∀ child ∈ shape.children, ∀ value, Walk.failures setting child value = .ok [] →
      Settled setting child (Walk.normal setting child value))
    {value : Value} (silent : innerFailures setting shape value = .ok []) :
    SettledInside setting shape (normalInside setting shape value) := by
  rcases shape with type | (_ | members) | (_ | item)
  · exact ⟨rfl, rfl, fun _ => rfl⟩
  · exact ⟨rfl, rfl, fun _ => rfl⟩
  · refine settled_members names fun member inside => ?_
    have quiet := memberFailures_eq_nil.mp (innerFailures_object_ok_iff.mp silent).1 member inside
    exact each member.2 (List.mem_map_of_mem inside) _ quiet
  · exact ⟨rfl, rfl, fun _ => rfl⟩
  · refine settled_items fun value inside => ?_
    obtain ⟨element, there, rfl⟩ := List.mem_map.mp inside
    exact each item (by simp) element (itemFailures_eq_nil.mp silent element there)

theorem ne_absent_of_admits {type : FieldType} {value : Value}
    (admitted : type.admits value = true) : value ≠ .absent := by
  rintro rfl
  rcases type with (_ | _ | _ | _) | _ | _ <;> cases admitted

theorem castLeaf_normalInside {shape : Shape Property} {value result : Value}
    (cast : castLeaf setting shape.type value = .ok (some result)) :
    castLeaf setting shape.type (normalInside setting shape result) =
      .ok (some (normalInside setting shape result)) := by
  cases shape with
  | scalar type => exact castLeaf_again cast
  | object members => exact castLeaf_container setting rfl _
  | array item => exact castLeaf_container setting rfl _

theorem SettledInside.field {shape : Shape Property} {value : Value}
    (inside : SettledInside setting shape value) (admitted : shape.type.admits value = true)
    (cast : castLeaf setting shape.type value = .ok (some value)) {rules : List Directive}
    {own : Findings} (asked : applyRules setting value [] rules = .ok own)
    (quiet : own.complaints = []) (fallback : Option Value) (extras : List (Key × Value)) :
    Settled setting ⟨shape, rules, fallback, extras⟩ value := by
  have present := ne_absent_of_admits admitted
  constructor
  · simp [Walk.normal, present, cast, admitted, inside.normal]
  · simp [Walk.failures, present, cast, admitted, inside.normal, inside.failures, asked, quiet,
      Except.bind, Except.map]
  · intro drops
    simp [Walk.strays, present, admitted, inside.strays drops]

/-- What a walk without complaints makes of a value is settled. -/
theorem settled_normal (property : Property) (names : property.DistinctNames)
    (unfilled : property.Unfilled) : ∀ value, Walk.failures setting property value = .ok [] →
      Settled setting property (Walk.normal setting property value) := by
  induction property with
  | node shape rules fallback extras ih =>
      intro value silent
      -- a missing field stays missing, and a cast value is what it is cast to
      by_cases absent : value = .absent
      · subst absent
        have nothing : Walk.normal setting ⟨shape, rules, fallback, extras⟩ .absent = .absent :=
          normal_of_absent _ unfilled
        rw [nothing]
        exact ⟨nothing, silent, fun _ => strays_absent _⟩
      · simp only [Walk.failures, absent, if_false, bind_ok_iff] at silent
        obtain ⟨outcome, cast, silent⟩ := silent
        cases outcome with
        | none => cases silent
        | some result =>
            by_cases admitted : shape.type.admits result = true
            · simp only [admitted, Bool.not_true, Bool.false_eq_true, if_false, bind_ok_iff,
                map_ok_iff, List.append_eq_nil_iff] at silent
              obtain ⟨_, inner, own, asked, rfl, quiet⟩ := silent
              have each := fun child member => ih child member (names.inside member)
                (unfilled.inside member)
              have inside := settled_inside names.here each inner
              rw [normal_of_admitted ⟨shape, rules, fallback, extras⟩ absent cast admitted]
              exact inside.field (admits_normalInside setting admitted)
                (castLeaf_normalInside cast) asked quiet fallback extras
            · simp [admitted, Findings.wrongType, Findings.complaint] at silent

end RecordCheck.Walk
