import RecordCheck.Proofs.Outcome
import RecordCheck.Proofs.Schema.Tree
import RecordCheck.Proofs.Value.Hop
import RecordCheck.Walk

/-!
A walk is three passes in one: the complaints, the normalised value, and the undeclared keys. Only
the first can fail and only the first asks rules; it also fails where the mode forbids an undeclared
key that has no name. `visit_eq` takes the walk apart, and with it the path at which a field stands
is nothing but a prefix of what is reported.
-/

namespace RecordCheck

namespace Findings

def under (path : Path) (found : Findings) : Findings :=
  ⟨found.complaints.map fun entry => (path ++ entry.1, entry.2), found.orphans.map (path ++ ·)⟩

theorem append_mk (complaints later : List (Path × Complaint)) (orphans others : List Path) :
    (⟨complaints, orphans⟩ : Findings) ++ ⟨later, others⟩ =
      ⟨complaints ++ later, orphans ++ others⟩ := rfl

theorem under_append (path : Path) (first second : Findings) :
    (first ++ second).under path = first.under path ++ second.under path := by
  rw [under, under, under, append_mk]
  congr 1
  · exact List.map_append
  · exact List.map_append

@[simp] theorem under_nil (found : Findings) : found.under [] = found := by
  simp [under]

end Findings

namespace Walk

abbrev Complaints := List (Path × Complaint)

/-- Complaints as they look from one step further out. -/
def below (segment : Segment) (found : Complaints) : Complaints :=
  found.map fun entry => (segment :: entry.1, entry.2)

def itemFailures (failuresOf : Value → Except WalkError Complaints) :
    Nat → List Value → Except WalkError Complaints
  | _, [] => .ok []
  | position, item :: rest =>
      (failuresOf item).bind fun found =>
        (itemFailures failuresOf (position + 1) rest).map fun later =>
          below (.index position) found ++ later

mutual

def normal (setting : Setting) (property : Property) (value : Value) : Value :=
  match property with
  | ⟨shape, _, fallback, _⟩ =>
      if value = .absent then
        match fallback with
        | some default => default
        | none => normalAbsent setting shape
      else
        match castLeaf setting shape.type value with
        | .ok (some result) =>
            if shape.type.admits result then normalInside setting shape result else result
        | _ => value

def normalAbsent (setting : Setting) (shape : Shape Property) : Value :=
  match shape with
  | .object (some members) =>
      if (normalMembers setting members []).isEmpty then .absent
      else .dict (normalMembers setting members [])
  | _ => .absent

def normalInside (setting : Setting) (shape : Shape Property) (value : Value) : Value :=
  match shape with
  | .scalar _ => value
  | .array none => .list (itemsOf value)
  | .array (some item) => .list ((itemsOf value).map (normal setting item))
  | .object none => value
  | .object (some members) =>
      .dict (normalMembers setting members (entriesOf value) ++
        kept setting members (entriesOf value))

def normalMembers (setting : Setting) (members : List (String × Property))
    (entries : List (Key × Value)) : List (Key × Value) :=
  match members with
  | [] => []
  | (name, property) :: rest =>
      placed name (normal setting property (fieldValue name entries))
        (normalMembers setting rest entries)

end

/-- The mode lets undeclared keys pass, or all of them have names. -/
def Nameable (setting : Setting) (members : List (String × Property))
    (entries : List (Key × Value)) : Prop :=
  setting.mode = .strict → ∀ entry ∈ undeclared members entries, entry.1.writable = true

instance (setting : Setting) (members : List (String × Property))
    (entries : List (Key × Value)) : Decidable (Nameable setting members entries) :=
  inferInstanceAs (Decidable (_ → _))

/-- The fault of an undeclared key that has no name. -/
def nameKeys (setting : Setting) (members : List (String × Property))
    (entries : List (Key × Value)) : Except WalkError Unit :=
  if Nameable setting members entries then .ok () else .error (.integer .unwritable)

mutual

def failures (setting : Setting) (property : Property) (value : Value) :
    Except WalkError Complaints :=
  match property with
  | ⟨shape, rules, fallback, _⟩ =>
      if value = .absent then
        match fallback with
        | some _ => .ok []
        | none =>
            (innerFailures setting shape value).bind fun found =>
              (applyMissingRules setting [] rules).map fun later => found ++ later.complaints
      else
        (castLeaf setting shape.type value).bind fun
          | none => .ok (Findings.wrongType [] shape.type).complaints
          | some result =>
              if !shape.type.admits result then .ok (Findings.wrongType [] shape.type).complaints
              else
                (innerFailures setting shape result).bind fun found =>
                  (applyRules setting (normalInside setting shape result) [] rules).map
                    fun later => found ++ later.complaints

def innerFailures (setting : Setting) (shape : Shape Property) (value : Value) :
    Except WalkError Complaints :=
  match shape with
  | .array (some item) => itemFailures (failures setting item) 0 (itemsOf value)
  | .object (some members) =>
      (memberFailures setting members (entriesOf value)).bind fun found =>
        (nameKeys setting members (entriesOf value)).map fun _ => found
  | _ => .ok []

def memberFailures (setting : Setting) (members : List (String × Property))
    (entries : List (Key × Value)) : Except WalkError Complaints :=
  match members with
  | [] => .ok []
  | (name, property) :: rest =>
      (failures setting property (fieldValue name entries)).bind fun found =>
        (memberFailures setting rest entries).map fun later => below (.name name) found ++ later

end

/-- A key that nobody declared, with the way to its mapping. -/
abbrev Stray := List Hop × Key

namespace Stray

def inside (hop : Hop) (stray : Stray) : Stray := (hop :: stray.1, stray.2)

def path (stray : Stray) : Path := stray.1.map Hop.segment ++ [.name stray.2.spelled]

end Stray

def itemStrays (straysOf : Value → List Stray) : Nat → List Value → List Stray
  | _, [] => []
  | position, item :: rest =>
      (straysOf item).map (Stray.inside (.item position)) ++ itemStrays straysOf (position + 1) rest

mutual

def strays (property : Property) (value : Value) : List Stray :=
  match property with
  | ⟨shape, _, _, _⟩ =>
      if value = .absent then []
      else if shape.type.admits value then innerStrays shape value
      else []

def innerStrays (shape : Shape Property) (value : Value) : List Stray :=
  match shape with
  | .array (some item) => itemStrays (strays item) 0 (itemsOf value)
  | .object (some members) =>
      memberStrays members (entriesOf value) ++
        (undeclared members (entriesOf value)).map fun entry => ([], entry.1)
  | _ => []

def memberStrays (members : List (String × Property)) (entries : List (Key × Value)) :
    List Stray :=
  match members with
  | [] => []
  | (name, property) :: rest =>
      (strays property (fieldValue name entries)).map (Stray.inside (.entry (.text name))) ++
        memberStrays rest entries

end

/-- The paths of the stray keys, in the mode that forbids them. -/
def reported (setting : Setting) (found : List Stray) : List Path :=
  match setting.mode with
  | .strict => found.map Stray.path
  | _ => []

def findings (setting : Setting) (complaints : Complaints) (found : List Stray) : Findings :=
  ⟨complaints, reported setting found⟩

/-- The walk of a field, wherever the field stands, is its three passes. -/
abbrev TakenApart (setting : Setting) (property : Property) : Prop :=
  ∀ path value, visit setting property path value =
    (failures setting property value).map fun complaints =>
      (normal setting property value,
        (findings setting complaints (strays property value)).under path)

@[simp] theorem reported_nil (setting : Setting) : reported setting [] = [] := by
  unfold reported
  split <;> rfl

theorem reported_append (setting : Setting) (first second : List Stray) :
    reported setting (first ++ second) = reported setting first ++ reported setting second := by
  unfold reported
  split <;> simp

@[simp] theorem findings_none_under (setting : Setting) (path : Path) :
    (findings setting [] []).under path = .none := by
  simp [findings, Findings.none, Findings.under]

theorem findings_append (setting : Setting) (complaints later : Complaints)
    (first second : List Stray) :
    findings setting complaints first ++ findings setting later second =
      findings setting (complaints ++ later) (first ++ second) := by
  rw [findings, findings, findings, Findings.append_mk, reported_append]

theorem findings_under_snoc (setting : Setting) (path : Path) (hop : Hop)
    (complaints : Complaints) (found : List Stray) :
    (findings setting complaints found).under (path ++ [hop.segment]) =
      (findings setting (below hop.segment complaints)
        (found.map (Stray.inside hop))).under path := by
  unfold findings Findings.under
  congr 1
  · simp [below]
  · unfold reported
    split <;> simp [Stray.path, Stray.inside]

theorem pathsOf_eq (path : Path) (keys : List Key) :
    pathsOf path keys = if ∀ key ∈ keys, key.writable = true then
      .ok (keys.map fun key => path ++ [.name key.spelled]) else .error .unwritable := by
  induction keys with
  | nil => simp [pathsOf]
  | cons key rest ih =>
      rw [pathsOf, ih, Key.name, List.map_cons]
      simp only [List.forall_mem_cons]
      cases key.writable with
      | false => simp [Whole.ifWritable, Except.bind]
      | true =>
          simp only [Whole.ifWritable, if_true, Except.bind, true_and]
          split <;> rfl

theorem forbidden_eq (setting : Setting) (members : List (String × Property))
    (entries : List (Key × Value)) (path : Path) :
    forbidden setting members entries path =
      (nameKeys setting members entries).map fun _ =>
        (findings setting []
          ((undeclared members entries).map fun entry => ([], entry.1))).under path := by
  obtain ⟨mode, cast, registry, record⟩ := setting
  cases mode with
  | strict =>
      simp only [forbidden, nameKeys, Nameable, pathsOf_eq, List.forall_mem_map, true_imp_iff]
      split
      · simp [Except.map, findings, reported, Findings.under, Stray.path]
      · rfl
  -- the other modes report no keys, whatever their names
  | loose => simp [forbidden, nameKeys, Nameable, Except.map, findings, reported, Findings.under,
      Findings.none]
  | filter => simp [forbidden, nameKeys, Nameable, Except.map, findings, reported, Findings.under,
      Findings.none]

theorem nameKeys_ok_iff {setting : Setting} {members : List (String × Property)}
    {entries : List (Key × Value)} {unit : Unit} :
    nameKeys setting members entries = .ok unit ↔ Nameable setting members entries := by
  rw [nameKeys]
  split <;> simp [*]

theorem nameKeys_error_iff {setting : Setting} {members : List (String × Property)}
    {entries : List (Key × Value)} {error : WalkError} :
    nameKeys setting members entries = .error error ↔
      ¬Nameable setting members entries ∧ error = .integer .unwritable := by
  rw [nameKeys]
  split <;> simp [*, eq_comm]

theorem innerFailures_object_ok_iff {setting : Setting} {members : List (String × Property)}
    {value : Value} {found : Complaints} :
    innerFailures setting (.object (some members)) value = .ok found ↔
      memberFailures setting members (entriesOf value) = .ok found ∧
        Nameable setting members (entriesOf value) := by
  rw [innerFailures, bind_ok_iff]
  simp only [map_ok_iff, nameKeys_ok_iff]
  constructor
  · rintro ⟨_, walked, _, named, rfl⟩
    exact ⟨walked, named⟩
  · rintro ⟨walked, named⟩
    exact ⟨found, walked, (), named, rfl⟩

theorem innerFailures_object_error_iff {setting : Setting} {members : List (String × Property)}
    {value : Value} {error : WalkError} :
    innerFailures setting (.object (some members)) value = .error error ↔
      memberFailures setting members (entriesOf value) = .error error ∨
        Returns (memberFailures setting members (entriesOf value)) ∧
          ¬Nameable setting members (entriesOf value) ∧ error = .integer .unwritable := by
  rw [innerFailures, bind_error_iff]
  simp only [map_error_iff, nameKeys_error_iff, exists_and_right, Returns]

@[simp] theorem nameKeys_nil (setting : Setting) (members : List (String × Property)) :
    nameKeys setting members [] = .ok () := by
  simp [nameKeys, Nameable, undeclared]

theorem applyRules_eq (setting : Setting) (value : Value) (path : Path)
    (rules : List Directive) :
    applyRules setting value path rules =
      (applyRules setting value [] rules).map fun found =>
        (findings setting found.complaints []).under path := by
  induction rules with
  | nil => simp [applyRules, Except.map, findings, Findings.none, Findings.under]
  | cons directive rest ih =>
      simp only [applyRules]
      split
      · simp [Except.map, Findings.complaint, Findings.under, findings]
      · split
        · rfl
        · simp [Except.map, Findings.complaint, Findings.under, findings]
        · exact ih

theorem applyMissingRules_eq (setting : Setting) (path : Path) (rules : List Directive) :
    applyMissingRules setting path rules =
      (applyMissingRules setting [] rules).map fun found =>
        (findings setting found.complaints []).under path := by
  induction rules with
  | nil => simp [applyMissingRules, Except.map, findings, Findings.none, Findings.under]
  | cons directive rest ih =>
      simp only [applyMissingRules]
      split
      · exact ih
      · split
        · exact ih
        · split
          · rfl
          · simp [Except.map, Findings.complaint, Findings.under, findings]
          · exact ih

theorem visitItems_eq (setting : Setting) (item : Property) (itemEq : TakenApart setting item)
    (path : Path) (position : Nat) (items : List Value) :
    visitItems (visit setting item) path position items =
      (itemFailures (failures setting item) position items).map fun complaints =>
        (items.map (normal setting item),
          (findings setting complaints (itemStrays (strays item) position items)).under path) := by
  induction items generalizing position with
  | nil => simp [visitItems, itemFailures, itemStrays, Except.map]
  | cons first rest ih =>
      simp only [visitItems, itemFailures, itemStrays, itemEq, ih]
      cases failures setting item first with
      | error error => rfl
      | ok found =>
          cases itemFailures (failures setting item) (position + 1) rest with
          | error error => rfl
          | ok later =>
              simp only [Except.map, Except.bind, List.map_cons]
              have step := findings_under_snoc setting path (.item position) found
                (strays item first)
              simp only [Hop.segment] at step
              rw [step, ← Findings.under_append, findings_append]

theorem visitMembers_eq (setting : Setting) (members : List (String × Property))
    (childEq : ∀ name child, (name, child) ∈ members → TakenApart setting child)
    (path : Path) (entries : List (Key × Value)) :
    visitMembers setting members path entries =
      (memberFailures setting members entries).map fun complaints =>
        (normalMembers setting members entries,
          (findings setting complaints (memberStrays members entries)).under path) := by
  induction members with
  | nil => simp [visitMembers, memberFailures, normalMembers, memberStrays, Except.map]
  | cons first rest ih =>
      obtain ⟨name, child⟩ := first
      have restEq := ih fun other property member =>
        childEq other property (List.mem_cons_of_mem _ member)
      simp only [visitMembers, memberFailures, normalMembers, memberStrays,
        childEq name child List.mem_cons_self, restEq]
      cases failures setting child (fieldValue name entries) with
      | error error => rfl
      | ok found =>
          cases memberFailures setting rest entries with
          | error error => rfl
          | ok later =>
              simp only [Except.map, Except.bind]
              have step := findings_under_snoc setting path (.entry (.text name)) found
                (strays child (fieldValue name entries))
              simp only [Hop.segment, Key.spelled] at step
              rw [step, ← Findings.under_append, findings_append]

theorem strays_absent (property : Property) : strays property .absent = [] := by
  obtain ⟨shape, rules, fallback, extras⟩ := property
  simp [strays]

theorem memberStrays_nil (members : List (String × Property)) : memberStrays members [] = [] := by
  induction members with
  | nil => simp [memberStrays]
  | cons first rest ih => simp [memberStrays, fieldValue, strays_absent, ih]

theorem visitInside_eq (setting : Setting) (shape : Shape Property)
    (childEq : ∀ child ∈ shape.children, TakenApart setting child) (path : Path) (value : Value) :
    visitInside setting shape path value =
      (innerFailures setting shape value).map fun complaints =>
        (normalInside setting shape value,
          (findings setting complaints (innerStrays shape value)).under path) := by
  rcases shape with type | (_ | members) | (_ | item)
  · simp [visitInside, innerFailures, normalInside, innerStrays, Except.map]
  · simp [visitInside, innerFailures, normalInside, innerStrays, Except.map]
  · have membersEq := visitMembers_eq setting members (fun name child member =>
      childEq child (List.mem_map_of_mem (f := Prod.snd) member)) path (entriesOf value)
    simp only [visitInside, innerFailures, normalInside, innerStrays, membersEq, forbidden_eq]
    cases memberFailures setting members (entriesOf value) with
    | error error => rfl
    | ok found =>
        cases nameKeys setting members (entriesOf value) with
        | error error => rfl
        | ok unit =>
            simp only [Except.map, Except.bind]
            rw [← Findings.under_append, findings_append, List.append_nil]
  · simp [visitInside, innerFailures, normalInside, innerStrays, Except.map]
  · have itemsEq := visitItems_eq setting item (childEq item (by simp)) path 0 (itemsOf value)
    simp only [visitInside, innerFailures, normalInside, innerStrays, itemsEq]
    cases itemFailures (failures setting item) 0 (itemsOf value) with
    | error error => rfl
    | ok found => rfl

theorem visitAbsent_eq (setting : Setting) (shape : Shape Property)
    (childEq : ∀ child ∈ shape.children, TakenApart setting child) (path : Path) :
    visitAbsent setting shape path =
      (innerFailures setting shape .absent).map fun complaints =>
        (normalAbsent setting shape, (findings setting complaints []).under path) := by
  rcases shape with type | (_ | members) | (_ | item)
  · simp [visitAbsent, innerFailures, normalAbsent, Except.map]
  · simp [visitAbsent, innerFailures, normalAbsent, Except.map]
  · have membersEq := visitMembers_eq setting members (fun name child member =>
      childEq child (List.mem_map_of_mem (f := Prod.snd) member)) path []
    simp only [visitAbsent, innerFailures, normalAbsent, membersEq, memberStrays_nil, entriesOf,
      nameKeys_nil]
    cases memberFailures setting members [] with
    | error error => rfl
    | ok found => rfl
  · simp [visitAbsent, innerFailures, normalAbsent, Except.map]
  · simp [visitAbsent, innerFailures, normalAbsent, itemsOf, itemFailures, Except.map]

theorem castLeaf_container (setting : Setting) {type : FieldType} (container : type.isScalar = false)
    (value : Value) : castLeaf setting type value = .ok (some value) := by
  simp [castLeaf, container]

/-- What a field is cast to does not matter for the keys inside it: only containers have keys, and
they are not cast. -/
theorem strays_of_cast (setting : Setting) (property : Property) {value result : Value}
    (present : value ≠ .absent)
    (cast : castLeaf setting property.shape.type value = .ok (some result)) :
    strays property value =
      if property.shape.type.admits result then innerStrays property.shape result else [] := by
  obtain ⟨shape, rules, fallback, extras⟩ := property
  cases shape with
  | scalar type => simp [strays, innerStrays]
  | object members =>
      rw [castLeaf_container setting rfl] at cast
      cases cast
      simp [strays, present]
  | array item =>
      rw [castLeaf_container setting rfl] at cast
      cases cast
      simp [strays, present]

theorem strays_of_refusal (setting : Setting) (property : Property) {value : Value}
    (refused : castLeaf setting property.shape.type value = .ok none) :
    strays property value = [] := by
  obtain ⟨shape, rules, fallback, extras⟩ := property
  cases shape with
  | scalar type => simp [strays, innerStrays]
  | object members =>
      rw [castLeaf_container setting rfl] at refused
      cases refused
  | array item =>
      rw [castLeaf_container setting rfl] at refused
      cases refused

theorem visit_eq (setting : Setting) (property : Property) : TakenApart setting property := by
  induction property with
  | node shape rules fallback extras ih =>
      intro path value
      by_cases absent : value = .absent
      · subst absent
        cases fallback with
        | some default =>
            simp [visit, failures, normal, strays_absent, Except.map]
        | none =>
            simp only [visit, failures, normal, strays_absent, if_true]
            rw [visitAbsent_eq setting shape ih, applyMissingRules_eq]
            cases innerFailures setting shape .absent with
            | error error => rfl
            | ok found =>
                cases applyMissingRules setting [] rules with
                | error error => rfl
                | ok later =>
                    simp only [Except.map, Except.bind]
                    rw [← Findings.under_append, findings_append, List.append_nil]
      · simp only [visit, failures, normal, absent, if_false]
        cases cast : castLeaf setting shape.type value with
        | error error => rfl
        | ok outcome =>
            cases outcome with
            | none =>
                rw [strays_of_refusal setting ⟨shape, rules, fallback, extras⟩ cast]
                simp [Except.map, Except.bind, findings, Findings.under, Findings.wrongType,
                  Findings.complaint]
            | some result =>
                -- undeclared keys are looked for in the value as it came, not in what it is cast to
                rw [strays_of_cast setting ⟨shape, rules, fallback, extras⟩ absent cast]
                by_cases admitted : shape.type.admits result = true
                · simp only [admitted, Except.bind, Bool.not_true, Bool.false_eq_true, if_false,
                    if_true]
                  rw [visitInside_eq setting shape ih]
                  cases innerFailures setting shape result with
                  | error error => rfl
                  | ok found =>
                      simp only [Except.map]
                      rw [applyRules_eq]
                      cases applyRules setting (normalInside setting shape result) [] rules with
                      | error error => rfl
                      | ok later =>
                          simp only [Except.map]
                          rw [← Findings.under_append, findings_append, List.append_nil]
                · simp [admitted, Except.map, Except.bind, findings, Findings.under,
                    Findings.wrongType, Findings.complaint]

end Walk

end RecordCheck
