import RecordCheck.Proofs.Rendering
import RecordCheck.Proofs.Report.Check
import RecordCheck.Proofs.Schema.Compiled
import RecordCheck.Proofs.Walk.Asked
import RecordCheck.Proofs.Walk.Locations
import RecordCheck.Proofs.Walk.Rebuilt

/-!
Two records checked against one schema with the standard rules. Main statements: what is reported
about the other fields does not depend on a field that no rule of theirs looks at; and the order of
the keys of the record makes no difference but to the undeclared keys.
-/

namespace RecordCheck

namespace Value

/-- The name at which a dotted text enters the record. -/
def firstName (dotted : String) : String :=
  String.ofList ((dotted.toList.splitOn '.').headD [])

theorem lookup_congr {dotted : String} {entries others : List (Key × Value)}
    (same : entries.lookup (.text (firstName dotted)) =
      others.lookup (.text (firstName dotted))) :
    lookup dotted (.dict entries) = lookup dotted (.dict others) := by
  rw [firstName] at same
  rw [lookup, lookup]
  cases names : dotted.toList.splitOn '.' with
  | nil => exact absurd names (List.splitOn_ne_nil _ _)
  | cons name later =>
      rw [names, List.headD_cons] at same
      simp only [List.map_cons, follow, field?, same]

end Value

namespace Path

/-- Whether a written path is that of a field at the top or of something inside it. -/
def concerns (name path : String) : Bool :=
  path == name || (name.toList ++ ['.']).isPrefixOf path.toList ||
    (name.toList ++ ['[']).isPrefixOf path.toList

theorem concerns_render (name : String) (rest : Path) :
    concerns name (render (.name name :: rest)) = true := by
  rw [concerns, render, chars_of_name, String.toList_ofList]
  cases chars : rest.flatMap step with
  | nil => simp
  | cons char later =>
      have begins := flatMap_step_head rest char (by rw [chars]; rfl)
      rcases begins with rfl | rfl
      · simp [List.isPrefixOf_iff_prefix]
      · simp [List.isPrefixOf_iff_prefix]

theorem exists_of_concerns {name path : String} (concerned : concerns name path = true) :
    ∃ rest, path.toList = name.toList ++ rest ∧
      ∀ char, rest.head? = some char → beginsStep char := by
  simp only [concerns, Bool.or_eq_true, beq_iff_eq, List.isPrefixOf_iff_prefix] at concerned
  rcases concerned with (rfl | ⟨rest, dotted⟩) | ⟨rest, bracketed⟩
  · exact ⟨[], (List.append_nil _).symm, nofun⟩
  · refine ⟨'.' :: rest, by rw [← dotted, List.append_assoc, List.singleton_append], ?_⟩
    intro char head
    exact Or.inl (Option.some.inj head).symm
  · refine ⟨'[' :: rest, by rw [← bracketed, List.append_assoc, List.singleton_append], ?_⟩
    intro char head
    exact Or.inr (Option.some.inj head).symm

theorem eq_of_concerns {name other : String} (goes : ∀ char ∈ name.toList, ¬beginsStep char)
    (otherGoes : ∀ char ∈ other.toList, ¬beginsStep char) {rest : Path}
    (concerned : concerns name (render (.name other :: rest)) = true) : other = name := by
  obtain ⟨later, whole, stops⟩ := exists_of_concerns concerned
  rw [render, chars_of_name, String.toList_ofList] at whole
  obtain ⟨same, _⟩ := Text.cut_unique beginsStep otherGoes goes (flatMap_step_head rest) stops whole
  exact String.toList_injective same

end Path

namespace Walk

/-- The complaints about the fields at the top other than the one of a name. -/
def apartFrom (name : String) (found : Complaints) : Complaints :=
  found.filter fun entry => !Path.concerns name entry.1.render

theorem apartFrom_append (name : String) (found later : Complaints) :
    apartFrom name (found ++ later) = apartFrom name found ++ apartFrom name later :=
  List.filter_append ..

theorem apartFrom_below (name : String) (found : Complaints) :
    apartFrom name (below (.name name) found) = [] := by
  rw [apartFrom, List.filter_eq_nil_iff]
  intro entry member
  obtain ⟨inner, _, rfl⟩ := List.mem_map.mp member
  simp [Path.concerns_render]

theorem memberFailures_apartFrom {first second : Setting} {members : List (String × Property)}
    {entries others : List (Key × Value)} {name : String}
    (each : ∀ member ∈ members, member.1 ≠ name →
      failures first member.2 (fieldValue member.1 entries) =
        failures second member.2 (fieldValue member.1 others))
    {found counterpart : Complaints} (walked : memberFailures first members entries = .ok found)
    (walkedOther : memberFailures second members others = .ok counterpart) :
    apartFrom name found = apartFrom name counterpart := by
  induction members generalizing found counterpart with
  | nil =>
      cases walked
      cases walkedOther
      rfl
  | cons member rest ih =>
      obtain ⟨known, child⟩ := member
      obtain ⟨own, later, ownOk, laterOk, rfl⟩ := memberFailures_cons walked
      obtain ⟨other, further, otherOk, furtherOk, rfl⟩ := memberFailures_cons walkedOther
      have tail := ih (fun member inside => each member (List.mem_cons_of_mem _ inside)) laterOk
        furtherOk
      rw [apartFrom_append, apartFrom_append, tail]
      -- the field of the name itself may be complained about at will: all of that is left out
      by_cases same : known = name
      · rw [same, apartFrom_below, apartFrom_below]
      · have agrees := each (known, child) List.mem_cons_self same
        dsimp only at agrees
        rw [ownOk, otherOk] at agrees
        cases agrees
        rfl

section Moved

variable {entries others : List (Key × Value)}

theorem fieldValue_congr {name : String}
    (same : entries.lookup (.text name) = others.lookup (.text name)) :
    fieldValue name entries = fieldValue name others := by
  rw [fieldValue, fieldValue, same]

theorem memberStrays_of_lookup (same : ∀ key, entries.lookup key = others.lookup key)
    (members : List (String × Property)) :
    memberStrays members entries = memberStrays members others := by
  induction members with
  | nil => rfl
  | cons member rest ih =>
      obtain ⟨name, child⟩ := member
      rw [memberStrays, memberStrays, fieldValue_congr (same _), ih]

theorem kept_perm (setting : Setting) (members : List (String × Property))
    (moved : entries.Perm others) :
    (kept setting members entries).Perm (kept setting members others) := by
  rw [kept_eq, kept_eq]
  split
  · exact moved.filter _
  · exact .refl _

theorem kept_lookup (setting : Setting) (members : List (String × Property))
    (same : ∀ key, entries.lookup key = others.lookup key) (key : Key) :
    (kept setting members entries).lookup key = (kept setting members others).lookup key := by
  rw [kept_eq, kept_eq]
  split
  · rw [undeclared, undeclared, Entries.lookup_filter fun key => !isDeclared members key,
      Entries.lookup_filter fun key => !isDeclared members key, same]
  · rfl

theorem filter_rebuilt (setting : Setting) (members : List (String × Property)) :
    (rebuilt setting members entries).filter (fun entry => isDeclared members entry.1) =
      (normalMembers setting members entries).filter fun entry => isDeclared members entry.1 := by
  have none : (kept setting members entries).filter (fun entry => isDeclared members entry.1) =
      [] := by
    rw [List.filter_eq_nil_iff]
    intro entry member
    simp [not_isDeclared_of_mem_kept member]
  rw [rebuilt, List.filter_append, none, List.append_nil]

theorem reported_perm (setting : Setting) {found later : List Stray} (moved : found.Perm later) :
    (reported setting found).Perm (reported setting later) := by
  rw [reported, reported]
  split
  · exact moved.map _
  · exact .refl _

end Moved

end Walk

namespace Report

theorem complaints_apartFrom (name : String) (data : List (Key × Value)) (found : Walk.Complaints)
    (orphans : List Path) :
    (ofFindings data ⟨found, orphans⟩).complaints.filter
        (fun entry => !Path.concerns name entry.1) =
      Entries.firsts ((Walk.apartFrom name found).map fun entry => (entry.1.render, entry.2)) := by
  rw [ofFindings, Walk.apartFrom, Entries.filter_firsts fun path => !Path.concerns name path,
    List.filter_map]
  rfl

end Report

/-- No standard rule of a definition, at any level, looks into the field of a name at the top. -/
def Property.Ignores (property : Property) (name : String) : Prop :=
  property.Everywhere fun node => ∀ directive ∈ node.rules,
    ∀ dotted ∈ Standard.reads directive, Value.firstName dotted ≠ name

namespace Schema

open Walk

variable {schema : Schema}

theorem normal_setting (registry : Registry) (record other : Value) (property : Property)
    (value : Value) : normal (schema.setting registry record) property value =
      normal (schema.setting registry other) property value := by
  have mode : (schema.setting registry record).mode = (schema.setting registry other).mode := rfl
  have cast : (schema.setting registry record).cast = (schema.setting registry other).cast := rfl
  exact normal_congr mode cast property value

theorem failures_setting {registry : Registry} {record other : Value} {property : Property}
    (same : property.Everywhere fun node => ∀ directive ∈ node.rules,
      SameAnswers (schema.setting registry record) (schema.setting registry other) node.type
        directive) (value : Value) :
    failures (schema.setting registry record) property value =
      failures (schema.setting registry other) property value := by
  have mode : (schema.setting registry record).mode = (schema.setting registry other).mode := rfl
  have cast : (schema.setting registry record).cast = (schema.setting registry other).cast := rfl
  exact failures_congr mode cast property same value

theorem sameAnswers_of_ignores {name : String} {property : Property}
    {entries others : List (Key × Value)}
    (same : ∀ key, key ≠ .text name → entries.lookup key = others.lookup key)
    (ignores : property.Ignores name) :
    property.Everywhere fun node => ∀ directive ∈ node.rules,
      SameAnswers (schema.setting Standard.registry (.dict entries))
        (schema.setting Standard.registry (.dict others)) node.type directive := by
  refine sameAnswers_of_reads rfl rfl ?_
  refine ignores.mono fun node each directive member dotted read => ?_
  refine Value.lookup_congr (same _ fun equal => ?_)
  exact each directive member dotted read (Key.text.inj equal)

theorem entriesOf_normal_root (setting : Setting) (entries : List (Key × Value)) :
    entriesOf (normal setting schema.root (.dict entries)) =
      rebuilt setting schema.members entries := by
  rw [normal_root]
  rfl

/-- Two records that differ in one field at the top only are reported alike outside that field, if
no rule of the other fields looks at it: the same complaints in the same order, the same data. -/
theorem siblings_unaffected (schema : Schema) (name : String) (entries others : List (Key × Value))
    (report counterpart : Report) (compiled : schema.Compiled)
    (same : ∀ key, key ≠ .text name → entries.lookup key = others.lookup key)
    (ignored : ∀ member ∈ schema.members, member.1 ≠ name → member.2.Ignores name)
    (checked : schema.check Standard.registry (.dict entries) = .ok report)
    (checkedOther : schema.check Standard.registry (.dict others) = .ok counterpart) :
    report.complaints.filter (fun entry => !Path.concerns name entry.1) =
        counterpart.complaints.filter (fun entry => !Path.concerns name entry.1) ∧
      ∀ key, key ≠ .text name → report.data.lookup key = counterpart.data.lookup key := by
  have names : (schema.members.map Prod.fst).Nodup := compiled.wellFormed.names
  obtain ⟨found, walked, _, rfl⟩ := (check_ok_iff ..).mp checked
  obtain ⟨foundOther, walkedOther, _, rfl⟩ := (check_ok_iff ..).mp checkedOther
  have agrees : ∀ member ∈ schema.members, member.1 ≠ name →
      fieldValue member.1 entries = fieldValue member.1 others := fun member _ apart =>
    fieldValue_congr (same _ fun equal => apart (Key.text.inj equal))
  constructor
  · rw [failures_root] at walked walkedOther
    rw [Report.complaints_apartFrom, Report.complaints_apartFrom]
    have each : ∀ member ∈ schema.members, member.1 ≠ name →
        failures (schema.setting Standard.registry (.dict entries)) member.2
            (fieldValue member.1 entries) =
          failures (schema.setting Standard.registry (.dict others)) member.2
            (fieldValue member.1 others) := by
      intro member inside apart
      rw [agrees member inside apart]
      exact failures_setting (sameAnswers_of_ignores same (ignored member inside apart)) _
    rw [memberFailures_apartFrom each (innerFailures_object_ok_iff.mp walked).1
      (innerFailures_object_ok_iff.mp walkedOther).1]
  · intro key apart
    rw [Report.ofFindings, Report.ofFindings, entriesOf_normal_root, entriesOf_normal_root]
    cases declared : isDeclared schema.members key with
    | false =>
        rw [lookup_rebuilt_undeclared declared, lookup_rebuilt_undeclared declared, same key apart]
        rfl
    | true =>
        obtain ⟨known, child, rfl, member⟩ := isDeclared_iff.mp declared
        have other : known ≠ name := fun equal => apart (equal ▸ rfl)
        have value : fieldValue known entries = fieldValue known others := agrees _ member other
        rw [lookup_rebuilt_declared names member, lookup_rebuilt_declared names member, value,
          normal_setting _ _ (.dict others)]

def householdSource : Value :=
  .dict [(.text "mode", .text "loose"), (.text "properties", .dict [
    (.text "home", .dict [(.text "properties", .dict [
      (.text "zip", .dict [(.text "type", .text "string"),
        (.text "validation", .text "required")])])]),
    (.text "age", .dict [(.text "type", .text "integer"),
      (.text "validation", .text "betweenNumber[1,9]")]),
    (.text "again", .dict [(.text "type", .text "integer"),
      (.text "validation", .text "equals[age]")])])]

def household : Schema where
  mode := .loose
  cast := false
  members := [
    ("home", ⟨.object (some [("zip", ⟨.scalar .string, [⟨"required", []⟩], none, []⟩)]), [],
      none, []⟩),
    ("age", ⟨.scalar .integer,
      [⟨"betweenNumber", [.positional (.text "1"), .positional (.text "9")]⟩], none, []⟩),
    ("again", ⟨.scalar .integer, [⟨"equals", [.positional (.text "age")]⟩], none, []⟩)]
  extras := []

theorem household_compiled : household.Compiled :=
  ⟨_, Draft.authored_embed householdSource, rfl⟩

def housed : List (Key × Value) :=
  [(.text "again", .int 3), (.int 5, .null), (.text "age", .int 12),
    (.text "home", .dict [(.text "zip", .int 7), (.text "unit", .null)])]

def unhoused : List (Key × Value) :=
  [(.text "age", .int 12), (.text "again", .int 3), (.int 5, .null)]

def ageComplaints : List (String × Complaint) :=
  [("age", ⟨"VALIDATION_FAILED_BETWEEN_NUMBER", "Value should be between 1 and 9"⟩),
    ("again", ⟨"VALIDATION_FAILED_EQUALS", "Value should be equal to age"⟩)]

def housedReport : Report where
  data := [(.text "home", .dict [(.text "zip", .int 7), (.text "unit", .null)]),
    (.text "age", .int 12), (.text "again", .int 3), (.int 5, .null)]
  complaints := ("home.zip", ⟨"VALIDATION_ERROR_NOT_STRING", "Value is not a string"⟩) ::
    ageComplaints

def unhousedReport : Report where
  data := [(.text "age", .int 12), (.text "again", .int 3), (.int 5, .null)]
  complaints := ("home.zip", ⟨"VALIDATION_FAILED_REQUIRED", "Value is required"⟩) :: ageComplaints

theorem household_ignores_home : ∀ member ∈ household.members, member.1 ≠ "home" →
    member.2.Ignores "home" := by
  intro member inside apart
  simp only [household, List.mem_cons, List.not_mem_nil, or_false] at inside
  rcases inside with rfl | rfl | rfl
  · exact absurd rfl apart
  · exact .node (by decide +kernel) nofun
  · exact .node (by decide +kernel) nofun

theorem housed_lookup {key : Key} (apart : key ≠ .text "home") :
    housed.lookup key = unhoused.lookup key := by
  have kept := Entries.lookup_filter (· != .text "home") key housed
  rw [if_pos (by simpa using apart)] at kept
  rw [← kept]
  exact Entries.lookup_perm (by decide) (by decide) key

theorem household_siblings_unaffected :
    household.Compiled ∧ housed.lookup (.text "home") ≠ unhoused.lookup (.text "home") ∧
      household.check Standard.registry (.dict housed) = .ok housedReport ∧
      household.check Standard.registry (.dict unhoused) = .ok unhousedReport ∧
      housedReport.complaints.filter (fun entry => !Path.concerns "home" entry.1) =
        ageComplaints ∧
      housedReport.complaints.filter (fun entry => !Path.concerns "home" entry.1) =
        unhousedReport.complaints.filter (fun entry => !Path.concerns "home" entry.1) ∧
      ∀ key, key ≠ .text "home" →
        housedReport.data.lookup key = unhousedReport.data.lookup key := by
  have checked : household.check Standard.registry (.dict housed) = .ok housedReport := by
    decide +kernel
  have checkedOther : household.check Standard.registry (.dict unhoused) = .ok unhousedReport := by
    decide +kernel
  exact ⟨household_compiled, by decide, checked, checkedOther, by decide +kernel,
    siblings_unaffected household "home" housed unhoused _ _ household_compiled
      (fun _ apart => housed_lookup apart) household_ignores_home checked checkedOther⟩

section Moved

variable {entries others : List (Key × Value)}

theorem sameAnswers_of_lookup (same : ∀ key, entries.lookup key = others.lookup key)
    (property : Property) : property.Everywhere fun node => ∀ directive ∈ node.rules,
      SameAnswers (schema.setting Standard.registry (.dict entries))
        (schema.setting Standard.registry (.dict others)) node.type directive :=
  sameAnswers_of_reads rfl rfl
    (.of_within fun _ _ _ _ _ _ => Value.lookup_congr (same _))

theorem nameKeys_perm {setting other : Setting} {members : List (String × Property)}
    (mode : setting.mode = other.mode) (moved : entries.Perm others) :
    nameKeys setting members entries = nameKeys other members others := by
  have keys : ∀ entry, entry ∈ undeclared members entries ↔ entry ∈ undeclared members others :=
    fun entry => (moved.filter _).mem_iff
  have same : Nameable setting members entries ↔ Nameable other members others := by
    simp only [Nameable, mode, keys]
  exact if_congr same rfl rfl

theorem failures_of_lookup (schema : Schema)
    (same : ∀ key, entries.lookup key = others.lookup key) (moved : entries.Perm others) :
    failures (schema.setting Standard.registry (.dict entries)) schema.root (.dict entries) =
      failures (schema.setting Standard.registry (.dict others)) schema.root (.dict others) := by
  have declared : memberFailures (schema.setting Standard.registry (.dict entries)) schema.members
      entries = memberFailures (schema.setting Standard.registry (.dict others)) schema.members
        others := by
    refine memberFailures_congr fun member _ => ?_
    rw [fieldValue_congr (same _)]
    exact failures_setting (sameAnswers_of_lookup same member.2) _
  have keys : nameKeys (schema.setting Standard.registry (.dict entries)) schema.members entries =
      nameKeys (schema.setting Standard.registry (.dict others)) schema.members others :=
    nameKeys_perm rfl moved
  rw [failures_root, failures_root]
  simp only [root, innerFailures, entriesOf, declared, keys]

theorem normalMembers_of_lookup (schema : Schema) (registry : Registry) (record other : Value)
    (same : ∀ key, entries.lookup key = others.lookup key) :
    normalMembers (schema.setting registry record) schema.members entries =
      normalMembers (schema.setting registry other) schema.members others := by
  refine normalMembers_congr fun member _ => ?_
  rw [fieldValue_congr (same _)]
  exact normal_setting registry record other member.2 _

theorem strays_perm (schema : Schema) (same : ∀ key, entries.lookup key = others.lookup key)
    (moved : entries.Perm others) :
    (strays schema.root (.dict entries)).Perm (strays schema.root (.dict others)) := by
  rw [strays_root, strays_root]
  change (memberStrays schema.members entries ++ _).Perm (memberStrays schema.members others ++ _)
  rw [memberStrays_of_lookup same]
  exact ((moved.filter _).map _).append_left _

end Moved

/-- Outcomes that differ at most in the order of undeclared keys. -/
inductive SameOutcome (schema : Schema) :
    Except CheckError Report → Except CheckError Report → Prop
  | refused (error : CheckError) : SameOutcome schema (.error error) (.error error)
  | orphans {paths others : List Path} : paths.Perm others →
      SameOutcome schema (.error (.orphans paths)) (.error (.orphans others))
  | returned {data others : List (Key × Value)} (complaints : List (String × Complaint)) :
      data.Perm others → (∀ key, data.lookup key = others.lookup key) →
      (data.filter fun entry => isDeclared schema.members entry.1) =
        (others.filter fun entry => isDeclared schema.members entry.1) →
      SameOutcome schema (.ok ⟨data, complaints⟩) (.ok ⟨others, complaints⟩)

/-- The order of the keys of the record is no matter: the check fails alike, but for the order in
which the strict mode names undeclared keys, or it makes the same complaints in the same order and
gives the same data, with the declared fields in the same order. -/
theorem key_order_unimportant (schema : Schema) (entries others : List (Key × Value))
    (distinct : (entries.map Prod.fst).Nodup) (moved : entries.Perm others) :
    SameOutcome schema (schema.check Standard.registry (.dict entries))
      (schema.check Standard.registry (.dict others)) := by
  have same := Entries.lookup_perm distinct moved
  have members := normalMembers_of_lookup schema Standard.registry (.dict entries) (.dict others)
    same
  have orphans : (reported (schema.setting Standard.registry (.dict entries))
      (strays schema.root (.dict entries))).Perm
        (reported (schema.setting Standard.registry (.dict others))
          (strays schema.root (.dict others))) := reported_perm _ (strays_perm schema same moved)
  rw [check_eq, check_eq, failures_of_lookup schema same moved]
  cases failures (schema.setting Standard.registry (.dict others)) schema.root (.dict others) with
  | error error => exact .refused _
  | ok complaints =>
      dsimp only
      generalize reported _ (strays schema.root (.dict entries)) = paths,
        reported _ (strays schema.root (.dict others)) = named at orphans ⊢
      cases named with
      | cons first rest =>
          obtain ⟨path, later, rfl⟩ := List.exists_cons_of_ne_nil fun none : paths = [] =>
            absurd (none ▸ orphans).symm.eq_nil (List.cons_ne_nil first rest)
          exact .orphans orphans
      | nil =>
          rw [orphans.eq_nil, entriesOf_normal_root, entriesOf_normal_root]
          refine .returned _ ?_ (fun key => ?_) ?_
          · rw [rebuilt, members]
            exact (kept_perm _ _ moved).append_left _
          · rw [rebuilt, rebuilt, List.lookup_append, List.lookup_append, members]
            congr 1
            exact kept_lookup _ _ same key
          · rw [filter_rebuilt, filter_rebuilt, members]

def shared : List (Key × Value) := (.text "unit", .int 2) :: housed

def sharedReport (undeclared : List (Key × Value)) : Report where
  data := [(.text "home", .dict [(.text "zip", .int 7), (.text "unit", .null)]),
    (.text "age", .int 12), (.text "again", .int 3)] ++ undeclared
  complaints := housedReport.complaints

theorem household_reversed :
    (shared.map Prod.fst).Nodup ∧ shared.Perm shared.reverse ∧
      household.check Standard.registry (.dict shared) =
        .ok (sharedReport [(.text "unit", .int 2), (.int 5, .null)]) ∧
      household.check Standard.registry (.dict shared.reverse) =
        .ok (sharedReport [(.int 5, .null), (.text "unit", .int 2)]) ∧
      SameOutcome household (household.check Standard.registry (.dict shared))
        (household.check Standard.registry (.dict shared.reverse)) := by
  have distinct : (shared.map Prod.fst).Nodup := by decide
  have moved : shared.Perm shared.reverse := shared.reverse_perm.symm
  exact ⟨distinct, moved, by decide +kernel, by decide +kernel,
    key_order_unimportant household shared shared.reverse distinct moved⟩

end Schema

end RecordCheck
