import RecordCheck.Proofs.Report.Records
import RecordCheck.Proofs.Report.Required
import RecordCheck.Proofs.Walk.Defaults

/-!
Default values. Main statement: a default is what the report has for a missing field, whatever is
declared for that field, and a record that leaves out no field is reported the same with all other
defaults.
-/

namespace RecordCheck

/-- Two schemas that differ in their defaults at most, at every level. -/
structure Schema.Refilled (schema other : Schema) : Prop where
  mode : other.mode = schema.mode
  cast : other.cast = schema.cast
  root : schema.root.Refilled other.root

namespace Schema

open Walk

variable {schema : Schema} {registry : Registry} {data : List (Key × Value)}

/-- A record has every field that the schema declares for a mapping that the check comes to. -/
def SuppliedBy (schema : Schema) (record : Value) : Prop := Supplies schema.root record

theorem check_refilled {other : Schema} (refilled : schema.Refilled other)
    (noneMissing : NoneMissing schema.root (.dict data)) :
    other.check registry (.dict data) = schema.check registry (.dict data) := by
  have setting : other.setting registry (.dict data) = schema.setting registry (.dict data) := by
    rw [Schema.setting, Schema.setting, refilled.mode, refilled.cast]
  have walked : visitInside (schema.setting registry (.dict data)) (.object (some other.members))
      [] (.dict data) = visitInside (schema.setting registry (.dict data))
        (.object (some schema.members)) [] (.dict data) :=
    visitInside_refilled refilled.root.shape (fun child _ => visit_refilled child)
      (fun _ _ _ inside => noneMissing.inside ⟨nofun, fun _ => rfl⟩ inside) []
  rw [check, check, setting, walked]

theorem not_fails_filled {setting : Setting} {property target : Property} {default raw : Value}
    (filled : property.fallback = some default) {path : Path} {complaint : Complaint}
    (reached : Reaches property .absent path target raw) :
    ¬Fails setting target raw complaint := by
  cases path with
  | nil =>
      obtain ⟨rfl, rfl⟩ := reaches_nil.mp reached
      exact fails_of_default rfl filled complaint
  | cons segment rest =>
      obtain ⟨opens, _⟩ := reaches_cons.mp reached
      rw [opens.1 rfl] at filled
      cases filled

theorem normal_of_default {setting : Setting} {property : Property} {default : Value}
    (filled : property.fallback = some default) : normal setting property .absent = default := by
  obtain ⟨shape, rules, fallback, extras⟩ := property
  cases filled
  rfl

/-- A missing field with a default has that default in the data of the report, and no complaint is
about it or anything inside it. A record that has every declared field and no absent marker gets the
same report from every schema with other defaults. -/
theorem defaults_are_for_missing_fields (schema : Schema) (registry : Registry)
    (data : List (Key × Value)) (report : Report) (compiled : schema.Compiled)
    (checked : schema.check registry (.dict data) = .ok report) :
    (∀ name property default, (name, property) ∈ schema.members →
      property.fallback = some default → fieldValue name data = .absent →
        report.data.lookup (.text name) = some default ∧
        ((∀ member ∈ schema.members, ∀ char ∈ member.1.toList, char ≠ '.' ∧ char ≠ '[') →
          ∀ entry ∈ report.complaints, Path.concerns name entry.1 = false)) ∧
    ((Value.dict data).Unmarked → schema.SuppliedBy (.dict data) →
      ∀ other, schema.Refilled other → other.check registry (.dict data) = .ok report) := by
  have names : (schema.members.map Prod.fst).Nodup := compiled.wellFormed.names
  refine ⟨?_, ?_⟩
  · intro name property default declared filled missing
    refine ⟨?_, ?_⟩
    · obtain ⟨found, _, _, rfl⟩ := (check_ok_iff ..).mp checked
      have sound := (compiled.wellFormed.members _ declared).here
      have present : default ≠ .absent := by
        rintro rfl
        exact sound.fallback filled
      rw [Report.ofFindings, entriesOf_normal_root, lookup_rebuilt_declared names declared, missing,
        normal_of_default filled, if_neg present]
    · intro apart entry reported
      have goes : ∀ member ∈ schema.members, ∀ char ∈ member.1.toList, ¬Path.beginsStep char :=
        fun member inside => Path.goes_of_free (apart member inside)
      obtain ⟨path, render, fails⟩ := failsAt_of_reported checked reported
      obtain ⟨other, child, rest, target, raw, rfl, declaredOther, reached, fails⟩ :=
        declared_of_failsAt fails
      rw [Bool.eq_false_iff, ← render]
      intro concerned
      obtain rfl := Path.eq_of_concerns (goes _ declared) (goes _ declaredOther) concerned
      -- the path starts at the field itself, which has a default in place of what is missing
      have same := List.inj_on_of_nodup_map names declaredOther declared rfl
      cases same
      rw [missing] at reached
      exact not_fails_filled filled reached fails
  · intro unmarked supplied other refilled
    rw [check_refilled refilled (Supplies.noneMissing supplied unmarked), checked]

def account (limits daily : Option Value) : Schema where
  mode := .filter
  cast := true
  members := [("limits", ⟨.object (some [("daily", ⟨.scalar .number, [], daily, []⟩)]),
      [⟨"required", []⟩], limits, []⟩),
    ("owner", ⟨.scalar .integer, [], none, []⟩)]
  extras := []

def filledAccount : Schema := account (some (.text "none")) (some (.int 10))

def withoutLimits : List (Key × Value) := [(.text "owner", .text "nobody")]

def withoutLimitsReport : Report where
  data := [(.text "limits", .text "none"), (.text "owner", .text "nobody")]
  complaints := [("owner", ⟨"VALIDATION_ERROR_NOT_INTEGER", "Value is not an integer"⟩)]

def withLimits : List (Key × Value) :=
  [(.text "limits", .dict [(.text "daily", .null)]), (.text "owner", .bool false)]

def withLimitsReport : Report where
  data := [(.text "limits", .dict [(.text "daily", .int 0)]), (.text "owner", .int 0)]
  complaints := []

theorem account_refilled (limits daily others otherDaily : Option Value) :
    (account limits daily).Refilled (account others otherDaily) where
  mode := rfl
  cast := rfl
  root := .node (.object (.cons (.node (.object (.cons (.node .scalar) .nil)))
    (.cons (.node .scalar) .nil)))

theorem unmarked_withLimits : (Value.dict withLimits).Unmarked := by
  refine .node (by simp) fun child inside => ?_
  simp only [Value.children, withLimits, List.map_cons, List.map_nil, List.mem_cons,
    List.not_mem_nil, or_false] at inside
  rcases inside with rfl | rfl
  · refine .node (by simp) fun child inside => ?_
    rw [List.mem_singleton.mp inside]
    exact .node (by simp) (by simp [Value.children])
  · exact .node (by simp) (by simp [Value.children])

theorem account_suppliedBy (limits daily : Option Value) :
    (account limits daily).SuppliedBy (.dict withLimits) := by
  have leaf : ∀ type fallback value, Supplies ⟨.scalar type, [], fallback, []⟩ value :=
    fun type fallback value => supplies_scalar type [] fallback [] value
  have inner : Supplies ⟨.object (some [("daily", ⟨.scalar .number, [], daily, []⟩)]),
      [⟨"required", []⟩], limits, []⟩ (.dict [(.text "daily", .null)]) := by
    refine supplies_object ?_ _ _ _
    exact List.forall_mem_singleton.mpr ⟨rfl, leaf _ _ _⟩
  have outer : Supplies (account limits daily).root (.dict withLimits) := by
    refine supplies_object ?_ _ _ _
    exact List.forall_mem_cons.mpr ⟨⟨rfl, inner⟩,
      List.forall_mem_singleton.mpr ⟨rfl, leaf _ _ _⟩⟩
  exact outer

theorem account_defaults :
    filledAccount.Compiled ∧
      filledAccount.check Standard.registry (.dict withoutLimits) = .ok withoutLimitsReport ∧
      withoutLimitsReport.data.lookup (.text "limits") = some (.text "none") ∧
      (∀ entry ∈ withoutLimitsReport.complaints, Path.concerns "limits" entry.1 = false) ∧
      filledAccount.check Standard.registry (.dict withLimits) = .ok withLimitsReport ∧
      (account none none).check Standard.registry (.dict withLimits) = .ok withLimitsReport := by
  have compiled : filledAccount.Compiled := ⟨_, Draft.authored_embed filledAccount.render, rfl⟩
  have missing : filledAccount.check Standard.registry (.dict withoutLimits) =
      .ok withoutLimitsReport := rfl
  have there : filledAccount.check Standard.registry (.dict withLimits) = .ok withLimitsReport :=
    rfl
  have filled := (defaults_are_for_missing_fields filledAccount Standard.registry withoutLimits _
    compiled missing).1 "limits" _ _ List.mem_cons_self rfl rfl
  have refilled := (defaults_are_for_missing_fields filledAccount Standard.registry withLimits _
    compiled there).2 unmarked_withLimits (account_suppliedBy _ _) _
      (account_refilled _ _ none none)
  have plain : ∀ member ∈ filledAccount.members, PlainName member.1 := by decide
  exact ⟨compiled, missing, filled.1, filled.2 fun member inside => (plain member inside).2, there,
    refilled⟩

end Schema

end RecordCheck
