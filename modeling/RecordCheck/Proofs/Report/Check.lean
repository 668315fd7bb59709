import RecordCheck.Proofs.Walk.Passes
import RecordCheck.Report

/-!
Checking a record is walking it as a field whose property is the whole schema. `check_eq` says so
once, and the results on walks carry over to reports; `check_ok_iff` reads off what a report holds.
-/

namespace RecordCheck.Schema

open Walk

variable (schema : Schema) (registry : Registry) (entries : List (Key × Value))

theorem failures_root (setting : Setting) :
    failures setting schema.root (.dict entries) =
      innerFailures setting schema.root.shape (.dict entries) := by
  have cast : castLeaf setting .object (.dict entries) = .ok (some (.dict entries)) :=
    castLeaf_container setting rfl _
  simp only [root, failures, reduceCtorEq, if_false, Shape.type, cast, Except.bind,
    FieldType.admits, Value.isMapping, Bool.not_true, Bool.false_eq_true, applyRules]
  cases innerFailures setting (.object (some schema.members)) (.dict entries) with
  | error error => rfl
  | ok found => simp [Except.map, Findings.none]

theorem normal_root (setting : Setting) :
    normal setting schema.root (.dict entries) =
      normalInside setting schema.root.shape (.dict entries) := by
  have cast : castLeaf setting .object (.dict entries) = .ok (some (.dict entries)) :=
    castLeaf_container setting rfl _
  simp [root, normal, Shape.type, cast, FieldType.admits, Value.isMapping]

theorem strays_root :
    strays schema.root (.dict entries) = innerStrays schema.root.shape (.dict entries) := by
  simp [root, strays, FieldType.admits, Shape.type, Value.isMapping]

theorem check_eq : schema.check registry (.dict entries) =
    match failures (schema.setting registry (.dict entries)) schema.root (.dict entries) with
    | .error error => .error (.walk error)
    | .ok complaints =>
        let orphans := reported (schema.setting registry (.dict entries))
          (strays schema.root (.dict entries))
        if orphans.isEmpty then
          .ok (.ofFindings (entriesOf (normal (schema.setting registry (.dict entries)) schema.root
            (.dict entries))) ⟨complaints, orphans⟩)
        else .error (.orphans orphans) := by
  rw [failures_root, normal_root, strays_root]
  have inside := visitInside_eq (schema.setting registry (.dict entries)) schema.root.shape
    (fun child _ => visit_eq _ child) [] (.dict entries)
  have shape : schema.root.shape = .object (some schema.members) := rfl
  rw [shape] at inside ⊢
  simp only [check, Value.isMapping, Bool.not_true, Bool.false_eq_true, if_false, inside]
  cases innerFailures (schema.setting registry (.dict entries)) (.object (some schema.members))
      (.dict entries) with
  | error error => rfl
  | ok complaints =>
      simp only [Except.map, Findings.under_nil, findings]

/-- A report is that of a walk that came to its end and met no key that the mode forbids. -/
theorem check_ok_iff {report : Report} : schema.check registry (.dict entries) = .ok report ↔
    ∃ found, failures (schema.setting registry (.dict entries)) schema.root (.dict entries) =
        .ok found ∧
      reported (schema.setting registry (.dict entries)) (strays schema.root (.dict entries)) = [] ∧
      report = .ofFindings (entriesOf (normal (schema.setting registry (.dict entries)) schema.root
        (.dict entries))) ⟨found, []⟩ := by
  rw [check_eq]
  cases failures (schema.setting registry (.dict entries)) schema.root (.dict entries) with
  | error error => simp
  | ok found =>
      dsimp only
      constructor
      · intro returned
        split at returned
        · rename_i none
          cases returned
          exact ⟨found, rfl, List.isEmpty_iff.mp none, by rw [List.isEmpty_iff.mp none]⟩
        · cases returned
      · rintro ⟨_, same, none, rfl⟩
        cases same
        rw [none]
        rfl

theorem dict_entriesOf_normal (setting : Setting) :
    .dict (entriesOf (normal setting schema.root (.dict entries))) =
      normal setting schema.root (.dict entries) := by
  rw [normal_root]
  rfl

theorem mapping_of_check {record : Value} {report : Report}
    (checked : schema.check registry record = .ok report) : ∃ entries, record = .dict entries := by
  cases record with
  | dict entries => exact ⟨entries, rfl⟩
  | _ => simp [check, Value.isMapping] at checked

end RecordCheck.Schema
