import RecordCheck.Proofs.Report.Check
import RecordCheck.Proofs.Schema.Compiled
import RecordCheck.Proofs.Walk.Asked
import RecordCheck.Proofs.Walk.Settled
import RecordCheck.Proofs.Walk.Untouched

/-!
The data of a report, for schemas without defaults. Main statements: data that was accepted is
accepted again as it is; and without casts the data is the record, less the undeclared keys where
the mode drops them.
-/

namespace RecordCheck.Schema

open Walk

variable {schema : Schema}

theorem sameAnswers_of_recordFree
    (free : schema.root.Everywhere fun node => ∀ directive ∈ node.rules,
      Standard.RecordFree directive) (first second : Value) :
    schema.root.Everywhere fun node => ∀ directive ∈ node.rules,
      SameAnswers (schema.setting Standard.registry first)
        (schema.setting Standard.registry second) node.type directive := by
  refine sameAnswers_of_reads rfl rfl (free.mono fun node each directive member => ?_)
  rw [Standard.reads_of_recordFree (each directive member)]
  exact nofun

theorem settled_of_accepted {registry : Registry} {entries : List (Key × Value)} {report : Report}
    (names : schema.root.DistinctNames) (unfilled : schema.root.Unfilled)
    (checked : schema.check registry (.dict entries) = .ok report)
    (accepted : report.success = true) :
    Settled (schema.setting registry (.dict entries)) schema.root (.dict report.data) := by
  obtain ⟨found, walked, _, rfl⟩ := (check_ok_iff ..).mp checked
  have silent : found = [] := by
    have none := Entries.firsts_eq_nil.mp (List.isEmpty_iff.mp accepted)
    exact List.map_eq_nil_iff.mp none
  rw [silent] at walked
  rw [Report.ofFindings, dict_entriesOf_normal]
  exact settled_normal schema.root names unfilled (.dict entries) walked

/-- The data of a report without complaints is checked with the same report, if no field has a
default and no rule looks at the record. -/
theorem accepted_again (schema : Schema) (record : Value) (report : Report)
    (compiled : schema.Compiled) (unfilled : schema.root.Unfilled)
    (free : schema.root.Everywhere fun node => ∀ directive ∈ node.rules,
      Standard.RecordFree directive)
    (checked : schema.check Standard.registry record = .ok report)
    (accepted : report.success = true) :
    schema.check Standard.registry (.dict report.data) = .ok report := by
  obtain ⟨entries, rfl⟩ := mapping_of_check _ _ checked
  obtain ⟨normal, silent, strays⟩ :=
    settled_of_accepted compiled.wellFormed.distinctNames unfilled checked accepted
  -- the walk over the data is held to the rules of another record
  have mode : (schema.setting Standard.registry (.dict entries)).mode =
      (schema.setting Standard.registry (.dict report.data)).mode := rfl
  have cast : (schema.setting Standard.registry (.dict entries)).cast =
      (schema.setting Standard.registry (.dict report.data)).cast := rfl
  rw [failures_congr mode cast schema.root (sameAnswers_of_recordFree free _ _)] at silent
  rw [normal_congr mode cast schema.root] at normal
  refine (check_ok_iff ..).mpr ⟨[], silent, ?_, ?_⟩
  · -- only the loose mode lets undeclared keys into the data, and it forbids none
    by_cases loose : schema.mode = .loose
    · simp [reported, setting, loose]
    · rw [strays loose, reported_nil]
  · obtain ⟨data, complaints⟩ := report
    have none : complaints = [] := List.isEmpty_iff.mp accepted
    rw [none, normal]
    rfl

def orderSource : Value :=
  .dict [(.text "cast", .bool true), (.text "properties", .dict [
    (.text "amount", .dict [(.text "type", .text "integer"),
      (.text "validation", .text "betweenNumber[1,9]")]),
    (.text "labels", .dict [(.text "type", .text "string"), (.text "array", .bool true),
      (.text "validation", .text "minLength[1]")]),
    (.text "home", .dict [(.text "properties", .dict [
      (.text "zip", .dict [(.text "type", .text "string"),
        (.text "validation", .text "required")])])])])]

def order : Schema where
  mode := .filter
  cast := true
  members := [
    ("amount", ⟨.scalar .integer,
      [⟨"betweenNumber", [.positional (.text "1"), .positional (.text "9")]⟩], none, []⟩),
    ("labels", ⟨.array (some ⟨.scalar .string,
      [⟨"minLength", [.positional (.text "1")]⟩], none, []⟩), [], none, []⟩),
    ("home", ⟨.object (some [("zip", ⟨.scalar .string, [⟨"required", []⟩], none, []⟩)]),
      [], none, []⟩)]
  extras := []

theorem order_unfilled_recordFree : order.root.Everywhere fun node =>
    node.fallback = none ∧ ∀ directive ∈ node.rules, Standard.RecordFree directive := by
  refine .node ⟨rfl, by decide⟩ fun child inside => ?_
  simp only [root, order, Shape.children_object_some, List.map_cons, List.map_nil, List.mem_cons,
    List.not_mem_nil, or_false] at inside
  rcases inside with rfl | rfl | rfl
  · exact .node ⟨rfl, by decide⟩ (by simp)
  · refine .node ⟨rfl, by decide⟩ fun label inside => ?_
    rw [List.mem_singleton.mp inside]
    exact .node ⟨rfl, by decide⟩ (by simp)
  · refine .node ⟨rfl, by decide⟩ fun zip inside => ?_
    rw [List.mem_singleton.mp inside]
    exact .node ⟨rfl, by decide⟩ (by simp)

def ordered : List (Key × Value) :=
  [(.text "home", .dict [(.text "zip", .int 7), (.text "unit", .null)]),
    (.text "amount", .text "5"), (.text "labels", .tuple [.text "a", .int 1])]

def orderedReport : Report where
  data := [(.text "amount", .int 5), (.text "labels", .list [.text "a", .text "1"]),
    (.text "home", .dict [(.text "zip", .text "7")])]
  complaints := []

theorem order_accepted_again :
    order.Compiled ∧ order.root.Unfilled ∧ orderedReport.data ≠ ordered ∧
      order.check Standard.registry (.dict ordered) = .ok orderedReport ∧
      order.check Standard.registry (.dict orderedReport.data) = .ok orderedReport := by
  have compiled : order.Compiled := ⟨_, Draft.authored_embed orderSource, rfl⟩
  have unfilled : order.root.Unfilled := order_unfilled_recordFree.mono fun _ both => both.1
  have free := order_unfilled_recordFree.mono fun _ both => both.2
  have checked : order.check Standard.registry (.dict ordered) = .ok orderedReport := by
    decide +kernel
  exact ⟨compiled, unfilled, by decide +kernel, checked,
    accepted_again order _ orderedReport compiled unfilled free checked rfl⟩

/-- Without casts and defaults the data of a report is the record, whatever is complained about: all
of it in the loose mode, and the record without the undeclared keys in the filter mode. -/
theorem data_untouched (schema : Schema) (registry : Registry) (record : Value) (report : Report)
    (compiled : schema.Compiled) (uncast : schema.cast = false) (unfilled : schema.root.Unfilled)
    (untupled : record.Untupled) (distinct : record.DistinctKeys)
    (checked : schema.check registry record = .ok report) :
    (schema.mode = .loose → Value.Alike (.dict report.data) record) ∧
    (schema.mode = .filter → Value.Alike (.dict report.data) (schema.root.pruned record)) := by
  obtain ⟨entries, rfl⟩ := mapping_of_check _ _ checked
  obtain ⟨found, _, _, rfl⟩ := (check_ok_iff ..).mp checked
  have uncastWalk : (schema.setting registry (.dict entries)).cast = false := uncast
  have alike : Value.Alike (normal (schema.setting registry (.dict entries)) schema.root
      (.dict entries)) (schema.mode.leaves schema.root (.dict entries)) :=
    untouched uncastWalk schema.root compiled.wellFormed.distinctNames unfilled _ untupled distinct
  rw [Report.ofFindings, dict_entriesOf_normal]
  constructor
  · intro loose
    rw [loose] at alike
    exact alike
  · intro filter
    rw [filter] at alike
    exact alike

def postalSource (mode : Mode) : Value :=
  .dict [(.text "mode", .text mode.name), (.text "properties", .dict [
    (.text "home", .dict [(.text "properties", .dict [
      (.text "zip", .dict [(.text "type", .text "string")])])])])]

def postal (mode : Mode) : Schema where
  mode := mode
  cast := false
  members := [("home", ⟨.object (some [("zip", ⟨.scalar .string, [], none, []⟩)]), [], none, []⟩)]
  extras := []

theorem postal_compiled (mode : Mode) : (postal mode).Compiled := by
  refine ⟨_, Draft.authored_embed (postalSource mode), ?_⟩
  cases mode <;> rfl

theorem postal_unfilled (mode : Mode) : (postal mode).root.Unfilled := by
  refine .node rfl fun home inside => ?_
  rw [List.mem_singleton.mp inside]
  refine .node rfl fun zip inside => ?_
  rw [List.mem_singleton.mp inside]
  exact .node rfl nofun

def misfiledHome : Value := .dict [(.text "unit", .int 2), (.text "zip", .int 1)]

def misfiled : Value := .dict [(.bool true, .null), (.text "home", misfiledHome)]

theorem mem_children_misfiled {value : Value} (inside : value ∈ misfiled.children) :
    value = .null ∨ value = misfiledHome := by
  simpa [misfiled, Value.children] using inside

theorem mem_children_misfiledHome {value : Value} (inside : value ∈ misfiledHome.children) :
    value = .int 2 ∨ value = .int 1 := by
  simpa [misfiledHome, Value.children] using inside

theorem misfiled_untupled : misfiled.Untupled := by
  refine .node nofun nofun fun value inside => ?_
  rcases mem_children_misfiled inside with rfl | rfl
  · exact .node nofun nofun nofun
  · refine .node nofun nofun fun field inside => ?_
    rcases mem_children_misfiledHome inside with rfl | rfl <;> exact .node nofun nofun nofun

theorem misfiled_distinctKeys : misfiled.DistinctKeys := by
  refine .node (by decide) fun value inside => ?_
  rcases mem_children_misfiled inside with rfl | rfl
  · exact .node (by decide) nofun
  · refine .node (by decide) fun field inside => ?_
    rcases mem_children_misfiledHome inside with rfl | rfl <;> exact .node (by decide) nofun

def misfiledReport (data : List (Key × Value)) : Report where
  data := data
  complaints := [("home.zip", ⟨"VALIDATION_ERROR_NOT_STRING", "Value is not a string"⟩)]

def misfiledLoose : List (Key × Value) :=
  [(.text "home", .dict [(.text "zip", .int 1), (.text "unit", .int 2)]), (.bool true, .null)]

def misfiledFiltered : List (Key × Value) := [(.text "home", .dict [(.text "zip", .int 1)])]

theorem postal_data_untouched :
    misfiled.Untupled ∧ misfiled.DistinctKeys ∧
      (postal .loose).check .empty misfiled = .ok (misfiledReport misfiledLoose) ∧
      (postal .filter).check .empty misfiled = .ok (misfiledReport misfiledFiltered) ∧
      .dict misfiledLoose ≠ misfiled ∧ Value.Alike (.dict misfiledLoose) misfiled ∧
      Value.Alike (.dict misfiledFiltered) ((postal .filter).root.pruned misfiled) := by
  have loose : (postal .loose).check .empty misfiled = .ok (misfiledReport misfiledLoose) := rfl
  have filtered : (postal .filter).check .empty misfiled =
      .ok (misfiledReport misfiledFiltered) := rfl
  have data := fun mode report => data_untouched (postal mode) .empty misfiled report
    (postal_compiled mode) rfl (postal_unfilled mode) misfiled_untupled misfiled_distinctKeys
  exact ⟨misfiled_untupled, misfiled_distinctKeys, loose, filtered, by decide,
    (data .loose _ loose).1 rfl, (data .filter _ filtered).2 rfl⟩

end RecordCheck.Schema
