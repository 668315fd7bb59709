import RecordCheck.Proofs.Entries
import RecordCheck.Proofs.Rendering
import RecordCheck.Proofs.Report.Check
import RecordCheck.Proofs.Schema.Compiled
import RecordCheck.Proofs.Walk.Locations

/-!
What a report says. Main statement: the complaints of a report are the failing locations of the
record, one entry for each, under the location's written path.
-/

namespace RecordCheck

/-- Every declared name, at every level, can be told apart in a written path. -/
def Property.PlainNames (property : Property) : Prop :=
  property.Everywhere fun node => ∀ name ∈ node.shape.names, PlainName name

/-- A field that the check of a record comes to: where it stands, its definition and its value. A
field that is not there has the absent marker for its value. -/
def Schema.Location (schema : Schema) (record : Value) (path : Path) (property : Property)
    (value : Value) : Prop :=
  Walk.Reaches schema.root record path property value

def Schema.FailsAt (schema : Schema) (registry : Registry) (record : Value) (path : Path)
    (complaint : Complaint) : Prop :=
  ∃ property value, schema.Location record path property value ∧
    Walk.Fails (schema.setting registry record) property value complaint

namespace Walk

theorem Inside.plain {shape : Shape Property} {value element : Value} {segment : Segment}
    {child : Property} (inside : Inside shape value segment child element)
    (plain : ∀ name ∈ shape.names, PlainName name) : segment.Plain := by
  cases inside with
  | field declared => exact plain _ (List.mem_map_of_mem (f := Prod.fst) declared)
  | item _ => exact Int.natCast_nonneg _

theorem reaches_plain {property target : Property} {value raw : Value} {path : Path}
    (plain : property.PlainNames) (reached : Reaches property value path target raw) :
    ∀ segment ∈ path, segment.Plain := by
  induction path generalizing property value with
  | nil => simp
  | cons first rest ih =>
      obtain ⟨_, child, element, inside, reached⟩ := reaches_cons.mp reached
      intro segment member
      rcases List.mem_cons.mp member with same | later
      · rw [same]
        exact inside.plain plain.here
      · exact ih (plain.inside inside.child_mem) reached segment later

end Walk

namespace Schema

variable {schema : Schema} {registry : Registry} {record : Value} {report : Report}

theorem failsAt_plain (plain : schema.root.PlainNames) {path : Path} {complaint : Complaint}
    (fails : schema.FailsAt registry record path complaint) : ∀ segment ∈ path, segment.Plain := by
  obtain ⟨property, value, reached, _⟩ := fails
  exact Walk.reaches_plain plain reached

theorem ofFindings_complaints {data : List (Key × Value)} {found : Walk.Complaints}
    {orphans : List Path} (texts : (found.map fun entry => entry.1.render).Nodup) :
    (Report.ofFindings data ⟨found, orphans⟩).complaints =
      found.map fun entry => (entry.1.render, entry.2) := by
  apply Entries.firsts_of_nodup
  simpa [Function.comp_def] using texts

theorem rendered_nodup (distinct : schema.root.DistinctNames) (plain : schema.root.PlainNames)
    {found : Walk.Complaints}
    (walked : Walk.failures (schema.setting registry record) schema.root record = .ok found) :
    (found.map fun entry => entry.1.render).Nodup := by
  have paths := Walk.failures_nodup distinct walked
  have fails : ∀ path complaint, (path, complaint) ∈ found →
      schema.FailsAt registry record path complaint :=
    fun path complaint member => (Walk.mem_failures_iff walked path complaint).mp member
  have twice : (found.map fun entry => entry.1.render) =
      (found.map Prod.fst).map Path.render := by simp
  rw [twice]
  refine paths.map_on fun left leftMember right rightMember same => ?_
  obtain ⟨⟨_, leftComplaint⟩, leftFound, rfl⟩ := List.mem_map.mp leftMember
  obtain ⟨⟨_, rightComplaint⟩, rightFound, rfl⟩ := List.mem_map.mp rightMember
  exact Path.render_injective (failsAt_plain plain (fails _ _ leftFound))
    (failsAt_plain plain (fails _ _ rightFound)) same

theorem complaints_eq (distinct : schema.root.DistinctNames) (plain : schema.root.PlainNames)
    (checked : schema.check registry record = .ok report) :
    ∃ found : Walk.Complaints,
      report.complaints = found.map (fun entry => (entry.1.render, entry.2)) ∧
      (found.map fun entry => entry.1.render).Nodup ∧ (found.map Prod.fst).Nodup ∧
      ∀ path complaint,
        (path, complaint) ∈ found ↔ schema.FailsAt registry record path complaint := by
  obtain ⟨entries, rfl⟩ := schema.mapping_of_check registry checked
  obtain ⟨found, walked, _, rfl⟩ := (check_ok_iff ..).mp checked
  have texts := rendered_nodup distinct plain walked
  exact ⟨found, ofFindings_complaints texts, texts, Walk.failures_nodup distinct walked,
    Walk.mem_failures_iff walked⟩

/-- The complaints of a report are exactly the failing locations: each has one entry, under its
written path, no other entry is there, and a record without failing locations is accepted. -/
theorem report_lists_failing_locations (schema : Schema) (registry : Registry) (record : Value)
    (report : Report) (compiled : schema.Compiled) (plain : schema.root.PlainNames)
    (checked : schema.check registry record = .ok report) :
    (∀ text complaint, (text, complaint) ∈ report.complaints ↔
      ∃ path, path.render = text ∧ schema.FailsAt registry record path complaint) ∧
    (report.complaints.map Prod.fst).Nodup ∧
    (∀ path other complaint otherComplaint, schema.FailsAt registry record path complaint →
      schema.FailsAt registry record other otherComplaint → path.render = other.render →
        path = other ∧ complaint = otherComplaint) ∧
    (report.success = true ↔ ∀ path complaint, ¬schema.FailsAt registry record path complaint) := by
  have distinct := compiled.wellFormed.distinctNames
  obtain ⟨found, complaints, texts, paths, mem⟩ := complaints_eq distinct plain checked
  refine ⟨?_, ?_, ?_, ?_⟩
  · intro text complaint
    rw [complaints, List.mem_map]
    constructor
    · rintro ⟨⟨path, own⟩, member, same⟩
      cases same
      exact ⟨path, rfl, (mem path own).mp member⟩
    · rintro ⟨path, rfl, fails⟩
      exact ⟨(path, complaint), (mem path complaint).mpr fails, rfl⟩
  · rw [complaints]
    simpa [Function.comp_def] using texts
  · intro path other complaint otherComplaint fails otherFails same
    have samePath := Path.render_injective (failsAt_plain plain fails)
      (failsAt_plain plain otherFails) same
    refine ⟨samePath, ?_⟩
    have member := (mem path complaint).mpr fails
    have otherMember := (mem other otherComplaint).mpr otherFails
    rw [← samePath] at otherMember
    exact congrArg Prod.snd (List.inj_on_of_nodup_map paths member otherMember rfl)
  · rw [Report.success, complaints, List.isEmpty_iff, List.map_eq_nil_iff]
    constructor
    · rintro rfl path complaint fails
      exact nomatch (mem path complaint).mpr fails
    · intro none
      apply List.eq_nil_iff_forall_not_mem.mpr
      rintro ⟨path, complaint⟩ member
      exact none path complaint ((mem path complaint).mp member)

def listingSource : Value :=
  .dict [(.text "properties", .dict [
    (.text "tags", .dict [(.text "type", .text "string"), (.text "array", .bool true)]),
    (.text "size", .dict [(.text "type", .text "number"), (.text "validation", .text "known")])])]

def listing : Schema where
  mode := .filter
  cast := false
  members := [("tags", ⟨.array (some ⟨.scalar .string, [], none, []⟩), [], none, []⟩),
    ("size", ⟨.scalar .number, [⟨"known", []⟩], none, []⟩)]
  extras := []

theorem listing_plain : listing.root.PlainNames := by
  have leaf : ∀ type rules, Property.PlainNames ⟨.scalar type, rules, none, []⟩ :=
    fun type rules => .node (by simp [Shape.names]) (by simp)
  refine .node (by decide) ?_
  intro child inside
  simp only [root, listing, Shape.children_object_some, List.map_cons, List.map_nil,
    List.mem_cons, List.not_mem_nil, or_false] at inside
  rcases inside with rfl | rfl
  · refine .node (by simp [Shape.names]) ?_
    intro item member
    rw [List.mem_singleton.mp member]
    exact leaf _ _
  · exact leaf _ _

def listingReport : Report where
  data := [(.text "tags", .list [.text "a", .int 1]), (.text "size", .int 2)]
  complaints := [("tags[1]", ⟨"VALIDATION_ERROR_NOT_STRING", "Value is not a string"⟩),
    ("size", ⟨"VALIDATION_UNKNOWN_RULE", "Unknown validation rule 'known'"⟩)]

theorem listing_reports_failing_locations :
    listing.Compiled ∧ listing.root.PlainNames ∧
      listing.check .empty (.dict listingReport.data) = .ok listingReport ∧
      ∀ text complaint, (text, complaint) ∈ listingReport.complaints ↔ ∃ path,
        path.render = text ∧ listing.FailsAt .empty (.dict listingReport.data) path complaint := by
  have compiled : listing.Compiled := ⟨_, Draft.authored_embed listingSource, rfl⟩
  have checked : listing.check .empty (.dict listingReport.data) = .ok listingReport := by rfl
  exact ⟨compiled, listing_plain, checked,
    (report_lists_failing_locations _ _ _ _ compiled listing_plain checked).1⟩

end Schema

end RecordCheck
