import RecordCheck.Proofs.Number.Written
import RecordCheck.Proofs.Report.Check
import RecordCheck.Proofs.Schema.Compiled
import RecordCheck.Proofs.Walk.Strays

/-!
The same schema in its three modes. Main statement: where the filter and the loose mode give
reports, the strict mode gives none exactly when those reports differ. It then names the keys that the
loose mode keeps and the filter mode drops, unless one of them is an integer that is too long for a
name; otherwise the three reports are one.
-/

namespace RecordCheck

def Schema.inMode (schema : Schema) (mode : Mode) : Schema := { schema with mode }

namespace Schema

open Walk

variable {schema : Schema} {registry : Registry} {record : Value}

theorem setting_inMode (mode : Mode) : (schema.inMode mode).setting registry record =
    (schema.setting registry record).inMode mode := rfl

theorem root_inMode (mode : Mode) : (schema.inMode mode).root = schema.root := rfl

theorem report_of_check {mode : Mode} {entries : List (Key × Value)} {report : Report}
    (checked : (schema.inMode mode).check registry (.dict entries) = .ok report) :
    ∃ complaints, failures ((schema.setting registry (.dict entries)).inMode mode) schema.root
        (.dict entries) = .ok complaints ∧
      report = .ofFindings (entriesOf (normal ((schema.setting registry (.dict entries)).inMode mode)
        schema.root (.dict entries))) ⟨complaints, []⟩ := by
  obtain ⟨complaints, walked, _, same⟩ := (check_ok_iff ..).mp checked
  exact ⟨complaints, walked, same⟩

/-- The strict mode gives the report of the filter mode, or names the undeclared keys, if all of them
have names. -/
theorem strict_check_eq {entries : List (Key × Value)} {filtered : Report}
    (filterReturns : (schema.inMode .filter).check registry (.dict entries) = .ok filtered) :
    (schema.inMode .strict).check registry (.dict entries) =
      if Named (strays schema.root (.dict entries)) then
        if strays schema.root (.dict entries) = [] then .ok filtered
        else .error (.orphans ((strays schema.root (.dict entries)).map Stray.path))
      else .error (.walk (.integer .unwritable)) := by
  obtain ⟨complaints, walked, rfl⟩ := report_of_check filterReturns
  have own : ((schema.setting registry (.dict entries)).inMode .filter).mode ≠ .loose := nofun
  have strict : ((schema.setting registry (.dict entries)).inMode .filter).inMode .strict =
      (schema.setting registry (.dict entries)).inMode .strict := rfl
  have keys : reported ((schema.setting registry (.dict entries)).inMode .strict)
      (strays schema.root (.dict entries)) =
        (strays schema.root (.dict entries)).map Stray.path := rfl
  rw [check_eq, setting_inMode, root_inMode, keys]
  by_cases named : Named (strays schema.root (.dict entries))
  · rw [if_pos named]
    obtain ⟨normalEq, failuresEq⟩ := same_inStrict own named
    rw [strict] at normalEq failuresEq
    simp only [failuresEq, walked, normalEq]
    cases strays schema.root (.dict entries) with
    | nil => rfl
    | cons first later => rfl
  · have halted := halts own schema.root (.dict entries) named ⟨complaints, walked⟩
    rw [strict] at halted
    rw [if_neg named, halted]

theorem loose_eq_filtered {entries : List (Key × Value)} {filtered loose : Report}
    (none : strays schema.root (.dict entries) = [])
    (filterReturns : (schema.inMode .filter).check registry (.dict entries) = .ok filtered)
    (looseReturns : (schema.inMode .loose).check registry (.dict entries) = .ok loose) :
    loose = filtered := by
  obtain ⟨complaints, walked, rfl⟩ := report_of_check filterReturns
  obtain ⟨others, walkedLoose, rfl⟩ := report_of_check looseReturns
  have same : ∀ mode, SameIn (schema.setting registry (.dict entries)) mode schema.root
      (.dict entries) := fun mode => same_inMode _ _ (none ▸ unnoticed_nil)
  rw [(same .filter).2] at walked
  rw [(same .loose).2, walked] at walkedLoose
  cases walkedLoose
  rw [(same .filter).1, (same .loose).1]

theorem losesKey_reports {entries : List (Key × Value)} {filtered loose : Report}
    (names : schema.root.DistinctNames)
    (filterReturns : (schema.inMode .filter).check registry (.dict entries) = .ok filtered)
    (looseReturns : (schema.inMode .loose).check registry (.dict entries) = .ok loose)
    (hops : List Hop) (key : Key) :
    Value.LosesKey (.dict loose.data) (.dict filtered.data) hops key ↔
      (hops, key) ∈ strays schema.root (.dict entries) := by
  obtain ⟨complaints, _, rfl⟩ := report_of_check filterReturns
  obtain ⟨others, _, rfl⟩ := report_of_check looseReturns
  simp only [Report.ofFindings, dict_entriesOf_normal]
  exact losesKey_iff _ schema.root names (.dict entries) hops key

theorem named_iff {entries : List (Key × Value)} {filtered loose : Report}
    (lost : ∀ hops key, Value.LosesKey (.dict loose.data) (.dict filtered.data) hops key ↔
      (hops, key) ∈ strays schema.root (.dict entries)) :
    Named (strays schema.root (.dict entries)) ↔ ∀ hops key,
      Value.LosesKey (.dict loose.data) (.dict filtered.data) hops key → key.writable = true := by
  simp only [lost, Named, Prod.forall]

theorem data_eq_iff {entries : List (Key × Value)} {filtered loose : Report}
    (filterReturns : (schema.inMode .filter).check registry (.dict entries) = .ok filtered)
    (looseReturns : (schema.inMode .loose).check registry (.dict entries) = .ok loose)
    (lost : ∀ hops key, Value.LosesKey (.dict loose.data) (.dict filtered.data) hops key ↔
      (hops, key) ∈ strays schema.root (.dict entries)) :
    loose.data = filtered.data ↔ strays schema.root (.dict entries) = [] := by
  constructor
  · intro same
    refine List.eq_nil_iff_forall_not_mem.mpr ?_
    rintro ⟨hops, key⟩ member
    have there := (lost hops key).mpr member
    rw [same] at there
    exact Value.not_losesKey_self _ there
  · intro none
    rw [loose_eq_filtered none filterReturns looseReturns]

/-- Where the filter and the loose mode give reports, the strict mode fails only by naming
undeclared keys, or for a key that has no name. It does the latter exactly when the filtered report
drops such a key, and the former exactly when the two reports hold different data and all keys that
are dropped have names; then it names each of them once. Otherwise all three reports are the same. -/
theorem modes_agree (schema : Schema) (registry : Registry) (record : Value)
    (filtered loose : Report) (compiled : schema.Compiled) (distinct : record.DistinctKeys)
    (filterReturns : (schema.inMode .filter).check registry record = .ok filtered)
    (looseReturns : (schema.inMode .loose).check registry record = .ok loose) :
    (∀ error, (schema.inMode .strict).check registry record = .error error →
      (∃ paths, error = .orphans paths) ∨ error = .walk (.integer .unwritable)) ∧
    ((schema.inMode .strict).check registry record = .error (.walk (.integer .unwritable)) ↔
      ∃ hops key, Value.LosesKey (.dict loose.data) (.dict filtered.data) hops key ∧
        key.writable = false) ∧
    ((∃ paths, (schema.inMode .strict).check registry record = .error (.orphans paths)) ↔
      loose.data ≠ filtered.data ∧ ∀ hops key,
        Value.LosesKey (.dict loose.data) (.dict filtered.data) hops key →
          key.writable = true) ∧
    (∀ paths, (schema.inMode .strict).check registry record = .error (.orphans paths) →
      ∃ dropped : List (List Hop × Key), dropped.Nodup ∧
        (∀ hops key, (hops, key) ∈ dropped ↔
          Value.LosesKey (.dict loose.data) (.dict filtered.data) hops key) ∧
        paths = dropped.map fun lost => lost.1.map Hop.segment ++ [.name lost.2.spelled]) ∧
    ∀ report, (schema.inMode .strict).check registry record = .ok report →
      report = filtered ∧ report = loose := by
  obtain ⟨entries, rfl⟩ := mapping_of_check _ registry filterReturns
  have names := compiled.wellFormed.distinctNames
  have lost := losesKey_reports names filterReturns looseReturns
  have unnamed : (∃ hops key, Value.LosesKey (.dict loose.data) (.dict filtered.data) hops key ∧
      key.writable = false) ↔ ¬Named (strays schema.root (.dict entries)) := by
    rw [named_iff lost]
    simp
  rw [strict_check_eq filterReturns, unnamed, ← named_iff lost, Ne,
    data_eq_iff filterReturns looseReturns lost]
  by_cases named : Named (strays schema.root (.dict entries))
  · by_cases none : strays schema.root (.dict entries) = []
    · have same := loose_eq_filtered none filterReturns looseReturns
      rw [if_pos named, if_pos none, same]
      simp [none, Named]
    · rw [if_pos named, if_neg none]
      refine ⟨?_, ?_, ?_, ?_, ?_⟩
      · intro error refused
        cases refused
        exact Or.inl ⟨_, rfl⟩
      · refine iff_of_false ?_ (not_not_intro named)
        rintro ⟨⟩
      · exact iff_of_true ⟨_, rfl⟩ ⟨none, named⟩
      · intro paths refused
        cases refused
        exact ⟨strays schema.root (.dict entries), strays_nodup schema.root names _ distinct,
          fun hops key => (lost hops key).symm, rfl⟩
      · intro report returned
        cases returned
  · rw [if_neg named]
    simp [named]

def bare : Schema := ⟨.filter, false, [], []⟩

/-- The strict mode need not name the undeclared keys: a key can be too long an integer. -/
theorem strict_need_not_name :
    ¬∀ (schema : Schema) (record : Value) (filtered loose : Report), schema.Compiled →
      record.DistinctKeys → (schema.inMode .filter).check .empty record = .ok filtered →
      (schema.inMode .loose).check .empty record = .ok loose →
      ∀ error, (schema.inMode .strict).check .empty record = .error error →
        ∃ paths, error = .orphans paths := by
  intro claimed
  obtain ⟨integer, long⟩ := Whole.exists_unwritable
  have compiled : bare.Compiled := ⟨.dict [], Draft.authored_embed (.dict []), rfl⟩
  have distinct : (.dict [(.int integer, .null)] : Value).DistinctKeys := by
    refine .node (List.nodup_singleton _) ?_
    intro child member
    rw [List.mem_singleton.mp member]
    exact .node List.nodup_nil (by simp [Value.children])
  have filtered : (bare.inMode .filter).check .empty (.dict [(.int integer, .null)]) =
      .ok ⟨[], []⟩ := rfl
  have unnamed : ¬Named (strays bare.root (.dict [(.int integer, .null)])) := by
    intro named
    exact Bool.false_ne_true (long.symm.trans (named ([], .int integer) List.mem_cons_self))
  have failed := strict_check_eq filtered
  rw [if_neg unnamed] at failed
  obtain ⟨paths, same⟩ := claimed bare _ _ _ compiled distinct filtered rfl _ failed
  cases same

def addressSource : Value :=
  .dict [(.text "properties", .dict [(.text "home", .dict [(.text "properties",
    .dict [(.text "zip", .dict [(.text "type", .text "integer")])])])])]

def address : Schema where
  mode := .filter
  cast := false
  members := [("home", ⟨.object (some [("zip", ⟨.scalar .integer, [], none, []⟩)]), [], none, []⟩)]
  extras := []

def crowded : List (Key × Value) :=
  [(.text "home", .dict [(.text "zip", .int 1), (.text "unit", .int 2)]), (.bool true, .null)]

theorem crowded_distinctKeys : Value.DistinctKeys (.dict crowded) := by
  have leaf : ∀ value : Value, value.children = [] → value.keys = [] → value.DistinctKeys := by
    intro value children keys
    refine .node ?_ ?_
    · rw [keys]
      exact List.nodup_nil
    · rw [children]
      simp
  refine .node (by decide) ?_
  intro child member
  simp only [crowded, Value.children, List.map_cons, List.map_nil, List.mem_cons,
    List.not_mem_nil, or_false] at member
  rcases member with rfl | rfl
  · refine .node (by decide) ?_
    intro inner inside
    simp only [Value.children, List.map_cons, List.map_nil, List.mem_cons, List.not_mem_nil,
      or_false] at inside
    rcases inside with rfl | rfl <;> exact leaf _ rfl rfl
  · exact leaf _ rfl rfl

theorem address_modes_agree :
    address.Compiled ∧ Value.DistinctKeys (.dict crowded) ∧
      (address.inMode .filter).check .empty (.dict crowded) =
        .ok ⟨[(.text "home", .dict [(.text "zip", .int 1)])], []⟩ ∧
      (address.inMode .loose).check .empty (.dict crowded) = .ok ⟨crowded, []⟩ ∧
      ∀ paths, (address.inMode .strict).check .empty (.dict crowded) = .error (.orphans paths) →
        ∃ dropped : List (List Hop × Key), dropped.Nodup ∧
          (∀ hops key, (hops, key) ∈ dropped ↔ Value.LosesKey (.dict crowded)
            (.dict [(.text "home", .dict [(.text "zip", .int 1)])]) hops key) ∧
          paths = dropped.map fun lost => lost.1.map Hop.segment ++ [.name lost.2.spelled] := by
  have compiled : address.Compiled := ⟨_, Draft.authored_embed addressSource, rfl⟩
  have filtered : (address.inMode .filter).check .empty (.dict crowded) =
      .ok ⟨[(.text "home", .dict [(.text "zip", .int 1)])], []⟩ := rfl
  have loose : (address.inMode .loose).check .empty (.dict crowded) = .ok ⟨crowded, []⟩ := rfl
  exact ⟨compiled, crowded_distinctKeys, filtered, loose,
    (modes_agree address .empty (.dict crowded) _ _ compiled crowded_distinctKeys filtered
      loose).2.2.2.1⟩

end Schema

end RecordCheck
