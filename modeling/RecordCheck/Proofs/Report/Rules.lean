import RecordCheck.Proofs.Report.Failures
import RecordCheck.Proofs.Walk.Asked
import RecordCheck.Proofs.Walk.WithoutRules

/-!
What rules see of a record and what they change in a report. Main statements: a rule is asked about
values of the type of its field only, so predicates that agree there give the same outcome; and the
rules of a schema change neither the data of a report nor the complaints about types.
-/

namespace RecordCheck

/-- Rules that differ in their predicates at most, as far as reports go. -/
structure Rule.ReportsAlike (one other : Rule) : Prop where
  errorId : one.errorId = other.errorId
  template : one.template = other.template
  checkMissing : one.checkMissing = other.checkMissing

/-- Registries with the same names, whose rules differ in their predicates at most. -/
structure Registry.ReportsAlike (first second : Registry) : Prop where
  names : ∀ name, first.contains name = second.contains name
  rules : ∀ name one other, first.find? name = some one → second.find? name = some other →
    one.ReportsAlike other

theorem Rule.ReportsAlike.evaluate {one other : Rule} (alike : one.ReportsAlike other)
    {value record : Value} {arguments : List Argument}
    (agree : one.predicate value arguments record = other.predicate value arguments record) :
    one.evaluate value arguments record = other.evaluate value arguments record := by
  rw [Rule.evaluate, Rule.evaluate, agree, Rule.message, Rule.message, alike.template,
    alike.errorId]

namespace Schema

/-- Some field of the type has a rule of the name, at any level. -/
def Carries (schema : Schema) (name : String) (type : FieldType) : Prop :=
  ∃ property : Property, property.Within schema.root ∧ property.type = type ∧
    ∃ directive ∈ property.rules, directive.name = name

open Walk

variable {schema : Schema} {first second : Registry} {record : Value}

theorem sameAnswers_of_agree (alike : first.ReportsAlike second)
    (agree : ∀ name type one other, schema.Carries name type → first.find? name = some one →
      second.find? name = some other → ∀ value, Askable one type value → ∀ arguments record,
        one.predicate value arguments record = other.predicate value arguments record) :
    schema.root.Everywhere fun node => ∀ directive ∈ node.rules,
      SameAnswers (schema.setting first record) (schema.setting second record) node.type
        directive := by
  refine Property.Everywhere.of_within fun node inside directive member => ?_
  have carries : schema.Carries directive.name node.type :=
    ⟨node, inside, rfl, directive, member, rfl⟩
  have known := alike.names directive.name
  cases one : first.find? directive.name with
  | none =>
      have other : second.find? directive.name = none := by
        simpa [Registry.contains, one] using known
      exact .unknown one other
  | some rule =>
      have found : (second.find? directive.name).isSome = true := by
        simpa [Registry.contains, one] using known.symm
      obtain ⟨counterpart, other⟩ := Option.isSome_iff_exists.mp found
      have reports := alike.rules _ _ _ one other
      refine .known one other reports.checkMissing fun value asked => ?_
      have answer := agree _ _ _ _ carries one other value asked directive.arguments record
      exact reports.evaluate answer

/-- Two registries with the same names, error identifiers, templates and flags give the same
outcome, whatever it is, if their predicates agree on the values of the types of the fields that
carry the rules, and on null for the rules that check missing fields. -/
theorem outcome_depends_on_admitted_values (schema : Schema) (first second : Registry)
    (record : Value) (alike : first.ReportsAlike second)
    (agree : ∀ name type one other, schema.Carries name type → first.find? name = some one →
      second.find? name = some other → ∀ value, Askable one type value → ∀ arguments record,
        one.predicate value arguments record = other.predicate value arguments record) :
    schema.check first record = schema.check second record := by
  cases record with
  | dict entries =>
      have mode : (schema.setting first (.dict entries)).mode =
          (schema.setting second (.dict entries)).mode := rfl
      have cast : (schema.setting first (.dict entries)).cast =
          (schema.setting second (.dict entries)).cast := rfl
      have failuresEq := failures_congr mode cast schema.root (sameAnswers_of_agree alike agree)
        (.dict entries)
      have normalEq := normal_congr mode cast schema.root (.dict entries)
      rw [check_eq, check_eq, failuresEq, normalEq]
      rfl
  | _ => rfl

def startRule (predicate : Predicate) : Rule :=
  .make "startsWith" predicate "Value should start with \x7b0\x7d" none false

def starting (predicate : Predicate) : Registry := .ofRules [startRule predicate]

theorem find?_starting (predicate : Predicate) (name : String) : (starting predicate).find? name =
    if name = "startsWith" then some (startRule predicate) else none := by
  have only : (starting predicate).find? name =
      List.lookup name [("startsWith", startRule predicate)] := rfl
  rw [only, List.lookup_cons, List.lookup_nil]
  by_cases same : name = "startsWith"
  · simp [same]
  · have differs : (name == "startsWith") = false := by simpa using same
    simp [same, differs]

theorem eq_startRule {predicate : Predicate} {name : String} {rule : Rule}
    (found : (starting predicate).find? name = some rule) : rule = startRule predicate := by
  rw [find?_starting] at found
  split at found
  · cases found
    rfl
  · cases found

def startsWith : Predicate := fun value arguments _ =>
  match value, arguments with
  | .text content, .positional (.text start) :: _ =>
      .ok (start.toList.isPrefixOf content.toList)
  | _, _ => .ok false

/-- How a text starts, for texts only: the predicate fails on other values. -/
def startsText : Predicate := fun value arguments record =>
  match value with
  | .text _ => startsWith value arguments record
  | _ => .error (.raised "TypeError" "a text is needed")

def labels : Schema where
  mode := .filter
  cast := false
  members := [("labels", ⟨.array (some ⟨.scalar .string,
    [⟨"startsWith", [.positional (.text "a")]⟩], none, []⟩), [], none, []⟩)]
  extras := []

theorem labels_carries {name : String} {type : FieldType} (carries : labels.Carries name type) :
    type = .scalar .string := by
  have everywhere : labels.root.Everywhere fun node =>
      ∀ directive ∈ node.rules, node.type = .scalar .string := by
    refine .node nofun fun child inside => ?_
    rw [List.mem_singleton.mp inside]
    refine .node nofun fun item inside => ?_
    rw [List.mem_singleton.mp inside]
    exact .node (fun _ _ => rfl) nofun
  obtain ⟨property, inside, rfl, directive, member, _⟩ := carries
  exact everywhere.within inside directive member

def labelsReport : Report where
  data := [(.text "labels", .list [.text "ab", .int 1, .text "b"])]
  complaints := [("labels[1]", ⟨"VALIDATION_ERROR_NOT_STRING", "Value is not a string"⟩),
    ("labels[2]", ⟨"VALIDATION_FAILED_STARTS_WITH", "Value should start with a"⟩)]

theorem labels_outcome :
    (starting startsWith).ReportsAlike (starting startsText) ∧
      (∀ arguments record, startsWith (.int 1) arguments record ≠
        startsText (.int 1) arguments record) ∧
      labels.check (starting startsWith) (.dict labelsReport.data) =
        labels.check (starting startsText) (.dict labelsReport.data) ∧
      labels.check (starting startsText) (.dict labelsReport.data) = .ok labelsReport := by
  have alike : (starting startsWith).ReportsAlike (starting startsText) := by
    constructor
    · intro name
      simp only [Registry.contains, find?_starting]
      split <;> rfl
    · intro name one other found foundOther
      rw [eq_startRule found, eq_startRule foundOther]
      exact ⟨rfl, rfl, rfl⟩
  refine ⟨alike, by simp [startsWith, startsText], ?_, rfl⟩
  refine outcome_depends_on_admitted_values labels _ _ _ alike ?_
  intro name type one other carries found foundOther value asked arguments record
  rw [eq_startRule found] at asked ⊢
  rw [eq_startRule foundOther]
  -- the rule stands at a field of texts, and for texts the two predicates are the same
  rcases asked with admitted | ⟨checks, _⟩
  · rw [labels_carries carries] at admitted
    cases value with
    | text content => rfl
    | _ => cases admitted
  · cases checks

/-- Either the schema and the schema without its rules name the same undeclared keys, or both give
reports; then the data is the same, and the complaints of the schema without rules are among the
others, in the same order. -/
theorem rules_only_add_complaints (schema : Schema) (registry : Registry) (record : Value)
    (compiled : schema.Compiled) (plain : schema.root.PlainNames)
    (raises : ∀ error, schema.check registry record = .error error →
      ∃ paths, error = .orphans paths) :
    (∃ paths, schema.check registry record = .error (.orphans paths) ∧
      schema.withoutRules.check registry record = .error (.orphans paths)) ∨
    ∃ report bare, schema.check registry record = .ok report ∧
      schema.withoutRules.check registry record = .ok bare ∧ bare.data = report.data ∧
        bare.complaints.Sublist report.complaints := by
  cases record with
  | dict entries =>
      have distinct := compiled.wellFormed.distinctNames
      have full := check_eq schema registry entries
      have stripped := check_eq schema.withoutRules registry entries
      have root : schema.withoutRules.root = schema.root.withoutRules := rfl
      have setting : schema.withoutRules.setting registry (.dict entries) =
          schema.setting registry (.dict entries) := rfl
      rw [root, setting, strays_withoutRules, normal_withoutRules] at stripped
      cases walked : failures (schema.setting registry (.dict entries)) schema.root
          (.dict entries) with
      | error error =>
          rw [walked] at full
          obtain ⟨paths, impossible⟩ := raises _ full
          cases impossible
      | ok found =>
          obtain ⟨fewer, returned, sublist⟩ := failures_withoutRules schema.root _ found walked
          have texts := rendered_nodup distinct plain walked
          rw [walked] at full
          rw [returned] at stripped
          dsimp only at full stripped
          split at full
          · rename_i none
            rw [if_pos none] at stripped
            refine Or.inr ⟨_, _, full, stripped, rfl, ?_⟩
            rw [ofFindings_complaints texts, ofFindings_complaints (texts.sublist (sublist.map _))]
            exact sublist.map _
          · rename_i some
            rw [if_neg some] at stripped
            exact Or.inl ⟨_, full, stripped⟩
  | _ =>
      obtain ⟨paths, impossible⟩ := raises _ rfl
      cases impossible

def listingReportOfTypes : Report where
  data := listingReport.data
  complaints := [("tags[1]", ⟨"VALIDATION_ERROR_NOT_STRING", "Value is not a string"⟩)]

theorem listing_only_adds_complaints :
    listing.Compiled ∧ listing.root.PlainNames ∧
      listing.check .empty (.dict listingReport.data) = .ok listingReport ∧
      listing.withoutRules.check .empty (.dict listingReport.data) = .ok listingReportOfTypes ∧
      listingReportOfTypes.data = listingReport.data ∧
      listingReportOfTypes.complaints.Sublist listingReport.complaints := by
  have compiled : listing.Compiled := ⟨_, Draft.authored_embed listingSource, rfl⟩
  have full : listing.check .empty (.dict listingReport.data) = .ok listingReport := rfl
  have stripped : listing.withoutRules.check .empty (.dict listingReport.data) =
      .ok listingReportOfTypes := rfl
  refine ⟨compiled, listing_plain, full, stripped, ?_⟩
  have outcomes := rules_only_add_complaints listing .empty (.dict listingReport.data) compiled
    listing_plain (by simp [full])
  simp only [full, stripped] at outcomes
  rcases outcomes with ⟨_, refused, _⟩ | ⟨report, bare, same, sameBare, outcome⟩
  · cases refused
  · cases same
    cases sameBare
    exact outcome

end Schema

end RecordCheck
