import RecordCheck.Proofs.Report.Failures
import RecordCheck.Rule.Standard

/-!
Fields that must be there. A field that asks for `required` without conditions and has no default
is reported when a record leaves it out, whatever its type. Only the array mark makes a difference:
the rules of a marked definition are those of its items, so nothing asks about the field itself.
-/

namespace RecordCheck

open Walk

theorem Walk.FirstComplaint.of_mem {rejects : Directive → Complaint → Prop}
    {rules : List Directive} {directive : Directive} (member : directive ∈ rules)
    {complaint : Complaint} (rejected : rejects directive complaint) :
    ∃ first, FirstComplaint rejects rules first := by
  induction rules with
  | nil => cases member
  | cons head rest ih =>
      by_cases silent : ∀ other, ¬rejects head other
      · have later : directive ∈ rest := by
          rcases List.mem_cons.mp member with rfl | later
          · exact absurd rejected (silent complaint)
          · exact later
        obtain ⟨first, found⟩ := ih later
        exact ⟨first, .later silent found⟩
      · push Not at silent
        obtain ⟨other, rejected⟩ := silent
        exact ⟨other, .here rejected⟩

theorem Standard.rejectsMissing_required (schema : Schema) (record : Value) :
    RejectsMissing (schema.setting registry record) ⟨"required", []⟩
      ⟨"VALIDATION_FAILED_REQUIRED", "Value is required"⟩ := by
  have known : registry.find? "required" =
      some (.make "required" required "Value is required" none true) := by rfl
  exact (rejectsMissing_iff known _).mpr ⟨rfl, rfl, "Value is required", by rfl, by rfl⟩

namespace Draft

/-- The definition that counts for a name: the last one whose key is written like that. -/
def Declares (fields : List (Key × Draft)) (name : String) (definition : Draft) : Prop :=
  ∃ before key after, fields = before ++ (key, definition) :: after ∧ key.spelled = name ∧
    ∀ entry ∈ after, entry.1.spelled ≠ name

/-- A draft of a schema asks for a field: its definition has `required` without conditions in its
text of rules, and no default. -/
structure AsksFor (draft : Draft) (name : String) (definition : List (Key × Draft)) : Prop where
  declared : ∃ entries fields, draft = .dict entries ∧
    entries.lookup (.text "properties") = some (.dict fields) ∧
      Declares fields name (.dict definition)
  required : ∃ content directives, definition.lookup (.text "validation") = some (.text content) ∧
    Directive.read content = .ok directives ∧ ⟨"required", []⟩ ∈ directives
  unfilled : fallback definition = none

theorem compileEntries_append {path : Path} {before after : List (Key × Draft)}
    {members : List (String × Property)}
    (made : compileEntries path (before ++ after) = .ok members) :
    ∃ first later, compileEntries path before = .ok first ∧
      compileEntries path after = .ok later ∧ members = first ++ later := by
  induction before generalizing members with
  | nil => exact ⟨[], members, rfl, made, rfl⟩
  | cons entry rest ih =>
      obtain ⟨writable, property, others, propertyMade, othersMade, rfl⟩ :=
        compileEntries_cons_iff.mp made
      obtain ⟨first, later, firstMade, laterMade, rfl⟩ := ih othersMade
      refine ⟨(entry.1.spelled, property) :: first, later, ?_, laterMade, rfl⟩
      exact compileEntries_cons_iff.mpr ⟨writable, property, first, propertyMade, firstMade, rfl⟩

theorem compileEntries_names {path : Path} {entries : List (Key × Draft)}
    {members : List (String × Property)} (made : compileEntries path entries = .ok members) :
    members.map Prod.fst = entries.map fun entry => entry.1.spelled := by
  induction entries generalizing members with
  | nil =>
      cases made
      rfl
  | cons entry rest ih =>
      obtain ⟨_, property, later, _, laterMade, rfl⟩ := compileEntries_cons_iff.mp made
      rw [List.map_cons, List.map_cons, ih laterMade]

theorem compileMembers_declared {path : Path} {fields : List (Key × Draft)}
    {members : List (String × Property)} (made : compileMembers path (.dict fields) = .ok members)
    {name : String} {definition : Draft} (declares : Declares fields name definition) :
    ∃ property, members.lookup name = some property ∧
      compileProperty (path ++ [.name name]) definition = .ok property := by
  obtain ⟨before, key, after, rfl, rfl, last⟩ := declares
  obtain ⟨written, writtenMade, rfl⟩ := map_ok_iff.mp made
  obtain ⟨first, later, _, laterMade, rfl⟩ := compileEntries_append writtenMade
  obtain ⟨_, property, others, propertyMade, othersMade, rfl⟩ :=
    compileEntries_cons_iff.mp laterMade
  -- nothing that is compiled later is written under the name again
  refine ⟨property, Entries.lookup_ofTexts_of_last ?_ property, propertyMade⟩
  intro pair member
  have known : pair.1 ∈ others.map Prod.fst := List.mem_map_of_mem (f := Prod.fst) member
  rw [compileEntries_names othersMade] at known
  obtain ⟨entry, inAfter, same⟩ := List.mem_map.mp known
  exact same ▸ last entry inAfter

theorem AsksFor.member {draft : Draft} {name : String} {definition : List (Key × Draft)}
    (asks : draft.AsksFor name definition) {schema : Schema}
    (compiled : compile draft = .ok schema) :
    ∃ property, (∀ other, (name, other) ∈ schema.members ↔ other = property) ∧
      compileProperty [.name name] (.dict definition) = .ok property := by
  obtain ⟨entries, fields, rfl, found, declares⟩ := asks.declared
  obtain ⟨mode, _, made⟩ := bind_ok_iff.mp compiled
  obtain ⟨members, membersMade, made⟩ := bind_ok_iff.mp made
  rw [if_pos (by_contra fun uncopied => by rw [if_neg uncopied] at made; cases made)] at made
  cases made
  rw [found, Option.getD_some] at membersMade
  obtain ⟨property, declared, propertyMade⟩ := compileMembers_declared membersMade declares
  obtain ⟨written, _, rfl⟩ := map_ok_iff.mp membersMade
  refine ⟨property, fun other => ⟨fun member => ?_, ?_⟩, propertyMade⟩
  · have same := Entries.lookup_of_mem (Entries.ofTexts_nodup written) member
    rw [declared] at same
    exact (Option.some.inj same).symm
  · rintro rfl
    exact Entries.mem_of_lookup declared

theorem compileProperty_unmarked {path : Path} {entries : List (Key × Draft)} {property : Property}
    (made : compileProperty path (.dict entries) = .ok property)
    (unmarked : holds "array" entries = false) : property.fallback = fallback entries ∧
      rulesOf path ((entries.lookup (.text "validation")).getD .null) = .ok property.rules := by
  obtain ⟨rules, rulesMade, ways⟩ := compileProperty_cases made
  rcases ways with ⟨item, _, _, _, rfl⟩ | ⟨members, _, _, rfl⟩ | ⟨type, _, rfl⟩
  · exact ⟨rfl, rulesMade⟩
  · simp [wrapped, unmarked, rulesMade]
  · simp [wrapped, unmarked, rulesMade]

theorem compileProperty_marked {path : Path} {entries : List (Key × Draft)} {property : Property}
    (made : compileProperty path (.dict entries) = .ok property)
    (marked : holds "array" entries = true) : property.rules = [] := by
  obtain ⟨rules, _, ways⟩ := compileProperty_cases made
  rcases ways with ⟨item, _, unmarked, _⟩ | ⟨members, _, _, rfl⟩ | ⟨type, _, rfl⟩
  · rw [marked] at unmarked
    cases unmarked
  · rw [wrapped, if_pos marked]
  · rw [wrapped, if_pos marked]

end Draft

namespace Schema

variable {schema : Schema} {registry : Registry} {data : List (Key × Value)} {report : Report}

theorem reported_of_failsAt (checked : schema.check registry (.dict data) = .ok report)
    {path : Path} {complaint : Complaint}
    (fails : schema.FailsAt registry (.dict data) path complaint) :
    ∃ other, (path.render, other) ∈ report.complaints := by
  obtain ⟨found, walked, _, rfl⟩ := (check_ok_iff ..).mp checked
  have member := (mem_failures_iff walked path complaint).mpr fails
  exact Entries.exists_mem_firsts (List.mem_map_of_mem member)

theorem failsAt_of_reported (checked : schema.check registry (.dict data) = .ok report)
    {text : String} {complaint : Complaint} (reported : (text, complaint) ∈ report.complaints) :
    ∃ path, path.render = text ∧ schema.FailsAt registry (.dict data) path complaint := by
  obtain ⟨found, walked, _, rfl⟩ := (check_ok_iff ..).mp checked
  obtain ⟨⟨path, own⟩, member, same⟩ := List.mem_map.mp (Entries.firsts_subset _ reported)
  cases same
  exact ⟨path, rfl, (mem_failures_iff walked path complaint).mp member⟩

/-- Nothing is wrong with a mapping itself: what fails is declared at the top or stands inside. -/
theorem declared_of_failsAt {path : Path} {complaint : Complaint}
    (fails : schema.FailsAt registry (.dict data) path complaint) :
    ∃ name child rest target raw, path = .name name :: rest ∧ (name, child) ∈ schema.members ∧
      Reaches child (fieldValue name data) rest target raw ∧
        Fails (schema.setting registry (.dict data)) target raw complaint := by
  obtain ⟨target, raw, reached, fails⟩ := fails
  cases path with
  | nil =>
      obtain ⟨rfl, rfl⟩ := reaches_nil.mp reached
      -- a mapping is of the type of the whole, which has no rules
      have cast : castLeaf (schema.setting registry (.dict data)) schema.root.type (.dict data) =
          .ok (some (.dict data)) := castLeaf_container _ rfl _
      have present : Value.dict data ≠ .absent := nofun
      rw [fails_of_admitted present cast rfl] at fails
      cases fails
  | cons segment rest =>
      obtain ⟨_, child, element, inside, reached⟩ := reaches_cons.mp reached
      cases inside with
      | field declared => exact ⟨_, child, rest, target, raw, rfl, declared, reached, fails⟩

theorem fieldValue_of_missing {name : String} (missing : data.lookup (.text name) = none) :
    fieldValue name (entriesOf (.dict data)) = .absent := by
  rw [entriesOf, fieldValue, missing]
  rfl

theorem location_of_missing {name : String} {property : Property}
    (declared : (name, property) ∈ schema.members) (missing : data.lookup (.text name) = none) :
    schema.Location (.dict data) [.name name] property .absent := by
  have opens : Opens schema.root (.dict data) := ⟨nofun, fun _ => rfl⟩
  exact .field opens rfl declared (fieldValue_of_missing missing ▸ .here)

theorem declared_of_location {name : String} {property : Property} {value : Value}
    (location : schema.Location (.dict data) [.name name] property value) :
    (name, property) ∈ schema.members ∧ value = fieldValue name data := by
  obtain ⟨_, child, element, inside, reached⟩ := reaches_cons.mp location
  obtain ⟨rfl, rfl⟩ := reaches_nil.mp reached
  cases inside with
  | field declared => exact ⟨declared, rfl⟩

theorem failsAt_declared (names : (schema.members.map Prod.fst).Nodup) {name : String} {property : Property}
    (declared : (name, property) ∈ schema.members) {complaint : Complaint} :
    schema.FailsAt registry (.dict data) [.name name] complaint ↔
      Fails (schema.setting registry (.dict data)) property (fieldValue name data) complaint := by
  constructor
  · rintro ⟨target, raw, location, fails⟩
    obtain ⟨declaredTarget, rfl⟩ := declared_of_location location
    cases List.inj_on_of_nodup_map names declaredTarget declared rfl
    exact fails
  · exact fun fails => ⟨property, _, .field ⟨nofun, fun _ => rfl⟩ rfl declared .here, fails⟩

/-- A field that a schema asks for is reported when a record leaves it out, unless its definition
has the array mark. -/
theorem required_reported (draft : Draft) (name : String) (definition : List (Key × Draft))
    (data : List (Key × Value)) (schema : Schema) (report : Report)
    (asks : draft.AsksFor name definition) (unmarked : Draft.holds "array" definition = false)
    (compiled : Draft.compile draft = .ok schema) (missing : data.lookup (.text name) = none)
    (checked : schema.check Standard.registry (.dict data) = .ok report) :
    report.success = false ∧
      ∃ complaint, (Path.render [.name name], complaint) ∈ report.complaints := by
  obtain ⟨property, declared, made⟩ := asks.member compiled
  obtain ⟨fallback, rulesMade⟩ := Draft.compileProperty_unmarked made unmarked
  obtain ⟨content, directives, validation, read, required⟩ := asks.required
  rw [validation, Option.getD_some, Draft.rulesOf, mapError_ok_iff, read] at rulesMade
  cases rulesMade
  obtain ⟨complaint, first⟩ := FirstComplaint.of_mem required
    (Standard.rejectsMissing_required schema (.dict data))
  have fails : schema.FailsAt Standard.registry (.dict data) [.name name] complaint :=
    ⟨property, .absent, location_of_missing ((declared property).mpr rfl) missing,
      .missing rfl (fallback.trans asks.unfilled) first⟩
  obtain ⟨other, reported⟩ := reported_of_failsAt checked fails
  refine ⟨?_, other, reported⟩
  rw [Report.success, List.isEmpty_eq_false_iff_exists_mem]
  exact ⟨_, reported⟩

def team (players : List (Key × Draft)) : Draft :=
  .dict [(.text "properties", .dict [(.text "players", .dict players)])]

def compiledTeam (players : Property) : Schema := ⟨.filter, false, [("players", players)], []⟩

def typedPlayers : List (Key × Draft) :=
  [(.text "type", .text "array"), (.text "validation", .text "minLength[1]|required")]

def typedArray : Property :=
  ⟨.array none, [⟨"minLength", [.positional (.text "1")]⟩, ⟨"required", []⟩], none, []⟩

theorem team_asksFor (players : List (Key × Draft)) (content : String)
    (directives : List Directive)
    (validation : players.lookup (.text "validation") = some (.text content))
    (read : Directive.read content = .ok directives) (required : ⟨"required", []⟩ ∈ directives)
    (unfilled : Draft.fallback players = none) : (team players).AsksFor "players" players where
  declared := ⟨_, _, rfl, rfl, [], .text "players", [], rfl, rfl, nofun⟩
  required := ⟨content, directives, validation, read, required⟩
  unfilled := unfilled

def playersMissing : Report :=
  ⟨[], [("players", ⟨"VALIDATION_FAILED_REQUIRED", "Value is required"⟩)]⟩

theorem typedPlayers_reported :
    (team typedPlayers).AsksFor "players" typedPlayers ∧
      Draft.compile (team typedPlayers) = .ok (compiledTeam typedArray) ∧
      (compiledTeam typedArray).check Standard.registry (.dict []) = .ok playersMissing ∧
      playersMissing.success = false ∧
      ∃ complaint, (Path.render [.name "players"], complaint) ∈ playersMissing.complaints := by
  have asks := team_asksFor typedPlayers _ typedArray.rules rfl rfl (by decide) rfl
  have compiled : Draft.compile (team typedPlayers) = .ok (compiledTeam typedArray) := by rfl
  have checked : (compiledTeam typedArray).check Standard.registry (.dict []) =
      .ok playersMissing := by rfl
  exact ⟨asks, compiled, checked,
    required_reported _ _ _ _ _ _ asks rfl compiled rfl checked⟩

/-- With the array mark the rules are those of the items: when the field itself is missing, nothing
is reported there. -/
theorem marked_unreported (draft : Draft) (name : String) (definition : List (Key × Draft))
    (data : List (Key × Value)) (schema : Schema) (registry : Registry) (complaint : Complaint)
    (asks : draft.AsksFor name definition) (marked : Draft.holds "array" definition = true)
    (compiled : Draft.compile draft = .ok schema) (missing : data.lookup (.text name) = none) :
    ¬schema.FailsAt registry (.dict data) [.name name] complaint := by
  rintro ⟨property, value, location, fails⟩
  obtain ⟨declared, rfl⟩ := declared_of_location location
  obtain ⟨only, same, made⟩ := asks.member compiled
  obtain rfl := (same property).mp declared
  have absent : fieldValue name data = .absent := fieldValue_of_missing missing
  rcases fails with ⟨present, _⟩ | ⟨present, _, _⟩ | ⟨present, _, _, _⟩ | ⟨_, _, first⟩
  · exact present absent
  · exact present absent
  · exact present absent
  · rw [Draft.compileProperty_marked made marked] at first
    cases first

def markedPlayers : List (Key × Draft) :=
  [(.text "type", .text "string"), (.text "array", .bool true), (.text "validation", .text "required")]

def markedArray : Property :=
  ⟨.array (some ⟨.scalar .string, [⟨"required", []⟩], none, []⟩), [], none, []⟩

/-- A field that a schema asks for can be left out: an array written with the mark is. -/
theorem required_not_always_reported :
    ¬∀ (draft : Draft) (name : String) (definition : List (Key × Draft))
      (data : List (Key × Value)) (schema : Schema) (report : Report),
      draft.AsksFor name definition → Draft.compile draft = .ok schema →
        schema.mode ∈ [.filter, .loose] → data.lookup (.text name) = none →
          schema.check Standard.registry (.dict data) = .ok report →
            report.success = false ∧
              ∃ complaint, (Path.render [.name name], complaint) ∈ report.complaints := by
  intro claimed
  have asks := team_asksFor markedPlayers "required" [⟨"required", []⟩] rfl rfl
    List.mem_cons_self rfl
  have compiled : Draft.compile (team markedPlayers) = .ok (compiledTeam markedArray) := by rfl
  have checked : (compiledTeam markedArray).check Standard.registry (.dict []) =
      .ok ⟨[], []⟩ := by rfl
  have refused := claimed _ _ _ [] _ _ asks compiled List.mem_cons_self rfl checked
  exact absurd refused.1 (by decide)

end Schema

end RecordCheck
