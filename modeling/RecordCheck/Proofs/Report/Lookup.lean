import RecordCheck.Proofs.Report.Records
import RecordCheck.Proofs.Report.Required
import RecordCheck.Proofs.Value.Same
import RecordCheck.Proofs.Walk.Places

/-!
Dotted texts. Names are written as a path and looked up as a dotted text in one notation. Main
statement: the written path of dotless names is looked up by following them one by one, so the path
at which a field inside nested mappings is reported leads rules to that field as it came.
-/

namespace RecordCheck

def Path.ofNames (names : List String) : Path := names.map .name

namespace Value

def under? (names : List String) (value : Value) : Option Value :=
  value.at? ((Path.ofNames names).map Segment.hop)

/-- A value in which a name leads nowhere: it is no mapping or lacks the name. -/
def Lacks (value : Value) (name : String) : Prop :=
  value.isMapping = false ∨ .text name ∉ value.keys

end Value

namespace Path

theorem chars_ofNames {names : List String} (some : names ≠ []) :
    (ofNames names).chars = ['.'].intercalate (names.map String.toList) := by
  cases names with
  | nil => exact absurd rfl some
  | cons first later =>
      rw [List.map_cons, Text.intercalate_cons, ofNames, List.map_cons, chars_of_name,
        List.flatMap_map, List.flatMap_map]
      rfl

theorem splitOn_render_ofNames {names : List String} (some : names ≠ [])
    (dotless : ∀ name ∈ names, '.' ∉ name.toList) :
    ((ofNames names).render.toList.splitOn '.').map String.ofList = names := by
  have apart : ∀ part ∈ names.map String.toList, '.' ∉ part := by simpa using dotless
  rw [render, String.toList_ofList, chars_ofNames some,
    List.splitOn_intercalate '.' apart (by simpa using some), List.map_map]
  simp

end Path

namespace Value

theorem under?_cons (name : String) (later : List String) (value : Value) :
    value.under? (name :: later) = (value.field? name).bind (under? later) := by
  cases value <;> rfl

theorem follow_eq (names : List String) (value : Value) :
    value.follow names = (value.under? names).getD .absent := by
  induction names generalizing value with
  | nil => rfl
  | cons name later ih =>
      rw [follow, under?_cons]
      cases value.field? name with
      | none => rfl
      | some child => exact ih child

theorem lookup_render_ofNames (record : Value) {names : List String} (some : names ≠ [])
    (dotless : ∀ name ∈ names, '.' ∉ name.toList) :
    record.lookup (Path.ofNames names).render = (record.under? names).getD .absent := by
  rw [lookup, Path.splitOn_render_ofNames some dotless, follow_eq]

theorem lacks_iff {value : Value} {name : String} : value.Lacks name ↔ value.field? name = none := by
  cases value with
  | dict entries =>
      have known : Key.text name ∈ (dict entries).keys ↔
          (entries.lookup (.text name)).isSome = true := Entries.mem_keys_iff
      exact (or_iff_right nofun).trans ((not_congr known).trans Option.not_isSome_iff_eq_none)
  | _ => exact iff_of_true (Or.inl rfl) rfl

theorem under?_eq_none_iff {names : List String} {value : Value} :
    value.under? names = none ↔ ∃ before name after reached, names = before ++ name :: after ∧
      value.under? before = some reached ∧ reached.Lacks name := by
  induction names generalizing value with
  | nil =>
      constructor
      · intro none
        cases none
      · rintro ⟨before, name, after, reached, split, _⟩
        exact absurd split.symm (by simp)
  | cons first later ih =>
      rw [under?_cons, Option.bind_eq_none_iff]
      constructor
      · intro none
        cases field : value.field? first with
        | none => exact ⟨[], first, later, value, rfl, rfl, lacks_iff.mpr field⟩
        | some child =>
            obtain ⟨before, name, after, reached, rfl, leads, lacks⟩ := ih.mp (none child field)
            refine ⟨first :: before, name, after, reached, rfl, ?_, lacks⟩
            rw [under?_cons, field, Option.bind_some, leads]
      · rintro ⟨before, name, after, reached, split, leads, lacks⟩ child field
        cases before with
        | nil =>
            cases leads
            rw [List.nil_append, List.cons.injEq] at split
            rw [split.1, lacks_iff.mp lacks] at field
            cases field
        | cons head rest =>
            rw [List.cons_append, List.cons.injEq] at split
            obtain ⟨rfl, rfl⟩ := split
            rw [under?_cons, field, Option.bind_some] at leads
            exact ih.mpr ⟨rest, name, after, reached, rfl, leads, lacks⟩

theorem getD_absent_iff {found : Option Value} :
    found.getD .absent = .absent ↔ found = none ∨ found = some .absent := by
  cases found <;> simp

end Value

namespace Standard

theorem equals_eq {arguments : List Argument} {text : String} {rest : List Value}
    (first : Argument.positionals arguments = .text text :: rest) (value record : Value) :
    equals value arguments record = .ok (value.same (record.lookup text)) := by
  rw [equals, first]
  rfl

theorem meetsAll_single (record : Value) (field expected : String) :
    meetsAll record [(field, expected)] = meets (record.lookup field) expected := by
  simp only [meetsAll]
  cases meets (record.lookup field) expected with
  | error fault => rfl
  | ok met => cases met <;> rfl

theorem required_eq {arguments : List Argument} {text expected : String}
    (single : Argument.keyeds arguments = [(text, expected)]) (value record : Value) :
    required value arguments record =
      ((meets (record.lookup text) expected).mapError .integer).map fun met =>
        !met || !value.isEmpty := by
  rw [required, single, meetsAll_single]

end Standard

namespace Schema

/-- Names without dots are written and looked up in one notation: looking up their path gives the
value that they lead to, or the absent marker just if one of them leads nowhere or they lead to the
marker itself. So the path under which a field inside nested mappings is reported names that field,
with its value as it came, to the rules that take the name of a field. -/
theorem written_names_lead_to_fields (record : Value) (names : List String) (named : names ≠ [])
    (dotless : ∀ name ∈ names, '.' ∉ name.toList) :
    record.lookup (Path.ofNames names).render = (record.under? names).getD .absent ∧
    (record.lookup (Path.ofNames names).render = .absent ↔
      (∃ before name after reached, names = before ++ name :: after ∧
        record.under? before = some reached ∧ reached.Lacks name) ∨
      record.under? names = some .absent) ∧
    ∀ (schema : Schema) (property : Property) (raw : Value),
      schema.Location record (Path.ofNames names) property raw → raw ≠ .absent →
        (∀ registry report complaint, schema.check registry record = .ok report →
          Walk.Fails (schema.setting registry record) property raw complaint →
            ∃ first, ((Path.ofNames names).render, first) ∈ report.complaints) ∧
        record.lookup (Path.ofNames names).render = raw ∧
        (∀ arguments rest value,
          Argument.positionals arguments = .text (Path.ofNames names).render :: rest →
            Standard.equals value arguments record = .ok (value.same raw)) ∧
        ∀ arguments expected value,
          Argument.keyeds arguments = [((Path.ofNames names).render, expected)] →
            Standard.required value arguments record =
              ((Standard.meets raw expected).mapError .integer).map fun met =>
                !met || !value.isEmpty := by
  have looked := record.lookup_render_ofNames named dotless
  refine ⟨looked, ?_, fun schema property raw reached present => ?_⟩
  · rw [looked, Value.getD_absent_iff, Value.under?_eq_none_iff]
  · have leads : record.under? names = some raw := reached.at? present
    rw [leads, Option.getD_some] at looked
    refine ⟨fun registry report complaint checked fails => ?_, looked, ?_, ?_⟩
    · obtain ⟨entries, rfl⟩ := schema.mapping_of_check registry checked
      exact reported_of_failsAt checked ⟨property, raw, reached, fails⟩
    · intro arguments rest value first
      rw [Standard.equals_eq first, looked]
    · intro arguments expected value single
      rw [Standard.required_eq single, looked]

/-- The zip of a home, which is no text, is reported at a path that leads to it. -/
theorem housed_zip_named : (∀ name ∈ ["home", "zip"], '.' ∉ name.toList) ∧
    household.check Standard.registry (.dict housed) = .ok housedReport ∧
    (∃ first, ("home.zip", first) ∈ housedReport.complaints) ∧
    (Value.dict housed).lookup "home.zip" = .int 7 ∧
    Standard.equals (.int 7) [.positional (.text "home.zip")] (.dict housed) = .ok true ∧
    Standard.required .null [.keyed "home.zip" "7"] (.dict housed) = .ok false := by
  have dotless : ∀ name ∈ ["home", "zip"], '.' ∉ name.toList := by decide
  have checked : household.check Standard.registry (.dict housed) = .ok housedReport := by
    decide +kernel
  have written : (Path.ofNames ["home", "zip"]).render = "home.zip" := by decide
  have reached : household.Location (.dict housed) (Path.ofNames ["home", "zip"])
      ⟨.scalar .string, [⟨"required", []⟩], none, []⟩ (.int 7) :=
    .field ⟨nofun, fun _ => rfl⟩ rfl List.mem_cons_self
      (.field ⟨nofun, fun _ => rfl⟩ rfl List.mem_cons_self .here)
  obtain ⟨_, _, fields⟩ :=
    written_names_lead_to_fields (.dict housed) ["home", "zip"] (by decide) dotless
  obtain ⟨reports, looked, equal, asked⟩ := fields household _ _ reached nofun
  rw [written] at reports looked equal asked
  have wrong : Walk.Fails (household.setting Standard.registry (.dict housed))
      ⟨.scalar .string, [⟨"required", []⟩], none, []⟩ (.int 7)
      ⟨"VALIDATION_ERROR_NOT_STRING", "Value is not a string"⟩ := .type nofun rfl rfl
  refine ⟨dotless, checked, reports _ _ _ checked wrong, looked, ?_, ?_⟩
  · rw [equal _ [] _ rfl, Value.same_int]
  · rw [asked _ "7" _ rfl]
    decide +kernel

end Schema

end RecordCheck
