import RecordCheck.Proofs.Entries
import RecordCheck.Proofs.Rule.Message
import RecordCheck.Proofs.Rule.Registry
import RecordCheck.Proofs.Value.Same
import RecordCheck.Rule.Standard

/-!
The rule `required` with conditions, which are its arguments under keys. Main statement: it refuses
a value that amounts to nothing if the record meets the conditions, where for each key only the last
condition counts. So all conditions count as long as no key stands with two texts. The rule fails
where it comes to a field that has no text because of an integer that is too long.
-/

namespace RecordCheck

namespace Argument

variable {arguments : List Argument} {key text : String}

/-- Of the arguments under a key, the last one has the text. -/
def LastUnder (arguments : List Argument) (key text : String) : Prop :=
  ∃ before after, arguments = before ++ keyed key text :: after ∧
    ∀ other, keyed key other ∉ after

def Consistent (arguments : List Argument) : Prop :=
  ∀ key one other, keyed key one ∈ arguments → keyed key other ∈ arguments → one = other

theorem LastUnder.mem (last : LastUnder arguments key text) : keyed key text ∈ arguments := by
  obtain ⟨before, after, rfl, _⟩ := last
  simp

theorem LastUnder.cons (first : Argument) (last : LastUnder arguments key text) :
    LastUnder (first :: arguments) key text := by
  obtain ⟨before, after, rfl, fresh⟩ := last
  exact ⟨first :: before, after, rfl, fresh⟩

theorem exists_lastUnder (member : keyed key text ∈ arguments) :
    ∃ last, LastUnder arguments key last := by
  induction arguments generalizing text with
  | nil => cases member
  | cons first rest ih =>
      by_cases later : ∃ other, keyed key other ∈ rest
      · obtain ⟨other, inRest⟩ := later
        obtain ⟨last, found⟩ := ih inRest
        exact ⟨last, found.cons first⟩
      · rcases List.mem_cons.mp member with rfl | inRest
        · exact ⟨text, [], rest, rfl, fun other inRest => later ⟨other, inRest⟩⟩
        · exact absurd ⟨text, inRest⟩ later

theorem lookup_keyeds (last : LastUnder arguments key text) :
    (keyeds arguments).lookup key = some text := by
  obtain ⟨before, after, rfl, fresh⟩ := last
  rw [keyeds, List.filterMap_append, List.filterMap_cons]
  refine Entries.lookup_ofTexts_of_last ?_ text
  rintro ⟨known, other⟩ member rfl
  obtain ⟨argument, inside, paired⟩ := List.mem_filterMap.mp member
  cases argument with
  | positional value => cases paired
  | keyed name content =>
      cases paired
      exact fresh _ inside

theorem mem_keyeds_iff : (key, text) ∈ keyeds arguments ↔ LastUnder arguments key text := by
  constructor
  · intro member
    obtain ⟨argument, inside, paired⟩ :=
      List.mem_filterMap.mp (Entries.mem_of_mem_ofTexts member)
    cases argument with
    | positional value => cases paired
    | keyed name content =>
        cases paired
        obtain ⟨last, found⟩ := exists_lastUnder inside
        -- a key stands once among the conditions, so the last text is this one
        have single := Entries.lookup_of_mem (Entries.ofTexts_nodup _) member
        have counted := lookup_keyeds found
        rw [keyeds, single] at counted
        cases counted
        exact found
  · intro last
    exact Entries.mem_of_lookup (lookup_keyeds last)

theorem lastUnder_iff_of_consistent (consistent : Consistent arguments) :
    LastUnder arguments key text ↔ keyed key text ∈ arguments := by
  constructor
  · exact LastUnder.mem
  · intro member
    obtain ⟨last, found⟩ := exists_lastUnder member
    rwa [consistent key text last member found.mem]

end Argument

inductive Value.Nothing : Value → Prop
  | null : Nothing .null
  | absent : Nothing .absent
  | blank {content} : Text.allBlank content.toList = true → Nothing (.text content)
  | list : Nothing (.list [])
  | tuple : Nothing (.tuple [])
  | dict : Nothing (.dict [])

theorem Value.isEmpty_iff {value : Value} : value.isEmpty = true ↔ value.Nothing := by
  constructor
  · intro empty
    cases value with
    | null => exact .null
    | absent => exact .absent
    | text content => exact .blank empty
    | list items =>
        cases List.isEmpty_iff.mp empty
        exact .list
    | tuple items =>
        cases List.isEmpty_iff.mp empty
        exact .tuple
    | dict entries =>
        cases List.isEmpty_iff.mp empty
        exact .dict
    | _ => cases empty
  · intro nothing
    cases nothing with
    | blank blank => exact blank
    | _ => rfl

namespace Standard

/-- A record meets a condition: it has the field, and the value of the field equals the text that is
expected or has it for its scalar text. -/
def Meets (record : Value) (key expected : String) : Prop :=
  record.lookup key ≠ .absent ∧ ((record.lookup key).same (.text expected) = true ∨
    (record.lookup key).scalarText = .ok expected)

/-- A record meets conditions up to one whose field has no text. -/
def Stuck (record : Value) (conditions : List (String × String)) : Prop :=
  ∃ before key expected after, conditions = before ++ (key, expected) :: after ∧
    (∀ earlier ∈ before, Meets record earlier.1 earlier.2) ∧
    (record.lookup key).writable = false

section Conditions

variable {record : Value} {key expected : String} {conditions : List (String × String)}

theorem meets_error_iff {fault : Whole.Fault} :
    meets (record.lookup key) expected = .error fault ↔
      (record.lookup key).writable = false ∧ fault = .unwritable := by
  generalize record.lookup key = found
  unfold meets
  split
  · simp [Value.writable]
  · split
    · rename_i equal
      simp [Value.eq_text_of_same equal, Value.writable]
    · rw [map_error_iff, Value.scalarText, Whole.ifWritable_error_iff]

theorem meets_ok_iff {met : Bool} (answered : meets (record.lookup key) expected = .ok met) :
    met = true ↔ Meets record key expected := by
  unfold Meets
  revert answered
  generalize record.lookup key = found
  unfold meets
  split
  · rintro ⟨⟩
    simp
  · rename_i present
    split
    · rename_i equal
      rintro ⟨⟩
      exact iff_of_true rfl ⟨present, Or.inl equal⟩
    · rename_i differs
      intro answered
      obtain ⟨content, written, rfl⟩ := map_ok_iff.mp answered
      rw [beq_iff_eq, written]
      constructor
      · rintro rfl
        exact ⟨present, Or.inr rfl⟩
      · rintro ⟨_, equal | same⟩
        · exact absurd equal differs
        · exact Except.ok.inj same

theorem meetsAll_ok_iff {met : Bool} (answered : meetsAll record conditions = .ok met) :
    met = true ↔ ∀ condition ∈ conditions, Meets record condition.1 condition.2 := by
  induction conditions with
  | nil =>
      cases answered
      simp
  | cons condition rest ih =>
      rw [meetsAll, bind_ok_iff] at answered
      obtain ⟨first, own, later⟩ := answered
      rw [List.forall_mem_cons, ← meets_ok_iff own]
      cases first with
      | false =>
          cases later
          simp
      | true => simpa using ih later

theorem stuck_cons_iff {condition : String × String} :
    Stuck record (condition :: conditions) ↔ (record.lookup condition.1).writable = false ∨
      Meets record condition.1 condition.2 ∧ Stuck record conditions := by
  constructor
  · rintro ⟨before, key, expected, after, split, met, long⟩
    cases before with
    | nil =>
        cases split
        exact Or.inl long
    | cons first others =>
        cases split
        obtain ⟨own, met⟩ := List.forall_mem_cons.mp met
        exact Or.inr ⟨own, others, key, expected, after, rfl, met, long⟩
  · rintro (long | ⟨own, before, key, expected, after, rfl, met, long⟩)
    · exact ⟨[], condition.1, condition.2, conditions, rfl, by simp, long⟩
    · exact ⟨condition :: before, key, expected, after, rfl, List.forall_mem_cons.mpr ⟨own, met⟩,
        long⟩

theorem meetsAll_error_iff {fault : Whole.Fault} :
    meetsAll record conditions = .error fault ↔ fault = .unwritable ∧ Stuck record conditions := by
  induction conditions with
  | nil => simp [meetsAll, Stuck]
  | cons condition rest ih =>
      rw [meetsAll, bind_error_iff, meets_error_iff, stuck_cons_iff]
      constructor
      · rintro (⟨long, rfl⟩ | ⟨met, own, later⟩)
        · exact ⟨rfl, Or.inl long⟩
        · cases met with
          | false => cases later
          | true =>
              obtain ⟨rfl, stuck⟩ := ih.mp later
              exact ⟨rfl, Or.inr ⟨(meets_ok_iff own).mp rfl, stuck⟩⟩
      · rintro ⟨rfl, long | ⟨own, stuck⟩⟩
        · exact Or.inl ⟨long, rfl⟩
        · cases answered : meets (record.lookup condition.1) condition.2 with
          | error fault =>
              obtain ⟨long, rfl⟩ := meets_error_iff.mp answered
              exact Or.inl ⟨long, rfl⟩
          | ok met =>
              refine Or.inr ⟨met, rfl, ?_⟩
              rw [(meets_ok_iff answered).mpr own]
              exact ih.mpr ⟨rfl, stuck⟩

end Conditions

def requiredRule : Rule := .make "required" required "Value is required" none true

theorem required_error_iff {value record : Value} {arguments : List Argument} {error : RuleError} :
    required value arguments record = .error error ↔
      error = .integer .unwritable ∧ Stuck record (Argument.keyeds arguments) := by
  rw [required, map_error_iff, mapError_error_iff]
  simp only [meetsAll_error_iff]
  constructor
  · rintro ⟨fault, ⟨rfl, stuck⟩, rfl⟩
    exact ⟨rfl, stuck⟩
  · rintro ⟨rfl, stuck⟩
    exact ⟨_, ⟨rfl, stuck⟩, rfl⟩

theorem required_ok_iff {value record : Value} {arguments : List Argument} {holds : Bool}
    (answered : required value arguments record = .ok holds) :
    holds = true ↔ ¬(value.Nothing ∧ ∀ key expected,
      Argument.LastUnder arguments key expected → Meets record key expected) := by
  obtain ⟨met, collected, rfl⟩ := map_ok_iff.mp answered
  have conditions := meetsAll_ok_iff (mapError_ok_iff.mp collected)
  simp only [Prod.forall, Argument.mem_keyeds_iff] at conditions
  rw [← Value.isEmpty_iff, ← conditions]
  cases met <;> cases value.isEmpty <;> decide

theorem verdict_required (value : Value) (arguments : List Argument) (record : Value) :
    (∀ error, registry.evaluate "required" value arguments record = .error error ↔
      error = .integer .unwritable ∧ Stuck record (Argument.keyeds arguments)) ∧
    ∀ outcome, registry.evaluate "required" value arguments record = .ok outcome →
      (outcome ≠ .valid →
        outcome = .invalid "VALIDATION_FAILED_REQUIRED" "Value is required") ∧
      (outcome ≠ .valid ↔ value.Nothing ∧ ∀ key expected,
        Argument.LastUnder arguments key expected → Meets record key expected) := by
  have known : registry.find? "required" = some requiredRule := by rfl
  have free : '\x7b' ∉ requiredRule.template.toList := by decide
  have named : requiredRule.errorId = "VALIDATION_FAILED_REQUIRED" := by rfl
  have fails : ∀ error, required value arguments record = .error error ↔
      error = .integer .unwritable ∧ Stuck record (Argument.keyeds arguments) :=
    fun _ => required_error_iff
  cases asked : required value arguments record with
  | error fault =>
      have failed := Registry.evaluate_of_error known asked
      refine ⟨fun error => ?_, fun outcome evaluated => ?_⟩
      · rw [failed, ← fails, asked]
        simp
      · rw [failed] at evaluated
        cases evaluated
  | ok holds =>
      obtain ⟨answer, answered, complains, valid⟩ := Registry.verdict_of_plain known free asked
      rw [named] at complains
      refine ⟨fun error => ?_, fun outcome evaluated => ?_⟩
      · rw [answered, ← fails, asked]
        simp
      · rw [answered] at evaluated
        cases evaluated
        refine ⟨complains, ?_⟩
        rw [Ne, valid, required_ok_iff asked, not_not]

/-- The rule `required` answers about every value, unless the record meets the conditions up to one
whose field has an integer that is too long. It complains just about those that amount to nothing
while the record meets, for each key, the last condition under it. These are all the conditions if no
key stands with two texts. -/
theorem required_honours_last_conditions (value : Value) (arguments : List Argument)
    (record : Value) :
    (∀ error, registry.evaluate "required" value arguments record = .error error ↔
      error = .integer .unwritable ∧ Stuck record (Argument.keyeds arguments)) ∧
    ∀ outcome, registry.evaluate "required" value arguments record = .ok outcome →
      (outcome ≠ .valid →
        outcome = .invalid "VALIDATION_FAILED_REQUIRED" "Value is required") ∧
      (outcome ≠ .valid ↔ value.Nothing ∧ ∀ key expected,
        Argument.LastUnder arguments key expected → Meets record key expected) ∧
      (Argument.Consistent arguments → (outcome ≠ .valid ↔ value.Nothing ∧ ∀ key expected,
        .keyed key expected ∈ arguments → Meets record key expected)) := by
  obtain ⟨fails, verdict⟩ := verdict_required value arguments record
  refine ⟨fails, fun outcome evaluated => ?_⟩
  obtain ⟨complained, complains⟩ := verdict outcome evaluated
  refine ⟨complained, complains, ?_⟩
  intro consistent
  rw [complains]
  simp only [Argument.lastUnder_iff_of_consistent consistent]

/-- A condition counts no longer once another one follows under its key. -/
theorem required_drops_earlier_conditions : ¬∀ (value : Value) (arguments : List Argument)
    (record : Value), (∃ key expected, .keyed key expected ∈ arguments) →
    ∃ outcome, registry.evaluate "required" value arguments record = .ok outcome ∧
      (outcome ≠ .valid ↔ value.Nothing ∧ ∀ key expected,
        .keyed key expected ∈ arguments → Meets record key expected) := by
  intro honoured
  have changed : registry.evaluate "required" .null [.keyed "a" "1", .keyed "a" "2"]
      (.dict [(.text "a", .text "2")]) =
        .ok (.invalid "VALIDATION_FAILED_REQUIRED" "Value is required") := by rfl
  obtain ⟨outcome, evaluated, complains⟩ := honoured .null
    [.keyed "a" "1", .keyed "a" "2"] (.dict [(.text "a", .text "2")])
    ⟨"a", "1", List.mem_cons_self⟩
  rw [changed] at evaluated
  cases evaluated
  obtain ⟨_, met⟩ := complains.mp Outcome.noConfusion
  have answered : meets ((Value.dict [(.text "a", .text "2")]).lookup "a") "1" = .ok false := by rfl
  cases (meets_ok_iff answered).mpr (met "a" "1" List.mem_cons_self)

end Standard

end RecordCheck
