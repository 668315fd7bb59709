import RecordCheck.Proofs.Report.Required
import RecordCheck.Proofs.Walk.Recast

/-!
The rule `equals` where leaves are cast. A rule is asked about the value after the cast and gets the
record as it came, so a cast value is compared with one that is not cast. Main statement: of two
equal fields the first one is complained about exactly if its cast is not equal to the second one.
-/

namespace RecordCheck

namespace Value

theorem lookup_of_dotless {name : String} (dotless : '.' ∉ name.toList)
    (entries : List (Key × Value)) :
    (Value.dict entries).lookup name = Walk.fieldValue name entries := by
  rw [Value.lookup, List.splitOn_eq_singleton dotless, List.map_singleton, String.ofList_toList]
  cases found : entries.lookup (.text name) <;> simp [follow, field?, Walk.fieldValue, found]

end Value

namespace Walk

theorem firstComplaint_single {rejects : Directive → Complaint → Prop} {directive : Directive}
    {complaint : Complaint} :
    FirstComplaint rejects [directive] complaint ↔ rejects directive complaint := by
  constructor
  · intro first
    cases first with
    | here rejected => exact rejected
    | later _ none => cases none
  · exact FirstComplaint.here

end Walk

namespace Standard

def equalsRule : Rule :=
  .make "equals" equals "Value should be equal to \x7b0\x7d" none false

theorem equalsRule_message (field : String) : equalsRule.message [.positional (.text field)] =
    .ok ("Value should be equal to " ++ field) := by
  have filled : fillTemplate equalsRule.template [.positional (.text field)] =
      .ok (String.ofList ("Value should be equal to ".toList ++ (field.toList ++ []))) := by rfl
  rw [Rule.message, filled, List.append_nil, ← String.toList_append, String.ofList_toList]
  rfl

theorem rejects_equals {setting : Setting} (standard : setting.registry = registry) (value : Value)
    (field : String) (complaint : Complaint) :
    Walk.Rejects setting value ⟨"equals", [.positional (.text field)]⟩ complaint ↔
      value.same (setting.record.lookup field) = false ∧
        complaint = ⟨"VALIDATION_FAILED_EQUALS", "Value should be equal to " ++ field⟩ := by
  have known : setting.registry.find? "equals" = some equalsRule := by
    rw [standard]
    rfl
  have asked : equalsRule.predicate value [.positional (.text field)] setting.record =
      .ok (value.same (setting.record.lookup field)) := rfl
  have named : equalsRule.errorId = "VALIDATION_FAILED_EQUALS" := by rfl
  rw [Walk.rejects_of_known value known, asked, equalsRule_message, named]
  simp

end Standard

namespace Schema

open Walk

/-- A leaf that is to equal another one is complained about exactly if what it is cast to is not
equal to what the record has there. -/
theorem equals_compares_cast_with_record (schema : Schema) (a b : String) (type : ScalarType)
    (property : Property) (data : List (Key × Value)) (first second result : Value)
    (report : Report) (compiled : schema.Compiled) (casts : schema.cast = true)
    (declared : (a, property) ∈ schema.members) (leaf : property.shape = .scalar type)
    (rules : property.rules = [⟨"equals", [.positional (.text b)]⟩])
    (dotless : '.' ∉ a.toList) (otherDotless : '.' ∉ b.toList)
    (there : data.lookup (.text a) = some first) (otherThere : data.lookup (.text b) = some second)
    (present : first ≠ .absent) (equal : first.same second = true)
    (cast : first.cast (.scalar type) = .ok result)
    (checked : schema.check Standard.registry (.dict data) = .ok report) :
    (∀ complaint, schema.FailsAt Standard.registry (.dict data) [.name a] complaint ↔
      result.same second = false ∧
        complaint = ⟨"VALIDATION_FAILED_EQUALS", "Value should be equal to " ++ b⟩) ∧
    (result.same second = false → ∃ complaint, (a, complaint) ∈ report.complaints) ∧
    ('[' ∉ a.toList → ∀ complaint, (a, complaint) ∈ report.complaints →
      result.same second = false ∧
        complaint = ⟨"VALIDATION_FAILED_EQUALS", "Value should be equal to " ++ b⟩) ∧
    (property.type.admits first = true → result.same second = true) := by
  have found : fieldValue a data = first := by rw [fieldValue, there, Option.getD_some]
  have looked : (Value.dict data).lookup b = second := by
    rw [Value.lookup_of_dotless otherDotless, fieldValue, otherThere, Option.getD_some]
  have fails : ∀ complaint, schema.FailsAt Standard.registry (.dict data) [.name a] complaint ↔
      result.same second = false ∧
        complaint = ⟨"VALIDATION_FAILED_EQUALS", "Value should be equal to " ++ b⟩ := by
    intro complaint
    rw [failsAt_declared compiled.wellFormed.names declared, found,
      fails_of_cast casts leaf present cast, rules, firstComplaint_single,
      Standard.rejects_equals rfl, setting, looked]
  have render : Path.render [.name a] = a := by simp [Path.render, Path.chars]
  refine ⟨fails, ?_, ?_, ?_⟩
  · intro differs
    have reported := reported_of_failsAt checked ((fails _).mpr ⟨differs, rfl⟩)
    rwa [render] at reported
  · intro bracketless complaint reported
    obtain ⟨path, written, failing⟩ := failsAt_of_reported checked reported
    obtain ⟨name, child, rest, target, raw, rfl, _⟩ := declared_of_failsAt failing
    have goes : ∀ char ∈ a.toList, ¬Path.beginsStep char := by
      rintro char inside (rfl | rfl)
      · exact dotless inside
      · exact bracketless inside
    obtain ⟨rfl, rfl⟩ := Path.eq_of_render goes written
    exact (fails complaint).mp failing
  · intro admitted
    rw [Property.type, leaf] at admitted
    obtain ⟨again, castAgain, same⟩ := Value.cast_of_admits admitted
    rw [cast] at castAgain
    cases castAgain
    exact Value.same_trans_of_admits admitted same equal

def pair : Schema where
  mode := .filter
  cast := true
  members := [("total", ⟨.scalar .number, [⟨"equals", [.positional (.text "sum")]⟩], none, []⟩),
    ("sum", ⟨.scalar .number, [], none, []⟩)]
  extras := []

theorem pair_compiled : pair.Compiled := ⟨_, Draft.authored_embed pair.render, rfl⟩

def paired (value : Value) : List (Key × Value) := [(.text "total", value), (.text "sum", value)]

theorem pair_equal :
    pair.Compiled ∧ pair.check Standard.registry (.dict (paired (.int 14))) =
      .ok ⟨paired (.int 14), []⟩ ∧
    ∀ complaint, ¬pair.FailsAt Standard.registry (.dict (paired (.int 14))) [.name "total"]
      complaint := by
  have checked : pair.check Standard.registry (.dict (paired (.int 14))) =
      .ok ⟨paired (.int 14), []⟩ := by
    decide +kernel
  have compared := equals_compares_cast_with_record pair "total" "sum" .number _ (paired (.int 14))
    (.int 14) (.int 14) (.int 14) _ pair_compiled rfl List.mem_cons_self rfl rfl (by decide)
    (by decide) rfl rfl nofun (Value.same_int 14) rfl checked
  refine ⟨pair_compiled, checked, fun complaint fails => ?_⟩
  have differs := ((compared.1 complaint).mp fails).1
  rw [compared.2.2.2 rfl] at differs
  cases differs

def spelledReport : Report where
  data := paired (.float (.ofInt 14))
  complaints := [("total", ⟨"VALIDATION_FAILED_EQUALS", "Value should be equal to sum"⟩)]

/-- Equal fields that are cast can be complained about: the cast of one is compared with the text
of the other. -/
theorem casts_can_break_equals :
    ¬∀ (schema : Schema) (a b : String) (type : ScalarType) (property other : Property)
      (data : List (Key × Value)) (first second : Value) (report : Report),
      schema.Compiled → schema.cast = true → (a, property) ∈ schema.members →
        (b, other) ∈ schema.members → property.shape = .scalar type → other.shape = .scalar type →
        property.rules = [⟨"equals", [.positional (.text b)]⟩] →
        '.' ∉ a.toList → '.' ∉ b.toList →
        data.lookup (.text a) = some first → data.lookup (.text b) = some second →
        first ≠ .absent → second ≠ .absent →
        first.kindName = second.kindName → first.same second = true →
        (∃ result, first.cast (.scalar type) = .ok result) →
        (∃ result, second.cast (.scalar type) = .ok result) →
        schema.check Standard.registry (.dict data) = .ok report →
          ∀ complaint, (a, complaint) ∉ report.complaints := by
  intro claimed
  have cast : (Value.text "14").cast (.scalar .number) = .ok (.float (.ofInt 14)) := by
    decide +kernel
  have checked : pair.check Standard.registry (.dict (paired (.text "14"))) =
      .ok spelledReport := by
    decide +kernel
  have equal : (Value.text "14").same (.text "14") = true := by
    rw [Value.same_text, beq_self_eq_true]
  exact claimed pair "total" "sum" .number _ _ _ (.text "14") (.text "14") _ pair_compiled rfl
    List.mem_cons_self (List.mem_cons_of_mem _ List.mem_cons_self) rfl rfl rfl (by decide)
    (by decide) rfl rfl nofun nofun rfl equal ⟨_, cast⟩ ⟨_, cast⟩ checked _ List.mem_cons_self

end Schema

end RecordCheck
