import RecordCheck.Proofs.Entries
import RecordCheck.Proofs.Outcome
import RecordCheck.Rule.Standard

/-!
What standard rules look up in the record as a whole: `equals` the field that it names, `required`
the fields of its conditions, the others nothing. Records that agree there get the same answers.
-/

namespace RecordCheck

namespace Registry

theorem mem_of_mem_add {registry : Registry} {rule : Rule} {entry : String × Rule}
    (member : entry ∈ (registry.add rule).rules) :
    entry = (rule.name, rule) ∨ entry ∈ registry.rules :=
  Entries.mem_of_mem_put member

theorem mem_of_mem_foldl_add {rules : List Rule} {start : Registry} {entry : String × Rule}
    (member : entry ∈ (rules.foldl add start).rules) :
    (entry.2 ∈ rules ∧ entry.2.name = entry.1) ∨ entry ∈ start.rules := by
  induction rules generalizing start with
  | nil => exact Or.inr member
  | cons rule rest ih =>
      rcases ih member with ⟨later, name⟩ | added
      · exact Or.inl ⟨List.mem_cons_of_mem _ later, name⟩
      · rcases mem_of_mem_add added with same | old
        · cases same
          exact Or.inl ⟨List.mem_cons_self, rfl⟩
        · exact Or.inr old

theorem mem_of_find?_ofRules {rules : List Rule} {name : String} {rule : Rule}
    (found : (ofRules rules).find? name = some rule) : rule ∈ rules ∧ rule.name = name := by
  rcases mem_of_mem_foldl_add (Entries.mem_of_lookup found) with put | none
  · exact put
  · cases none

end Registry

namespace Standard

/-- The dotted texts that a directive looks up in the record. -/
def reads (directive : Directive) : List String :=
  if directive.name = "equals" then
    ((Argument.positionals directive.arguments).head?.map Value.spelled).toList
  else if directive.name = "required" then (Argument.keyeds directive.arguments).map Prod.fst
  else []

theorem equals_congr {arguments : List Argument} {first second : Value}
    (same : ∀ dotted ∈ ((Argument.positionals arguments).head?.map Value.spelled).toList,
      first.lookup dotted = second.lookup dotted) (value : Value) :
    equals value arguments first = equals value arguments second := by
  unfold equals
  split
  · rfl
  · rename_i field _ named
    have found := same field.spelled (by simp [named])
    rw [Value.display]
    cases field.writable with
    | false => rfl
    | true => simp [Whole.ifWritable, Except.map, found]

theorem meetsAll_congr {conditions : List (String × String)} {first second : Value}
    (same : ∀ dotted ∈ conditions.map Prod.fst, first.lookup dotted = second.lookup dotted) :
    meetsAll first conditions = meetsAll second conditions := by
  induction conditions with
  | nil => rfl
  | cons condition rest ih =>
      rw [List.map_cons, List.forall_mem_cons] at same
      rw [meetsAll, meetsAll, same.1, ih same.2]

theorem required_congr {arguments : List Argument} {first second : Value}
    (same : ∀ dotted ∈ (Argument.keyeds arguments).map Prod.fst,
      first.lookup dotted = second.lookup dotted) (value : Value) :
    required value arguments first = required value arguments second := by
  rw [required, required, meetsAll_congr same]

theorem predicate_congr {directive : Directive} {rule : Rule}
    (found : registry.find? directive.name = some rule) {first second : Value}
    (same : ∀ dotted ∈ reads directive, first.lookup dotted = second.lookup dotted)
    (value : Value) :
    rule.predicate value directive.arguments first =
      rule.predicate value directive.arguments second := by
  obtain ⟨member, name⟩ := Registry.mem_of_find?_ofRules found
  rw [reads, ← name] at same
  simp only [rules, List.mem_cons, List.not_mem_nil, or_false] at member
  rcases member with rfl | rfl | rfl | rfl | rfl | rfl | rfl | rfl | rfl | rfl
  case inr.inr.inl => exact equals_congr same value
  case inr.inr.inr.inl => exact required_congr same value
  all_goals rfl

/-- A directive that names neither `equals` nor `required` with conditions. -/
def RecordFree (directive : Directive) : Prop :=
  directive.name ≠ "equals" ∧
    (directive.name = "required" → Argument.keyeds directive.arguments = [])

instance (directive : Directive) : Decidable (RecordFree directive) :=
  inferInstanceAs (Decidable (_ ∧ _))

theorem reads_of_recordFree {directive : Directive} (free : RecordFree directive) :
    reads directive = [] := by
  obtain ⟨notEquals, unconditional⟩ := free
  rw [reads, if_neg notEquals]
  split
  · rename_i named
    rw [unconditional named, List.map_nil]
  · rfl

end Standard

end RecordCheck
