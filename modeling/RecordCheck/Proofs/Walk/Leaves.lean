import RecordCheck.Proofs.Number.Written
import RecordCheck.Proofs.Walk.Recast

/-!
Leaves that are cast. A cast answers, refuses, cannot read or cannot write a value, and the walk of
the leaf does the same. Main statement: what a leaf is cast to is of the type of the leaf and is cast
to itself, so that after a cast no complaint about the type is left, only those of the rules. A truth
value is always there, and a text unless an integer in the value is too long for one.
-/

namespace RecordCheck.Walk

variable {setting : Setting}

/-- A walk that casts turns every answer of the cast into its own: the rules are asked about the
result, and a refused value is complained about. -/
theorem visit_leaf (casts : setting.cast = true) {property : Property} {type : ScalarType}
    (leaf : property.shape = .scalar type) (path : Path) {value : Value}
    (present : value ≠ .absent) :
    visit setting property path value =
      match value.cast (.scalar type) with
      | .ok result =>
          (applyRules setting result path property.rules).map fun found => (result, found)
      | .error (.refused _ _) => .ok (value, .wrongType path (.scalar type))
      | .error (.unreadable text) => .error (.unreadable text)
      | .error (.integer fault) => .error (.integer fault) := by
  obtain ⟨shape, rules, fallback, extras⟩ := property
  cases leaf
  simp only [visit, present, if_false, Shape.type, castLeaf, casts, FieldType.isScalar,
    Bool.and_self, if_true]
  cases cast : value.cast (.scalar type) with
  | ok result =>
      simp only [Except.bind, Value.admits_of_cast cast, Bool.not_true, Bool.false_eq_true, if_false,
        visitInside]
      rfl
  | error error => cases error <;> rfl

/-- What a leaf is cast to is of its type and is cast to itself, and is only held to the rules of the
leaf. Every value can be cast to a truth value, and those that can be cast to a text are the ones that
can be written. -/
theorem casts_settle_leaves (value : Value) :
    (∀ (type : ScalarType) (result : Value), value.cast (.scalar type) = .ok result →
      (FieldType.scalar type).admits result = true ∧
      result.cast (.scalar type) = .ok result ∧
      ∀ (setting : Setting) (property : Property) (path : Path), setting.cast = true →
        property.shape = .scalar type → value ≠ .absent →
        visit setting property path value =
          (applyRules setting result path property.rules).map fun found => (result, found)) ∧
    ((∃ text, value.cast (.scalar .string) = .ok (.text text)) ↔ value.writable = true) ∧
    (value.writable = false → value.cast (.scalar .string) = .error (.integer .unwritable)) ∧
    ∃ flag, value.cast (.scalar .boolean) = .ok (.bool flag) := by
  refine ⟨?_, ?_, ?_, value.truthy, rfl⟩
  · intro type result cast
    refine ⟨Value.admits_of_cast cast, Value.cast_cast cast, ?_⟩
    intro setting property path casts leaf present
    rw [visit_leaf casts leaf path present, cast]
  · obtain ⟨content, form⟩ := value.textForm_eq
    cases fits : value.writable <;>
      simp [Value.cast, Value.castString, form, fits, Whole.ifWritable, Except.map]
  · intro long
    exact Value.castString_error_iff.mpr ⟨long, rfl⟩

theorem not_always_text :
    ¬∀ value : Value, ∃ result, value.cast (.scalar .string) = .ok result := by
  intro always
  obtain ⟨integer, long⟩ := Whole.exists_unwritable
  obtain ⟨result, cast⟩ := always (.int integer)
  exact nomatch cast.symm.trans (Value.castString_error_iff.mpr ⟨long, rfl⟩)

def rating : Property where
  shape := .scalar .integer
  rules := [⟨"betweenNumber", [.positional (.text "0"), .positional (.text "9")]⟩]
  fallback := none
  extras := []

def castingSetting : Setting := ⟨.filter, true, Standard.registry, .dict []⟩

theorem rating_settled :
    (Value.text " 38e-1").cast (.scalar .integer) = .ok (.int 3) ∧
      (Value.int 3).cast (.scalar .integer) = .ok (.int 3) ∧
      visit castingSetting rating [.name "rating"] (.text " 38e-1") = .ok (.int 3, .none) ∧
      ∃ text, (Value.dict [(.text "a", .list [.null])]).cast (.scalar .string) = .ok (.text text) := by
  have cast : (Value.text " 38e-1").cast (.scalar .integer) = .ok (.int 3) := by
    decide +kernel
  obtain ⟨_, again, visited⟩ := (casts_settle_leaves _).1 .integer _ cast
  refine ⟨cast, again, ?_, (casts_settle_leaves _).2.1.mpr rfl⟩
  rw [visited castingSetting rating _ rfl rfl nofun]
  decide +kernel

end RecordCheck.Walk
