import RecordCheck.Proofs.Number.Written
import RecordCheck.Proofs.Rule.Between
import RecordCheck.Proofs.Rule.Message
import RecordCheck.Proofs.Value.Same

/-!
An integer and the floating point number equal to it, as the standard rules see them. They stand at
one place on the line, so what compares numbers cannot tell them apart, but their texts differ.
Main statement: of the standard rules just `oneOf`, which looks at the text, tells them apart.
-/

namespace RecordCheck

namespace Decimal

theorem mark_mem_layout (decimal : Decimal) : '.' ∈ decimal.layout ∨ 'e' ∈ decimal.layout := by
  rw [layout]
  dsimp only
  split
  · refine Or.inl ?_
    split
    · simp
    · split <;> simp
  · refine Or.inr ?_
    simp

end Decimal

namespace Binary64

theorem mark_mem_text {number : Binary64} (finite : number.isFinite = true)
    (words : SpecialWords) :
    '.' ∈ (number.text words).toList ∨ 'e' ∈ (number.text words).toList := by
  cases number with
  | finite negative units fits =>
      have magnitude : ∀ chars : List Char, '.' ∈ chars ∨ 'e' ∈ chars →
          '.' ∈ (if negative then '-' :: chars else chars) ∨
            'e' ∈ (if negative then '-' :: chars else chars) := by
        intro chars marked
        cases negative with
        | false => exact marked
        | true => exact marked.imp (List.mem_cons_of_mem _) (List.mem_cons_of_mem _)
      rw [text, String.toList_ofList]
      apply magnitude
      split
      · exact Or.inl (by decide)
      · exact Decimal.mark_mem_layout _
  | _ => cases finite

/-- The text of an integer has neither a point nor an exponent, so no float has it. -/
theorem text_ne_toString {number : Binary64} (finite : number.isFinite = true)
    (words : SpecialWords) (integer : Int) : number.text words ≠ toString integer := by
  intro same
  have unmarked : ∀ char ∈ (toString integer).toList, char ≠ '.' ∧ char ≠ 'e' := by
    intro char member
    rw [toList_toString, List.mem_append] at member
    rcases member with sign | digit
    · split at sign
      · cases List.mem_singleton.mp sign
        decide
      · cases sign
    · have decimal := Text.isDecimal_of_mem_toDigits char digit
      constructor
      · rintro rfl
        exact absurd decimal (by decide)
      · rintro rfl
        exact absurd decimal (by decide)
  rw [← same] at unmarked
  rcases mark_mem_text finite words with point | exponent
  · exact (unmarked _ point).1 rfl
  · exact (unmarked _ exponent).2 rfl

end Binary64

namespace Standard

open Binary64 in
theorem same_ofInt {integer : Int} (exact : Exact integer)
    (small : integer.natAbs < overflowBound) :
    (Value.int integer).same (.float (ofInt integer)) = true := by
  have place := place?_ofInt small
  rw [nearestInt_eq_iff.mpr exact] at place
  rw [Value.same_of_number rfl rfl]
  exact Number.same_iff.mpr ⟨_, rfl, place⟩

section Alike

variable {integer : Int} {number : Binary64}
  (equal : (Value.int integer).same (.float number) = true)
include equal

theorem place?_eq_of_same :
    (Number.whole integer).place? = (Number.binary number).place? := by
  rw [Value.same_of_number rfl rfl] at equal
  obtain ⟨place, isWhole, isBinary⟩ := Number.same_iff.mp equal
  rw [isWhole, isBinary]

theorem isFinite_of_same : number.isFinite = true := by
  have place := place?_eq_of_same equal
  cases number with
  | finite => rfl
  | nan => cases place
  | infinite negative => cases negative <;> cases place

open Binary64 in
theorem lt_bound_of_same : integer.natAbs < overflowBound := by
  have place := place?_eq_of_same equal
  cases number with
  | nan => cases place
  | infinite negative => cases negative <;> cases place
  | finite negative units fits =>
      have whole : integer.natAbs * unitsPerOne = units := by
        have places : integer * unitsPerOne = if negative then -(units : Int) else units :=
          Place.at.inj (Option.some.inj place)
        have magnitudes := congrArg Int.natAbs places
        rw [Int.natAbs_mul, Int.natAbs_natCast] at magnitudes
        cases negative with
        | false => exact magnitudes
        | true => exact magnitudes.trans (Int.natAbs_neg _)
      subst whole
      -- a product with a power of two keeps its significant bits, so the integer is not rounded
      have exact := nearestUnits_eq_iff.mpr (representable_iff.mp fits).2
      rw [nearestUnits_units] at exact
      exact representable_nearest_iff.mp (exact.symm ▸ fits)

theorem same_eq_of_same (other : Value) :
    (Value.int integer).same other = (Value.float number).same other :=
  Value.same_congr_of_number rfl rfl (place?_eq_of_same equal) other

theorem betweenNumber_alike (arguments : List Argument) (record : Value) :
    betweenNumber (.int integer) arguments record =
      betweenNumber (.float number) arguments record := by
  have place := place?_eq_of_same equal
  have compared : ∀ low high : Binary64,
      ((Number.binary low).le (.whole integer) && (Number.whole integer).le (.binary high)) =
        ((Number.binary low).le (.binary number) && (Number.binary number).le (.binary high)) := by
    intro low high
    rw [Number.le_congr_left place, Number.le_congr_right place]
  simp only [betweenNumber, Value.number?, Value.isNumber, isFinite_of_same equal, Bool.true_and,
    compared]

theorem equals_alike (arguments : List Argument) (record : Value) :
    equals (.int integer) arguments record = equals (.float number) arguments record := by
  unfold equals
  split
  · rfl
  · simp only [same_eq_of_same equal]

theorem predicate_alike {rule : Rule} (standard : rule ∈ rules) (other : rule.name ≠ "oneOf")
    (arguments : List Argument) (record : Value) :
    rule.predicate (.int integer) arguments record =
      rule.predicate (.float number) arguments record := by
  simp only [rules, List.mem_cons, List.not_mem_nil, or_false] at standard
  rcases standard with rfl | rfl | rfl | rfl | rfl | rfl | rfl | rfl | rfl | rfl
  case inr.inl => exact betweenNumber_alike equal arguments record
  case inr.inr.inl => exact equals_alike equal arguments record
  case inr.inr.inr.inr.inr.inr.inl => exact absurd rfl other
  all_goals rfl

theorem evaluate_alike {name : String} (other : name ≠ "oneOf") (arguments : List Argument)
    (record : Value) : registry.evaluate name (.int integer) arguments record =
      registry.evaluate name (.float number) arguments record := by
  rw [Registry.evaluate_eq, Registry.evaluate_eq]
  cases found : registry.find? name with
  | none => rfl
  | some rule =>
      obtain ⟨standard, named⟩ := Registry.mem_of_find?_ofRules found
      rw [Option.elim, Option.elim, Rule.evaluate, Rule.evaluate,
        predicate_alike equal standard (named ▸ other)]

end Alike

/-- Among the allowed values there is one that the value equals, or the scalar text of the value. -/
def Allowed (arguments : List Argument) (value : Value) : Prop :=
  (∃ item ∈ Argument.positionals arguments, value.same item = true) ∨
    .text value.spelledScalar ∈ Argument.positionals arguments

def oneOfRule : Rule := .make "oneOf" oneOf "Value should be one of the allowed values" none false

theorem oneOf_eq {value : Value} (written : value.writable = true) (arguments : List Argument)
    (record : Value) : oneOf value arguments record =
      .ok ((Argument.positionals arguments).any (value.same ·) ||
        (Argument.positionals arguments).any ((Value.text value.spelledScalar).same ·)) := by
  rw [oneOf, Value.scalarText, written]
  split
  · rename_i listed
    rw [listed, Bool.true_or]
  · rename_i unlisted
    rw [Bool.eq_false_iff.mpr unlisted, Bool.false_or]
    rfl

/-- The rule `oneOf` answers about every value that can be written, and accepts those that are
allowed. -/
theorem verdict_oneOf {value : Value} (written : value.writable = true) (arguments : List Argument)
    (record : Value) :
    ∃ outcome, registry.evaluate "oneOf" value arguments record = .ok outcome ∧
      (outcome ≠ .valid → outcome = .invalid "VALIDATION_FAILED_ONE_OF"
        "Value should be one of the allowed values") ∧
      (outcome = .valid ↔ Allowed arguments value) := by
  have known : registry.find? "oneOf" = some oneOfRule := by rfl
  have free : '\x7b' ∉ oneOfRule.template.toList := by decide
  obtain ⟨outcome, evaluated, complains, valid⟩ :=
    Registry.verdict_of_plain known free (oneOf_eq written arguments record)
  have named : oneOfRule.errorId = "VALIDATION_FAILED_ONE_OF" := by rfl
  rw [named] at complains
  refine ⟨outcome, evaluated, complains, ?_⟩
  rw [valid, Bool.or_eq_true, List.any_eq_true, List.any_eq_true, Allowed]
  simp only [Value.text_same_iff, exists_eq_right]

theorem allowed_int_iff {arguments : List Argument} {integer : Int} :
    Allowed arguments (.int integer) ↔
      (∃ item ∈ Argument.positionals arguments, (Value.int integer).same item = true) ∨
        .text (toString integer) ∈ Argument.positionals arguments := Iff.rfl

theorem allowed_float_iff {arguments : List Argument} {integer : Int} {number : Binary64}
    (equal : (Value.int integer).same (.float number) = true) :
    Allowed arguments (.float number) ↔
      (∃ item ∈ Argument.positionals arguments, (Value.int integer).same item = true) ∨
        .text (number.text Value.plainWords) ∈ Argument.positionals arguments := by
  simp only [same_eq_of_same equal]
  exact Iff.rfl

theorem not_allowed_float {integer : Int} {number : Binary64}
    (equal : (Value.int integer).same (.float number) = true) :
    ¬Allowed [.positional (.text (toString integer))] (.float number) := by
  rw [allowed_float_iff equal]
  rintro (⟨item, member, same⟩ | written)
  · cases List.mem_singleton.mp member
    cases Value.eq_text_of_same same
  · have texts := Value.text.inj (List.mem_singleton.mp written)
    exact Binary64.text_ne_toString (isFinite_of_same equal) Value.plainWords integer texts

/-- The standard rules but `oneOf` answer the same about an integer and the floating point number
equal to it. `oneOf` answers about both, and the answers agree just if the number is among the
allowed values, or if both or neither of its two texts are. So they never agree where the text of
the integer is all that is allowed. -/
theorem only_oneOf_separates {integer : Int} {number : Binary64}
    (equal : (Value.int integer).same (.float number) = true) (arguments : List Argument)
    (record : Value) :
    (∀ name, name ≠ "oneOf" → registry.evaluate name (.int integer) arguments record =
      registry.evaluate name (.float number) arguments record) ∧
    ∃ whole float, registry.evaluate "oneOf" (.int integer) arguments record = .ok whole ∧
      registry.evaluate "oneOf" (.float number) arguments record = .ok float ∧
      (whole = float ↔
        (∃ item ∈ Argument.positionals arguments, (Value.int integer).same item = true) ∨
        (.text (toString integer) ∈ Argument.positionals arguments ↔
          .text (number.text Value.plainWords) ∈ Argument.positionals arguments)) ∧
      (arguments = [.positional (.text (toString integer))] → whole = .valid ∧ float ≠ .valid) := by
  have wholeWritten : (Value.int integer : Value).writable = true :=
    Binary64.writable_of_lt (lt_bound_of_same equal)
  have floatWritten : (Value.float number : Value).writable = true := rfl
  obtain ⟨whole, ofWhole, wholeComplains, wholeValid⟩ :=
    verdict_oneOf wholeWritten arguments record
  obtain ⟨float, ofFloat, floatComplains, floatValid⟩ :=
    verdict_oneOf floatWritten arguments record
  have agreement : whole = float ↔ (whole = .valid ↔ float = .valid) := by
    constructor
    · rintro rfl
      exact Iff.rfl
    · intro agree
      by_cases accepted : whole = .valid
      · rw [accepted, agree.mp accepted]
      · rw [wholeComplains accepted, floatComplains (mt agree.mpr accepted)]
  refine ⟨fun name other => evaluate_alike equal other arguments record, whole, float, ofWhole,
    ofFloat, ?_, ?_⟩
  · rw [agreement, wholeValid, floatValid, allowed_int_iff, allowed_float_iff equal]
    by_cases listed : ∃ item ∈ Argument.positionals arguments, (Value.int integer).same item = true
    · simp only [listed, true_or]
    · simp only [listed, false_or]
  · rintro rfl
    exact ⟨wholeValid.mpr (Or.inr List.mem_cons_self), mt floatValid.mp (not_allowed_float equal)⟩

theorem only_oneOf_separates_three :
    (Value.int 3).same (.float (Binary64.ofInt 3)) = true ∧
    registry.evaluate "equals" (.int 3) [.positional (.text "3")] (.dict [(.text "3", .int 3)]) =
      registry.evaluate "equals" (.float (Binary64.ofInt 3)) [.positional (.text "3")]
        (.dict [(.text "3", .int 3)]) ∧
    registry.evaluate "oneOf" (.int 3) [.positional (.text "3")] (.dict [(.text "3", .int 3)]) ≠
      registry.evaluate "oneOf" (.float (Binary64.ofInt 3)) [.positional (.text "3")]
        (.dict [(.text "3", .int 3)]) := by
  have three : (Value.int 3).same (.float (Binary64.ofInt 3)) = true :=
    same_ofInt (Binary64.exact_of_le (by decide)) (Binary64.lt_bound_of_le (by decide))
  obtain ⟨others, whole, float, ofWhole, ofFloat, _, parted⟩ := only_oneOf_separates three
    [.positional (.text "3")] (.dict [(.text "3", .int 3)])
  obtain ⟨accepted, refused⟩ := parted rfl
  refine ⟨three, others "equals" (by decide), ?_⟩
  rw [ofWhole, ofFloat, accepted]
  intro same
  exact refused (Except.ok.inj same).symm

end Standard

end RecordCheck
