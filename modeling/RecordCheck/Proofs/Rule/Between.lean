import RecordCheck.Proofs.Number.Written
import RecordCheck.Proofs.Rule.Arguments
import RecordCheck.Proofs.Rule.Registry

/-!
The rule `betweenNumber` on integers. Its bounds are read as floating point numbers and the value is
compared with them exactly. Main statement: a bound that is written as an integer counts as the
nearest integer of 53 significant bits, and as infinite from `overflowBound` on.
-/

namespace RecordCheck

open Binary64

def StartsAt (low value : Int) : Prop :=
  if low.natAbs < overflowBound then nearestInt low ≤ value else low < 0

def EndsAt (high value : Int) : Prop :=
  if high.natAbs < overflowBound then value ≤ nearestInt high else 0 ≤ high

theorem startsAt_iff_of_exact {low : Int} (exact : Exact low) (small : low.natAbs < overflowBound)
    (value : Int) : StartsAt low value ↔ low ≤ value := by
  rw [StartsAt, if_pos small, nearestInt_eq_iff.mpr exact]

theorem endsAt_iff_of_exact {high : Int} (exact : Exact high)
    (small : high.natAbs < overflowBound) (value : Int) : EndsAt high value ↔ value ≤ high := by
  rw [EndsAt, if_pos small, nearestInt_eq_iff.mpr exact]

theorem within_iff_of_exact {low high : Int} (lowExact : Exact low)
    (lowSmall : low.natAbs < overflowBound) (highExact : Exact high)
    (highSmall : high.natAbs < overflowBound) (value : Int) :
    StartsAt low value ∧ EndsAt high value ↔ low ≤ value ∧ value ≤ high := by
  rw [startsAt_iff_of_exact lowExact lowSmall, endsAt_iff_of_exact highExact highSmall]

namespace Number

theorem whole_le_iff {left right : Int} :
    (whole left).le (whole right) = true ↔ left ≤ right := by
  have positive : (0 : Int) < unitsPerOne := Int.natCast_pos.mpr unitsPerOne_pos
  simp only [le, place?, Place.le, decide_eq_true_eq]
  exact Int.mul_le_mul_right positive

theorem le_congr_left {left other : Number} (same : left.place? = other.place?) (right : Number) :
    left.le right = other.le right := by
  rw [le, le, same]

theorem le_congr_right {right other : Number} (same : right.place? = other.place?)
    (left : Number) : left.le right = left.le other := by
  rw [le, le, same]

theorem infinite_le_whole (negative : Bool) (value : Int) :
    (binary (.infinite negative)).le (whole value) = negative := by
  cases negative <;> rfl

theorem whole_le_infinite (negative : Bool) (value : Int) :
    (whole value).le (binary (.infinite negative)) = !negative := by
  cases negative <;> rfl

theorem ofInt_le_iff (low value : Int) :
    (binary (ofInt low)).le (whole value) = true ↔ StartsAt low value := by
  rw [StartsAt]
  split
  · rename_i small
    rw [le_congr_left (place?_ofInt small), whole_le_iff]
  · rename_i large
    rw [ofInt_of_le (Nat.le_of_not_lt large), infinite_le_whole, decide_eq_true_eq]

theorem le_ofInt_iff (high value : Int) :
    (whole value).le (binary (ofInt high)) = true ↔ EndsAt high value := by
  rw [EndsAt]
  split
  · rename_i small
    rw [le_congr_right (place?_ofInt small), whole_le_iff]
  · rename_i large
    rw [ofInt_of_le (Nat.le_of_not_lt large), whole_le_infinite, Bool.not_eq_true',
      decide_eq_false_iff_not, Int.not_lt]

end Number

namespace Standard

theorem toFloat?_toString (integer : Int) :
    (Value.text (toString integer)).toFloat? = .ok (some (ofInt integer)) := by
  have read := Numeral.float?_of_signedDecimal (Numeral.signedDecimal?_toString integer)
  rw [Value.toFloat?, read]

def betweenRule : Rule :=
  .make "betweenNumber" betweenNumber "Value should be between \x7b0\x7d and \x7b1\x7d" none false

theorem betweenRule_message (low high : String) :
    betweenRule.message [.positional (.text low), .positional (.text high)] =
      .ok ("Value should be between " ++ low ++ " and " ++ high) := by
  have filled : fillTemplate betweenRule.template [.positional (.text low), .positional (.text high)] =
      .ok (String.ofList ("Value should be between ".toList ++
        (low.toList ++ (" and ".toList ++ (high.toList ++ []))))) := by rfl
  rw [Rule.message, filled, List.append_nil, ← String.toList_append, ← String.toList_append,
    ← String.toList_append, String.ofList_toList, String.append_assoc, String.append_assoc]
  rfl

theorem betweenNumber_of_read {arguments : List Argument} {low high : Binary64}
    (first : numberArgument "betweenNumber" arguments 0 = .ok low)
    (second : numberArgument "betweenNumber" arguments 1 = .ok high) (value : Int)
    (record : Value) : betweenNumber (.int value) arguments record =
      .ok ((Number.binary low).le (.whole value) && (Number.whole value).le (.binary high)) := by
  rw [betweenNumber, first]
  simp only [Except.bind, second, Except.map, Value.number?, Value.isNumber, Bool.true_and]

theorem evaluate_between {arguments : List Argument} {value record : Value} {holds : Bool}
    {message : String} (answers : betweenNumber value arguments record = .ok holds)
    (written : betweenRule.message arguments = .ok message) :
    registry.evaluate "betweenNumber" value arguments record =
      .ok (if holds then .valid else .invalid "VALIDATION_FAILED_BETWEEN_NUMBER" message) := by
  have known : registry.find? "betweenNumber" = some betweenRule := by rfl
  have named : betweenRule.errorId = "VALIDATION_FAILED_BETWEEN_NUMBER" := by rfl
  have asked : betweenRule.predicate value arguments record = .ok holds := answers
  rw [Registry.evaluate_of_answer known asked written, named]

def writtenBounds (low high : Int) : List Argument :=
  [.positional (.text (toString low)), .positional (.text (toString high))]

/-- `betweenNumber` answers about every integer and bounds that are written as integers. The bounds
count as what their texts are read as, so the answer is about the bounds themselves only if these
have no more than 53 significant bits and are not beyond all finite numbers. -/
theorem betweenNumber_rounds_bounds (value low high : Int) (record : Value) : ∃ outcome,
    registry.evaluate "betweenNumber" (.int value) (writtenBounds low high) record =
      .ok outcome ∧
    (outcome = .valid ↔ StartsAt low value ∧ EndsAt high value) ∧
    (outcome ≠ .valid → outcome = .invalid "VALIDATION_FAILED_BETWEEN_NUMBER"
      ("Value should be between " ++ toString low ++ " and " ++ toString high)) ∧
    (Exact low → low.natAbs < overflowBound → Exact high → high.natAbs < overflowBound →
      (outcome = .valid ↔ low ≤ value ∧ value ≤ high)) ∧
    (low.natAbs ≤ 2 ^ 53 → high.natAbs ≤ 2 ^ 53 →
      (outcome = .valid ↔ low ≤ value ∧ value ≤ high)) := by
  have first : numberArgument "betweenNumber" (writtenBounds low high) 0 = .ok (ofInt low) :=
    numberArgument_of_read rfl (toFloat?_toString low)
  have second : numberArgument "betweenNumber" (writtenBounds low high) 1 = .ok (ofInt high) :=
    numberArgument_of_read rfl (toFloat?_toString high)
  have evaluated := evaluate_between (betweenNumber_of_read first second value record)
    (betweenRule_message (toString low) (toString high))
  generalize within : ((Number.binary (ofInt low)).le (.whole value) &&
    (Number.whole value).le (.binary (ofInt high))) = holds at evaluated
  have meets : holds = true ↔ StartsAt low value ∧ EndsAt high value := by
    rw [← within, Bool.and_eq_true, Number.ofInt_le_iff, Number.le_ofInt_iff]
  have valid : (if holds then Outcome.valid else .invalid "VALIDATION_FAILED_BETWEEN_NUMBER"
      ("Value should be between " ++ toString low ++ " and " ++ toString high)) = .valid ↔
        StartsAt low value ∧ EndsAt high value := by
    rw [← meets]
    cases holds <;> simp
  refine ⟨_, evaluated, valid, ?_, ?_, ?_⟩
  · intro complained
    cases holds with
    | false => rfl
    | true => exact absurd rfl complained
  · intro lowExact lowSmall highExact highSmall
    rw [valid, within_iff_of_exact lowExact lowSmall highExact highSmall]
  · intro lowSmall highSmall
    rw [valid, within_iff_of_exact (exact_of_le lowSmall) (lt_bound_of_le lowSmall)
      (exact_of_le highSmall) (lt_bound_of_le highSmall)]

/-- A bound of 54 bits is met by the integer that it is rounded to, and need not be met by itself. -/
example : registry.evaluate "betweenNumber" (.int 9007199254740992)
      (writtenBounds 9007199254740993 9007199254740993) (.dict []) = .ok .valid ∧
    registry.evaluate "betweenNumber" (.int 9007199254740995)
      (writtenBounds 9007199254740995 9007199254740995) (.dict []) ≠ .ok .valid := by
  decide +kernel

end Standard

end RecordCheck
