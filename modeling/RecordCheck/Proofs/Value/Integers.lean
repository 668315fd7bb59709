import RecordCheck.Proofs.Cast
import RecordCheck.Proofs.Number.Written

/-!
Integers cast to text and back. An integer has a text unless it has too many digits. A numeric text
is cast through a floating point number, so an integer comes back rounded to 53 significant bits, and
not at all from `overflowBound` on. Main statement: what comes back is the nearest such integer,
which is the integer itself exactly if it has no more bits.
-/

namespace RecordCheck.Value

open Binary64

variable {integer : Int}

theorem castText_of_read {target : FieldType} {content : String} {number : Binary64}
    (numeric : Numeral.isNumeric content.toList = true)
    (read : Numeral.float? content.toList = some number) :
    castText target content = if number.isFinite then .ok (.float number)
      else .error (.refused (.text content) target) := by
  rw [castText, if_pos numeric, read]

theorem truncated_of_truncate? {number : Binary64} (whole : number.truncate? = some integer) :
    truncated (.float number) = .int integer := by
  rw [truncated, whole]

theorem cast_string_int (integer : Int) : (int integer).cast (.scalar .string) =
    if Whole.writable integer then .ok (text (toString integer))
    else .error (.integer .unwritable) := by
  have form : (int integer).textForm =
      Whole.ifWritable (Whole.writable integer) (toString integer) := rfl
  rw [cast, castString, form]
  cases Whole.writable integer <;> rfl

theorem castNumber_toString (target : FieldType) (integer : Int) :
    castNumber target (text (toString integer)) =
      if (ofInt integer).isFinite then .ok (.float (ofInt integer))
      else .error (.refused (.text (toString integer)) target) :=
  castText_of_read (Numeral.isNumeric_toString integer)
    (Numeral.float?_of_signedDecimal (Numeral.signedDecimal?_toString integer))

theorem cast_toString_of_lt (small : integer.natAbs < overflowBound) :
    (text (toString integer)).cast (.scalar .integer) = .ok (int (nearestInt integer)) := by
  have outcome := castNumber_toString (.scalar .integer) integer
  rw [if_pos (isFinite_ofInt_iff.mpr small)] at outcome
  exact map_ok_iff.mpr ⟨_, outcome, truncated_of_truncate? (truncate?_ofInt small)⟩

theorem cast_toString_of_le (large : overflowBound ≤ integer.natAbs) :
    (text (toString integer)).cast (.scalar .integer) =
      .error (.refused (text (toString integer)) (.scalar .integer)) := by
  have outcome := castNumber_toString (.scalar .integer) integer
  rw [if_neg fun finite => Nat.not_lt.mpr large (isFinite_ofInt_iff.mp finite)] at outcome
  exact map_error_iff.mpr outcome

/-- An integer of no more digits than are written is cast to the text of its decimal digits, and one
of more digits has no text. The decimal text is cast to the nearest integer of 53 significant bits,
or refused if that is too large. -/
theorem integers_return_rounded (integer : Int) : ∃ content : String,
    content.toList = (if integer < 0 then ['-'] else []) ++ Nat.toDigits 10 integer.natAbs ∧
    (int integer).cast (.scalar .string) =
      (if (Nat.toDigits 10 integer.natAbs).length ≤ Whole.digitLimit then .ok (text content)
      else .error (.integer .unwritable)) ∧
    (text content).cast (.scalar .integer) =
      (if integer.natAbs < overflowBound then .ok (int (nearestInt integer))
      else .error (.refused (text content) (.scalar .integer))) ∧
    (nearestInt integer = integer ↔ Exact integer) ∧
    (integer.natAbs ≤ 2 ^ 53 → nearestInt integer = integer) ∧
    Exact (nearestInt integer) ∧
    ∀ other, Exact other →
      (integer - nearestInt integer).natAbs ≤ (integer - other).natAbs := by
  refine ⟨toString integer, toList_toString integer, ?_, ?_, nearestInt_eq_iff, ?_,
    exact_nearestInt integer, ?_⟩
  · rw [cast_string_int, Whole.writable]
    simp only [decide_eq_true_eq]
  · split
    · rename_i small
      exact cast_toString_of_lt small
    · rename_i large
      exact cast_toString_of_le (Nat.le_of_not_lt large)
  · intro small
    exact nearestInt_eq_iff.mpr (exact_of_le small)
  · intro other exact
    exact nearestInt_nearest integer exact

/-- The least integer above zero that takes more than 53 bits does not come back. -/
theorem integers_need_not_return :
    ¬∀ (integer : Int) (content : String),
      (int integer).cast (.scalar .string) = .ok (text content) →
        (text content).cast (.scalar .integer) = .ok (int integer) ∨
          ∃ error, (text content).cast (.scalar .integer) = .error error := by
  intro claimed
  have small : (9007199254740993 : Int).natAbs < overflowBound := by
    decide +kernel
  have rounded : nearestInt 9007199254740993 = 9007199254740992 := by
    decide +kernel
  have outcome := cast_toString_of_lt small
  rw [rounded] at outcome
  have written : (int 9007199254740993).cast (.scalar .string) =
      .ok (text (toString (9007199254740993 : Int))) := by
    rw [cast_string_int, if_pos (by decide)]
  rcases claimed _ _ written with same | ⟨error, refused⟩
  · rw [outcome] at same
    cases same
  · rw [outcome] at refused
    cases refused

end RecordCheck.Value
