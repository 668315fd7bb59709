import RecordCheck.Cast
import RecordCheck.Proofs.Number.Numeric
import RecordCheck.Proofs.Outcome
import RecordCheck.Proofs.Value.Same

/-!
What a cast can answer. Main statement: it gives a value or refuses one, and there are two other
outcomes. A numeric text with a separator is not taken by the reader of numbers, and a value with an
integer that is too long cannot be written where it is cast to a text or named in a refusal. What a
leaf is cast to is of the type of the cast, and equal to the value if that was of the type already.
-/

namespace RecordCheck

def FieldType.isNumeric : FieldType → Bool
  | scalar .integer | scalar .number => true
  | _ => false

namespace Value

/-- A text in the shape of a number that no number is read from. -/
def Separated (content : String) : Prop :=
  Numeral.isNumeric content.toList = true ∧ ∃ char ∈ content.toList, Text.isSeparator char = true

/-- A value with an integer that is too long, of which the cast to the type would make a text: the
text itself, or one that names a container that is no number. -/
def Overlong (target : FieldType) (value : Value) : Prop :=
  value.writable = false ∧ (target = .scalar .string ∨
    target.isNumeric = true ∧ (value.isSequence = true ∨ value.isMapping = true))

theorem refusal_eq_iff {target : FieldType} {value : Value} {error : CastError} :
    CastError.refusal value target = error ↔
      value.writable = true ∧ error = .refused value target ∨
      value.writable = false ∧ error = .integer .unwritable := by
  cases fits : value.writable <;> simp [CastError.refusal, fits, eq_comm]

theorem castText_unreadable_iff {target : FieldType} {content text : String} :
    castText target content = .error (.unreadable text) ↔ text = content ∧ Separated content := by
  unfold castText Separated
  by_cases numeric : Numeral.isNumeric content.toList = true
  · rw [if_pos numeric, ← Numeral.float?_eq_none_iff numeric]
    cases Numeral.float? content.toList with
    | none => simp [numeric, eq_comm]
    | some number => cases finite : number.isFinite <;> simp [finite]
  · simp [numeric]

theorem castNumber_unreadable_iff {target : FieldType} {value : Value} {text : String} :
    value.castNumber target = .error (.unreadable text) ↔
      value = .text text ∧ Separated text := by
  cases value with
  | text content =>
      rw [castNumber, castText_unreadable_iff]
      constructor
      · rintro ⟨rfl, separated⟩
        exact ⟨rfl, separated⟩
      · rintro ⟨same, separated⟩
        cases same
        exact ⟨rfl, separated⟩
  | float number =>
      cases nan : number.isNaN <;> cases finite : number.isFinite <;> simp [castNumber, nan, finite]
  | _ => simp [castNumber, refusal_eq_iff]

theorem castNumber_integer_iff {target : FieldType} {value : Value} {fault : Whole.Fault} :
    value.castNumber target = .error (.integer fault) ↔ fault = .unwritable ∧
      value.writable = false ∧ (value.isSequence = true ∨ value.isMapping = true) := by
  cases value with
  | text content =>
      have never : castText target content ≠ .error (.integer fault) := by
        unfold castText
        split
        · split
          · exact nofun
          · split <;> exact nofun
        · exact nofun
      simp [castNumber, never, writable]
  | float number =>
      cases nan : number.isNaN <;> cases finite : number.isFinite <;>
        simp [castNumber, nan, finite, writable]
  | list items => simp [castNumber, refusal_eq_iff, isSequence, and_comm]
  | tuple items => simp [castNumber, refusal_eq_iff, isSequence, and_comm]
  | dict entries => simp [castNumber, refusal_eq_iff, isMapping, isSequence, and_comm]
  | int integer => simp [castNumber, isSequence, isMapping]
  | part content => exact content.elim
  | _ => simp [castNumber, refusal_eq_iff, writable]

theorem castNumber_refused {target : FieldType} {value refused : Value} {other : FieldType}
    (failed : value.castNumber target = .error (.refused refused other)) :
    refused = value ∧ other = target := by
  cases value with
  | text content =>
      rw [castNumber, castText] at failed
      split at failed
      · split at failed
        · cases failed
        · split at failed
          · cases failed
          · cases failed
            exact ⟨rfl, rfl⟩
      · cases failed
        exact ⟨rfl, rfl⟩
  | float number =>
      rw [castNumber] at failed
      split at failed
      · cases failed
      · split at failed
        · cases failed
        · cases failed
          exact ⟨rfl, rfl⟩
  | null => cases failed
  | bool flag => cases failed
  | int integer => cases failed
  | part content => exact content.elim
  | _ =>
      rcases refusal_eq_iff.mp (Except.error.inj failed) with ⟨_, same⟩ | ⟨_, same⟩
      · cases same
        exact ⟨rfl, rfl⟩
      · cases same

theorem textForm_eq (value : Value) :
    ∃ content, value.textForm = Whole.ifWritable value.writable content := by
  cases value <;> exact ⟨_, rfl⟩

theorem castString_error_iff {value : Value} {error : CastError} :
    value.castString = .error error ↔
      value.writable = false ∧ error = .integer .unwritable := by
  obtain ⟨content, form⟩ := textForm_eq value
  rw [castString, map_error_iff, mapError_error_iff, form]
  simp only [Whole.ifWritable_error_iff]
  constructor
  · rintro ⟨fault, ⟨long, rfl⟩, rfl⟩
    exact ⟨long, rfl⟩
  · rintro ⟨long, rfl⟩
    exact ⟨_, ⟨long, rfl⟩, rfl⟩

theorem cast_error_iff {target : FieldType} {value : Value} {error : CastError} :
    value.cast target = .error error ↔
      target = .scalar .string ∧ value.castString = .error error ∨
      target.isNumeric = true ∧ value.castNumber target = .error error := by
  rcases target with (_ | _ | _ | _) | _ | _ <;> simp [cast, FieldType.isNumeric, map_error_iff]

theorem cast_unreadable_iff {target : FieldType} {value : Value} {text : String} :
    value.cast target = .error (.unreadable text) ↔
      value = .text text ∧ target.isNumeric = true ∧ Separated text := by
  rw [cast_error_iff, castNumber_unreadable_iff, castString_error_iff]
  simp [and_left_comm]

theorem cast_integer_iff {target : FieldType} {value : Value} {fault : Whole.Fault} :
    value.cast target = .error (.integer fault) ↔
      fault = .unwritable ∧ Overlong target value := by
  rw [cast_error_iff, castNumber_integer_iff, castString_error_iff, Overlong]
  constructor
  · rintro (⟨string, long, same⟩ | ⟨numeric, rfl, long, container⟩)
    · cases same
      exact ⟨rfl, long, Or.inl string⟩
    · exact ⟨rfl, long, Or.inr ⟨numeric, container⟩⟩
  · rintro ⟨rfl, long, string | ⟨numeric, container⟩⟩
    · exact Or.inl ⟨string, long, rfl⟩
    · exact Or.inr ⟨numeric, rfl, long, container⟩

theorem cast_refused {target other : FieldType} {value refused : Value}
    (failed : value.cast target = .error (.refused refused other)) :
    refused = value ∧ other = target := by
  rcases cast_error_iff.mp failed with ⟨_, string⟩ | ⟨_, number⟩
  · cases (castString_error_iff.mp string).2
  · exact castNumber_refused number

theorem castText_ok {target : FieldType} {content : String} {result : Value}
    (cast : castText target content = .ok result) :
    ∃ number : Binary64, number.isFinite = true ∧ result = .float number := by
  rw [castText] at cast
  split at cast
  · split at cast
    · cases cast
    · rename_i number _
      split at cast
      · rename_i finite
        cases cast
        exact ⟨number, finite, rfl⟩
      · cases cast
  · cases cast

theorem castNumber_ok {target : FieldType} {value result : Value}
    (cast : value.castNumber target = .ok result) : (∃ integer, result = .int integer) ∨
      ∃ number : Binary64, number.isFinite = true ∧ result = .float number := by
  cases value with
  | text content => exact Or.inr (castText_ok cast)
  | float number =>
      rw [castNumber] at cast
      split at cast
      · cases cast
        exact Or.inl ⟨0, rfl⟩
      · split at cast
        · rename_i finite
          cases cast
          exact Or.inr ⟨number, finite, rfl⟩
        · cases cast
  | null | bool _ | int _ =>
      cases cast
      exact Or.inl ⟨_, rfl⟩
  | _ => cases cast

theorem castNumber_float {target : FieldType} {number : Binary64}
    (finite : number.isFinite = true) :
    castNumber target (.float number) = .ok (.float number) := by
  cases number with
  | finite negative units fits => rfl
  | _ => cases finite

theorem truncated_float {number : Binary64} (finite : number.isFinite = true) :
    ∃ integer, truncated (.float number) = .int integer := by
  cases number with
  | finite negative units fits => exact ⟨_, rfl⟩
  | _ => cases finite

theorem cast_cast {target : FieldType} {value result : Value}
    (cast : value.cast target = .ok result) : result.cast target = .ok result := by
  rcases target with (_ | _ | _ | _) | _ | _
  · obtain ⟨content, _, rfl⟩ := map_ok_iff.mp cast
    rfl
  · obtain ⟨number, castOk, rfl⟩ := map_ok_iff.mp cast
    rcases castNumber_ok castOk with ⟨integer, rfl⟩ | ⟨number, finite, rfl⟩
    · rfl
    · obtain ⟨integer, whole⟩ := truncated_float finite
      rw [whole]
      rfl
  · rcases castNumber_ok cast with ⟨integer, rfl⟩ | ⟨number, finite, rfl⟩
    · rfl
    · exact castNumber_float finite
  · cases cast
    rfl
  · rfl
  · rfl

theorem admits_of_cast {type : ScalarType} {value result : Value}
    (cast : value.cast (.scalar type) = .ok result) :
    (FieldType.scalar type).admits result = true := by
  cases type with
  | string =>
      obtain ⟨content, _, rfl⟩ := map_ok_iff.mp cast
      rfl
  | integer =>
      obtain ⟨number, castOk, rfl⟩ := map_ok_iff.mp cast
      rcases castNumber_ok castOk with ⟨integer, rfl⟩ | ⟨number, finite, rfl⟩
      · rfl
      · obtain ⟨integer, whole⟩ := truncated_float finite
        rw [whole]
        rfl
  | number =>
      rcases castNumber_ok cast with ⟨integer, rfl⟩ | ⟨number, finite, rfl⟩
      · rfl
      · exact finite
  | boolean =>
      cases cast
      rfl

theorem truncated_same {number : Binary64} (whole : number.isWhole = true) :
    (truncated (.float number)).same (.float number) = true := by
  cases number with
  | finite negative units fits =>
      have place := Binary64.place?_truncate whole rfl
      exact (same_of_number rfl rfl).trans (Number.same_iff.mpr ⟨_, place, rfl⟩)
  | _ => cases whole

theorem isFinite_of_isWhole {number : Binary64} (whole : number.isWhole = true) :
    number.isFinite = true := by
  cases number with
  | finite negative units fits => rfl
  | _ => cases whole

theorem cast_of_admits {type : ScalarType} {value : Value}
    (admitted : (FieldType.scalar type).admits value = true) :
    ∃ result, value.cast (.scalar type) = .ok result ∧ result.same value = true := by
  cases type with
  | string =>
      cases value with
      | text content => exact ⟨_, rfl, by simp⟩
      | _ => cases admitted
  | integer =>
      cases value with
      | int integer => exact ⟨_, rfl, same_int integer⟩
      | float number =>
          refine ⟨_, ?_, truncated_same admitted⟩
          exact map_ok_iff.mpr ⟨_, castNumber_float (isFinite_of_isWhole admitted), rfl⟩
      | _ => cases admitted
  | number =>
      cases value with
      | int integer => exact ⟨_, rfl, same_int integer⟩
      | float number => exact ⟨_, castNumber_float admitted, same_float admitted⟩
      | _ => cases admitted
  | boolean =>
      cases value with
      | bool flag => exact ⟨_, rfl, same_bool flag⟩
      | _ => cases admitted

theorem same_trans_of_admits {type : ScalarType} {left middle right : Value}
    (leaf : (FieldType.scalar type).admits middle = true) (one : left.same middle = true)
    (other : middle.same right = true) : left.same right = true := by
  cases middle with
  | text content => rwa [eq_text_of_same one]
  | int integer => exact same_trans_of_number rfl one other
  | float number => exact same_trans_of_number rfl one other
  | bool flag => exact same_trans_of_number rfl one other
  | _ => cases type <;> cases leaf

end Value

end RecordCheck
