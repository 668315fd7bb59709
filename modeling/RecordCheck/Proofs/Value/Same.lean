import Mathlib.Data.Nat.Basic
import RecordCheck.Value.Same

/-!
Equality as rules see it, on leaves. Numbers are equal when they stand at one place on the line,
whatever their kinds, so equality of numbers carries over from one to the next.
-/

namespace RecordCheck

namespace Number

theorem same_iff {left right : Number} : left.same right = true ↔
    ∃ place, left.place? = some place ∧ right.place? = some place := by
  rw [same]
  cases left.place? with
  | none => simp
  | some first =>
      cases right.place? with
      | none => simp
      | some second =>
          simp only [beq_iff_eq, Option.some.injEq]
          constructor
          · rintro rfl
            exact ⟨first, rfl, rfl⟩
          · rintro ⟨place, rfl, rfl⟩
            rfl

theorem same_trans {left middle right : Number} (one : left.same middle = true)
    (other : middle.same right = true) : left.same right = true := by
  obtain ⟨place, isLeft, isMiddle⟩ := same_iff.mp one
  obtain ⟨again, isAgain, isRight⟩ := same_iff.mp other
  rw [isMiddle] at isAgain
  cases isAgain
  exact same_iff.mpr ⟨place, isLeft, isRight⟩

end Number

theorem Binary64.place?_truncate {number : Binary64} {integer : Int}
    (whole : number.isWhole = true) (truncated : number.truncate? = some integer) :
    (Number.whole integer).place? = (Number.binary number).place? := by
  cases number with
  | finite negative units fits =>
      have divides : units / unitsPerOne * unitsPerOne = units :=
        Nat.div_mul_cancel (Nat.dvd_of_mod_eq_zero (by simpa [isWhole] using whole))
      have back : ((units / unitsPerOne : Nat) : Int) * (unitsPerOne : Nat) = units := by
        exact_mod_cast divides
      cases truncated
      cases negative with
      | false =>
          rw [if_neg Bool.false_ne_true, Number.place?, Number.place?, back,
            if_neg Bool.false_ne_true]
      | true => rw [if_pos rfl, Number.place?, Number.place?, Int.neg_mul, back, if_pos rfl]
  | _ => cases whole

namespace Value

theorem same_of_number {left right : Value} {first second : Number}
    (isLeft : left.number? = some first) (isRight : right.number? = some second) :
    left.same right = first.same second := by
  cases left <;> cases right <;> simp_all [number?, same]

@[simp] theorem same_text (left right : String) :
    same (.text left) (.text right) = (left == right) := by
  simp [same]

@[simp] theorem same_int (integer : Int) : same (.int integer) (.int integer) = true := by
  rw [same_of_number rfl rfl]
  exact Number.same_iff.mpr ⟨_, rfl, rfl⟩

@[simp] theorem same_bool (flag : Bool) : same (.bool flag) (.bool flag) = true := by
  rw [same_of_number rfl rfl]
  exact Number.same_iff.mpr ⟨_, rfl, rfl⟩

theorem same_float {number : Binary64} (finite : number.isFinite = true) :
    same (.float number) (.float number) = true := by
  rw [same_of_number rfl rfl]
  cases number with
  | finite negative units fits => exact Number.same_iff.mpr ⟨_, rfl, rfl⟩
  | _ => cases finite

theorem eq_text_of_same {value : Value} {content : String}
    (equal : value.same (.text content) = true) : value = .text content := by
  cases value with
  | text other =>
      rw [same_text, beq_iff_eq] at equal
      rw [equal]
  | _ => simp [same, number?] at equal

theorem number_of_same {left right : Value} (equal : left.same right = true) :
    left.number?.isSome = right.number?.isSome := by
  cases left <;> cases right <;> simp_all [same, number?]

theorem same_trans_of_number {left middle right : Value} {number : Number}
    (isNumber : middle.number? = some number) (one : left.same middle = true)
    (other : middle.same right = true) : left.same right = true := by
  have leftNumber := number_of_same one
  have rightNumber := number_of_same other
  rw [isNumber] at leftNumber rightNumber
  obtain ⟨first, isLeft⟩ := Option.isSome_iff_exists.mp leftNumber
  obtain ⟨second, isRight⟩ := Option.isSome_iff_exists.mp rightNumber.symm
  rw [same_of_number isLeft isNumber] at one
  rw [same_of_number isNumber isRight] at other
  rw [same_of_number isLeft isRight]
  exact Number.same_trans one other

theorem same_congr_of_number {left right : Value} {first second : Number}
    (isLeft : left.number? = some first) (isRight : right.number? = some second)
    (place : first.place? = second.place?) (other : Value) :
    left.same other = right.same other := by
  cases isOther : other.number? with
  | some third =>
      rw [same_of_number isLeft isOther, same_of_number isRight isOther, Number.same, Number.same,
        place]
  | none =>
      have differs : ∀ {value : Value} {number}, value.number? = some number →
          value.same other = false := by
        intro value number isNumber
        rw [← Bool.not_eq_true]
        intro equal
        have both := number_of_same equal
        rw [isNumber, isOther] at both
        cases both
      rw [differs isLeft, differs isRight]

theorem text_same_iff {content : String} {value : Value} :
    (Value.text content).same value = true ↔ value = .text content := by
  cases value with
  | text other =>
      rw [same_text, beq_iff_eq, text.injEq]
      exact eq_comm
  | _ => simp [same, number?]

end Value

end RecordCheck
