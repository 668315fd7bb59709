import RecordCheck.Json.Reader
import RecordCheck.Proofs.Number.Written
import RecordCheck.Proofs.Text.Cut

/-!
Integers of documents. The digits of an integer are read up to what follows them, and those of an
integer that can be written make it again.
-/

namespace RecordCheck.Json

/-- What follows a value inside a document, if anything does: a comma or a closing bracket. -/
def Closes (rest : List Char) : Prop := ∀ char, rest.head? = some char → char ∈ [',', ']', '\x7d']

variable {rest : List Char}

theorem closes_nil : Closes [] := nofun

theorem closes_cons {char : Char} (closing : char ∈ [',', ']', '\x7d']) (later : List Char) :
    Closes (char :: later) := by
  intro other head
  cases head
  exact closing

theorem Closes.not_isDigit (closes : Closes rest) :
    ∀ char, rest.head? = some char → char.isDigit = false := by
  have table : ∀ char ∈ [',', ']', '\x7d'], Char.isDigit char = false := by simp
  exact fun char head => table char (closes char head)

theorem isDigit_of_mem_digits (number : Nat) :
    ∀ char ∈ Nat.toDigits 10 number, char.isDigit = true :=
  fun _ member => Nat.isDigit_of_mem_toDigits (by decide) (by decide) member

theorem digits_begin (number : Nat) : ∃ first later, Nat.toDigits 10 number = first :: later ∧
    (first = '0' → number = 0) := by
  induction number using Nat.strongRecOn with
  | ind number ih =>
      rw [Nat.toDigits_eq_if (by decide)]
      split
      · rename_i single
        have table : ∀ digit < 10, Nat.digitChar digit = '0' → digit = 0 := by decide
        exact ⟨_, _, rfl, table number single⟩
      · obtain ⟨first, later, digits, zero⟩ := ih (number / 10) (by omega)
        refine ⟨first, _, by rw [digits, List.cons_append], fun same => ?_⟩
        have none := zero same
        omega

/-- Digits begin with a digit, and only those of zero begin with the digit zero. -/
theorem digits_cons (number : Nat) : ∃ first later, Nat.toDigits 10 number = first :: later ∧
    first.isDigit = true ∧ (first = '0' → number = 0) := by
  obtain ⟨first, later, digits, zero⟩ := digits_begin number
  have member : first ∈ Nat.toDigits 10 number := by
    rw [digits]
    exact List.mem_cons_self
  exact ⟨first, later, digits, isDigit_of_mem_digits number first member, zero⟩

theorem wholePart?_digits (closes : Closes rest) (number : Nat) :
    wholePart? (Nat.toDigits 10 number ++ rest) = some (Nat.toDigits 10 number, rest) := by
  obtain ⟨taken, dropped⟩ :=
    Text.cut_at_stop Char.isDigit (isDigit_of_mem_digits number) closes.not_isDigit
  obtain ⟨first, later, digits, _, zero⟩ := digits_cons number
  by_cases leading : first = '0'
  · rw [zero leading, Nat.toDigits_zero]
    rfl
  · unfold wholePart?
    split
    · rename_i same
      rw [digits] at same
      cases same
      exact absurd rfl leading
    · rw [taken, dropped, if_neg (by simp)]

theorem fractionPart_of_closes (closes : Closes rest) : fractionPart rest = (none, rest) := by
  unfold fractionPart
  split
  · exact absurd (closes '.' rfl) (by decide)
  · rfl

theorem exponentPart_of_closes (closes : Closes rest) : exponentPart rest = (none, rest) := by
  cases rest with
  | nil => rfl
  | cons mark later =>
      have noMark : ¬(mark = 'e' ∨ mark = 'E') := by
        rintro (rfl | rfl)
        · exact absurd (closes 'e' rfl) (by decide)
        · exact absurd (closes 'E' rfl) (by decide)
      simp [exponentPart, noMark]

theorem readInteger_digits {integer : Int} (fits : Whole.writable integer = true) :
    readInteger (decide (integer < 0)) (Nat.toDigits 10 integer.natAbs) =
      .ok (.int integer) := by
  have counted : (Nat.toDigits 10 integer.natAbs).takeWhile Text.isDecimal =
      Nat.toDigits 10 integer.natAbs :=
    List.takeWhile_eq_self_iff.mpr Text.isDecimal_of_mem_toDigits
  have signed : (if decide (integer < 0) = true then -(integer.natAbs : Int)
      else integer.natAbs) = integer := by
    by_cases negative : integer < 0
    · rw [if_pos (decide_eq_true negative)]
      omega
    · rw [if_neg (by simpa using negative)]
      omega
  rw [readInteger, Whole.read, counted, Text.natural?_toDigits,
    if_neg (Nat.not_lt.mpr (of_decide_eq_true fits))]
  simp only [signed]

theorem readNumber_minus (closes : Closes rest) (number : Nat) :
    readNumber ('-' :: (Nat.toDigits 10 number ++ rest)) =
      (readInteger true (Nat.toDigits 10 number)).map fun value => (value, rest) := by
  unfold readNumber
  simp only [wholePart?_digits closes, fractionPart_of_closes closes,
    exponentPart_of_closes closes, Option.isNone_none, Bool.and_self, if_true]

theorem readNumber_digits (closes : Closes rest) (number : Nat) :
    readNumber (Nat.toDigits 10 number ++ rest) =
      (readInteger false (Nat.toDigits 10 number)).map fun value => (value, rest) := by
  obtain ⟨first, later, digits, digit, _⟩ := digits_cons number
  have unsigned : first ≠ '-' := by
    rintro rfl
    cases digit
  have part := wholePart?_digits closes number
  rw [digits, List.cons_append] at part ⊢
  unfold readNumber
  split
  rename_i magnitude sign
  split at sign
  · rename_i same
    cases same
    exact absurd rfl unsigned
  · cases sign
    simp only [part, fractionPart_of_closes closes, exponentPart_of_closes closes,
      Option.isNone_none, Bool.and_self, if_true]

theorem readNumber_toString (closes : Closes rest) {integer : Int}
    (fits : Whole.writable integer = true) :
    readNumber ((toString integer).toList ++ rest) = .ok (.int integer, rest) := by
  have signed : readNumber ((toString integer).toList ++ rest) =
      (readInteger (decide (integer < 0)) (Nat.toDigits 10 integer.natAbs)).map
        fun value => (value, rest) := by
    rw [toList_toString]
    by_cases negative : integer < 0
    · rw [if_pos negative, decide_eq_true negative]
      exact readNumber_minus closes integer.natAbs
    · rw [if_neg negative, decide_eq_false negative]
      exact readNumber_digits closes integer.natAbs
  rw [signed, readInteger_digits fits]
  rfl

end RecordCheck.Json
