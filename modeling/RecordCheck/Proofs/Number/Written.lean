import RecordCheck.Number.Whole
import RecordCheck.Proofs.Number.Numeric
import RecordCheck.Proofs.Number.Rounding

/-!
Integers written in decimal digits and read as floating point numbers. The text of an integer is
numeric and is read as the number nearest to the integer, infinite beyond `overflowBound`.
-/

namespace RecordCheck

namespace Text

theorem natural?_toDigits (number : Nat) : natural? (Nat.toDigits 10 number) = some number := by
  have digits : ∀ digit ∈ Nat.toDigits 10 number, digit.isDigit = true := by
    intro digit member
    exact Nat.isDigit_of_mem_toDigits (by decide) (by decide) member
  rw [natural?_of_digits digits, Nat.ofDigitChars_toDigits (by decide) (by decide)]

theorem isDecimal_of_mem_toDigits {number : Nat} :
    ∀ digit ∈ Nat.toDigits 10 number, isDecimal digit = true := by
  rw [← natural?_isSome_iff, natural?_toDigits]
  rfl

end Text

theorem toList_toString (integer : Int) : (toString integer).toList =
    (if integer < 0 then ['-'] else []) ++ Nat.toDigits 10 integer.natAbs := by
  cases integer with
  | ofNat number =>
      have nonneg : ¬Int.ofNat number < 0 := Int.not_lt.mpr (Int.natCast_nonneg number)
      rw [if_neg nonneg, List.nil_append, ← Nat.toList_repr]
      rfl
  | negSucc number =>
      rw [if_pos (Int.negSucc_lt_zero number)]
      have digits : (toString (Int.negSucc number)) = "-" ++ (number + 1).repr := rfl
      rw [digits, String.toList_append, Nat.toList_repr]
      rfl

namespace Whole

/-- The least integer with more digits than are written. -/
theorem not_writable_power : writable (10 ^ digitLimit : Nat) = false := by
  -- the limit gets a name, so that its power of ten is not computed
  obtain ⟨limit, same⟩ : ∃ limit, digitLimit = limit := ⟨_, rfl⟩
  have positive : 0 < limit := same ▸ by decide
  rw [writable, same, decide_eq_false_iff_not, Int.natAbs_natCast,
    Nat.length_toDigits_le_iff (by decide) positive]
  exact Nat.lt_irrefl _

theorem exists_unwritable : ∃ integer, writable integer = false := ⟨_, not_writable_power⟩

end Whole

namespace Binary64

theorem decimalWidth_le {number : Nat} (small : number < overflowBound) :
    decimalWidth number ≤ 310 := by
  obtain ⟨width, same, bound⟩ : ∃ width, width = 310 ∧ overflowBound ≤ 10 ^ width := by
    refine ⟨310, rfl, ?_⟩
    decide +kernel
  rw [← same, decimalWidth, Nat.length_toDigits_le_iff (by decide) (by omega)]
  exact Nat.lt_of_lt_of_le small bound

theorem writable_of_lt {integer : Int} (small : integer.natAbs < overflowBound) :
    Whole.writable integer = true := by
  have limit : 310 ≤ Whole.digitLimit := by decide
  exact decide_eq_true (Nat.le_trans (decimalWidth_le small) limit)

theorem ofDecimal_natAbs (integer : Int) :
    ofDecimal (integer < 0) integer.natAbs 0 = ofInt integer := by
  unfold ofDecimal
  dsimp only
  split
  · rename_i nothing
    have zero : integer = 0 := by
      simp only [Bool.or_eq_true, beq_iff_eq, decide_eq_true_eq] at nothing
      omega
    rw [zero, ofInt_eq, Int.natAbs_zero, nearestUnits_of_short (short_of_le (Nat.zero_le _)),
      Nat.zero_mul]
  · split
    · rename_i long
      have large : overflowBound ≤ integer.natAbs := by
        by_contra small
        have width := decimalWidth_le (Nat.lt_of_not_le small)
        omega
      rw [ofInt_of_le large]
    · rw [ofInt]
      congr 1
      exact Nat.mul_one _

end Binary64

namespace Numeral

variable {chars : List Char}

theorem not_isNumeralChar_of_lowered {char : Char} (lowered : char.toLower = 'n') :
    isNumeralChar char = false := by
  have letter : char = 'n' ∨ char = 'N' := by
    unfold Char.toLower at lowered
    split at lowered
    · right
      have point : char.val + ('a'.val - 'A'.val) = 'N'.val + ('a'.val - 'A'.val) :=
        congrArg Char.val lowered
      exact Char.ext ((UInt32.add_left_inj _).mp point)
    · exact Or.inl lowered
  rcases letter with rfl | rfl <;> decide

theorem word?_of_numeral (numeral : ∀ char ∈ chars, isNumeralChar char = true) :
    word? chars = none := by
  have words : ∀ word ∈ ["inf", "infinity", "nan"], 'n' ∈ word.toList := by decide
  obtain ⟨sign, whole, _, _⟩ := takeSign_eq chars
  refine word?_eq_none fun word listed same => ?_
  have spelled := words word listed
  rw [← same] at spelled
  obtain ⟨char, member, lowered⟩ := List.mem_map.mp spelled
  have inside : char ∈ chars := by
    rw [whole]
    exact List.mem_append_right sign member
  have written := numeral char inside
  rw [not_isNumeralChar_of_lowered lowered] at written
  cases written

theorem float?_of_signedDecimal {number : Binary64} (read : signedDecimal? chars = some number) :
    float? chars = some number := by
  have isSome : (signedDecimal? chars).isSome = true := by rw [read, Option.isSome_some]
  have solid := solid_of_signedDecimal isSome
  have some : chars ≠ [] := by
    rintro rfl
    cases isSome
  have whole : trimOuter chars = chars := by
    have trimmed := trimOuter_eq [] [] some fun char member => by
      rw [isOuterBlank, (solid char member).1, Bool.false_and]
    simpa using trimmed
  have plain : '_' ∉ chars := fun member => (solid '_' member).2 rfl
  have noWord := word?_of_numeral (isNumeralChar_of_signedDecimal isSome)
  rw [float?, whole, joinDigits_eq plain]
  simp only [noWord, read]

theorem splitDigits_toDigits (number : Nat) :
    splitDigits (Nat.toDigits 10 number) = (Nat.toDigits 10 number, [], []) := by
  have split : splitDigits (mantissa (Nat.toDigits 10 number) false [] ++ []) =
      (Nat.toDigits 10 number, [], []) :=
    splitDigits_mantissa (fun _ => rfl) Text.isDecimal_of_mem_toDigits (by simp) nofun
  simpa [mantissa] using split

theorem takeSign_toString (integer : Int) : takeSign (toString integer).toList =
    (decide (integer < 0), Nat.toDigits 10 integer.natAbs) := by
  rw [toList_toString]
  by_cases negative : integer < 0
  · simp [negative, takeSign]
  · rw [if_neg negative, List.nil_append, decide_eq_false negative]
    refine takeSign_of_unsigned fun char head => not_sign_of_isDecimal ?_
    exact Text.isDecimal_of_mem_toDigits char (List.mem_of_mem_head? head)

theorem signedDecimal?_toString (integer : Int) :
    signedDecimal? (toString integer).toList = some (Binary64.ofInt integer) := by
  have digits : decimal? (Nat.toDigits 10 integer.natAbs) = some (integer.natAbs, 0) := by
    simp [decimal?, splitDigits_toDigits, Text.natural?_toDigits, Nat.toDigits_ne_nil]
  rw [signedDecimal?, takeSign_toString]
  dsimp only
  rw [digits, Option.map_some, Binary64.ofDecimal_natAbs]

theorem isNumeric_toString (integer : Int) : isNumeric (toString integer).toList = true := by
  have read : (signedDecimal? (toString integer).toList).isSome := by
    rw [signedDecimal?_toString, Option.isSome_some]
  have solid : (toString integer).toList.dropWhile Text.isBlank = (toString integer).toList := by
    rw [List.dropWhile_eq_self_iff]
    intro length
    exact Bool.eq_false_iff.mp (solid_of_signedDecimal read _ (List.getElem_mem length)).1
  rw [isNumeric, solid, takeSign_toString]
  simp [splitDigits_toDigits, Nat.toDigits_ne_nil, isNumericTail]

end Numeral

end RecordCheck
