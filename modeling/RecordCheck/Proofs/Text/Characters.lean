import RecordCheck.Text.Blank
import RecordCheck.Text.Digit
import RecordCheck.Text.Word

/-!
What blanks and digits are not, and what the ASCII letters and digits are. Facts about the
characters of a table are read off the table.
-/

namespace RecordCheck

namespace CharRanges

theorem mem_of_covers {ranges : CharRanges} {point : Nat} (inside : ranges.covers point = true) :
    ∃ range ∈ ranges, range.1 ≤ point ∧ point ≤ range.2 := by
  induction ranges with
  | nil => cases inside
  | cons range later ih =>
      obtain ⟨first, last⟩ := range
      rw [covers] at inside
      split at inside
      · cases inside
      · rename_i lower
        rcases Bool.or_eq_true_iff.mp inside with upper | inside
        · exact ⟨(first, last), List.mem_cons_self, by omega, by simpa using upper⟩
        · obtain ⟨range, member, bounds⟩ := ih inside
          exact ⟨range, List.mem_cons_of_mem _ member, bounds⟩

/-- What holds of every code point in a table holds of every character that the table covers. -/
theorem of_covers {ranges : CharRanges} (holds : Nat → Prop)
    (each : ∀ range ∈ ranges, ∀ step < range.2 + 1 - range.1, holds (range.1 + step)) {point : Nat}
    (inside : ranges.covers point = true) : holds point := by
  obtain ⟨range, member, lower, upper⟩ := mem_of_covers inside
  have found := each range member (point - range.1) (by omega)
  rwa [Nat.add_sub_cancel' lower] at found

end CharRanges

namespace Text

theorem not_isDecimal_of_isBlank {char : Char} (blank : isBlank char = true) :
    isDecimal char = false := by
  have table : ∀ range ∈ blankRanges, ∀ step < range.2 + 1 - range.1,
      digitValueFrom zeros (range.1 + step) = none := by decide
  have none := CharRanges.of_covers (digitValueFrom zeros · = none) table blank
  rw [isDecimal, digitValue?, none]
  rfl

theorem toLower_of_isBlank {char : Char} (blank : isBlank char = true) : char.toLower = char := by
  have table : ∀ range ∈ blankRanges, ∀ step < range.2 + 1 - range.1,
      range.1 + step < 65 ∨ 90 < range.1 + step := by decide
  have outside := CharRanges.of_covers (fun point => point < 65 ∨ 90 < point) table blank
  apply dif_neg
  rintro ⟨lower, upper⟩
  have lower : 65 ≤ char.toNat := lower
  have upper : char.toNat ≤ 90 := upper
  omega

/-- One of the separators U+001C to U+001F. -/
def isSeparator (char : Char) : Bool := 0x1C ≤ char.toNat && char.toNat ≤ 0x1F

theorem isBlank_of_isSeparator {char : Char} (separator : isSeparator char = true) :
    isBlank char = true := by
  simp only [isSeparator, Bool.and_eq_true, decide_eq_true_eq] at separator
  simp [isBlank, blankRanges, CharRanges.covers]
  omega

def isPlainWord (char : Char) : Bool :=
  ('a' ≤ char && char ≤ 'z') || ('A' ≤ char && char ≤ 'Z') || char.isDigit || char == '_'

theorem lt_of_le_plain {char last : Char} (below : char ≤ last) (plain : last.toNat < 128) :
    char.toNat < 128 :=
  Nat.lt_of_le_of_lt (UInt32.le_iff_toNat_le.mp below) plain

theorem plainWord_lt {char : Char} (plain : isPlainWord char = true) : char.toNat < 128 := by
  simp only [isPlainWord, Char.isDigit, Bool.or_eq_true, Bool.and_eq_true, decide_eq_true_eq,
    beq_iff_eq] at plain
  rcases plain with ((⟨_, small⟩ | ⟨_, capital⟩) | ⟨_, digit⟩) | rfl
  · exact lt_of_le_plain small (by decide)
  · exact lt_of_le_plain capital (by decide)
  · exact lt_of_le_plain digit (by decide)
  · decide

theorem plainWord_forall (holds : Char → Prop)
    (table : ∀ point < 128, isPlainWord (Char.ofNat point) = true → holds (Char.ofNat point))
    {char : Char} (plain : isPlainWord char = true) : holds char := by
  have found := table char.toNat (plainWord_lt plain)
  rw [Char.ofNat_toNat] at found
  exact found plain

theorem isWord_of_plain {char : Char} (plain : isPlainWord char = true) : isWord char = true :=
  plainWord_forall (isWord · = true) (by decide +kernel) plain

theorem isDigitSign_of_plain {char : Char} (plain : isPlainWord char = true) :
    isDigitSign char = char.isDigit :=
  plainWord_forall (fun char => isDigitSign char = char.isDigit) (by decide +kernel) plain

theorem digitValue?_of_isDigit {char : Char} (digit : char.isDigit = true) :
    digitValue? char = some (char.toNat - '0'.toNat) := by
  have plain : isPlainWord char = true := by simp [isPlainWord, digit]
  have value := plainWord_forall
    (fun char => char.isDigit = true → digitValue? char = some (char.toNat - '0'.toNat))
    (by decide +kernel) plain
  exact value digit

theorem isDecimal_of_isDigit {char : Char} (digit : char.isDigit = true) :
    isDecimal char = true := by
  rw [isDecimal, digitValue?_of_isDigit digit, Option.isSome_some]

theorem not_isBlank_of_isDecimal {char : Char} (decimal : isDecimal char = true) :
    isBlank char = false := by
  cases blank : isBlank char with
  | false => rfl
  | true =>
      rw [not_isDecimal_of_isBlank blank] at decimal
      cases decimal

/-- The ASCII digit of the same value, for a decimal digit of any script; other characters stay. -/
def asciiDigit (char : Char) : Char :=
  match digitValue? char with
  | some value => Char.ofNat ('0'.toNat + value)
  | none => char

theorem asciiDigit_of_not_isDecimal {char : Char} (other : isDecimal char = false) :
    asciiDigit char = char := by
  rw [isDecimal, Option.isSome_eq_false_iff, Option.isNone_iff_eq_none] at other
  rw [asciiDigit, other]

theorem asciiDigit_of_isDigit {char : Char} (digit : char.isDigit = true) :
    asciiDigit char = char := by
  have lower : '0'.toNat ≤ char.toNat := by
    simp only [Char.isDigit, Bool.and_eq_true, decide_eq_true_eq] at digit
    exact UInt32.le_iff_toNat_le.mp digit.1
  rw [asciiDigit, digitValue?_of_isDigit digit]
  dsimp only
  rw [Nat.add_sub_cancel' lower, Char.ofNat_toNat]

theorem isDigit_asciiDigit {char : Char} (decimal : isDecimal char = true) :
    (asciiDigit char).isDigit = true := by
  have table : ∀ value < 10, (Char.ofNat ('0'.toNat + value)).isDigit = true := by decide
  obtain ⟨value, found⟩ := Option.isSome_iff_exists.mp decimal
  rw [asciiDigit, found]
  exact table value (digitValue?_lt found)

theorem isBlank_asciiDigit (char : Char) : isBlank (asciiDigit char) = isBlank char := by
  cases decimal : isDecimal char with
  | true =>
      rw [not_isBlank_of_isDecimal decimal]
      exact not_isBlank_of_isDecimal (isDecimal_of_isDigit (isDigit_asciiDigit decimal))
  | false => rw [asciiDigit_of_not_isDecimal decimal]

end Text

end RecordCheck
