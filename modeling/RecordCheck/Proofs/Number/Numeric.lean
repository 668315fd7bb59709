import Mathlib.Data.List.TakeWhile
import RecordCheck.Number.Numeral
import RecordCheck.Proofs.Text.Characters
import RecordCheck.Proofs.Text.Cut

/-!
Which numeric texts are read as numbers. The shape of a numeric text allows any blanks around the
numeral; the reader drops all of them but the separators U+001C to U+001F. `float?_eq_none_iff` says
that these separators are all that can keep a numeric text from being read.
-/

namespace RecordCheck

namespace Text

theorem natural?_isSome_iff (digits : List Char) :
    (natural? digits).isSome ↔ ∀ digit ∈ digits, isDecimal digit = true := by
  have general : ∀ value, (naturalFrom value digits).isSome ↔
      ∀ digit ∈ digits, isDecimal digit = true := by
    induction digits with
    | nil => simp [naturalFrom]
    | cons digit rest ih =>
        intro value
        cases read : digitValue? digit with
        | none => simp [naturalFrom, isDecimal, read]
        | some worth => simp [naturalFrom, isDecimal, read, ih]
  exact general 0

theorem natural?_of_digits {token : List Char} (digits : ∀ char ∈ token, char.isDigit = true) :
    natural? token = some (Nat.ofDigitChars 10 token 0) := by
  have general : ∀ value, naturalFrom value token = some (Nat.ofDigitChars 10 token value) := by
    induction token with
    | nil => exact fun value => rfl
    | cons char rest ih =>
        intro value
        rw [naturalFrom, digitValue?_of_isDigit (digits char List.mem_cons_self),
          Nat.ofDigitChars_cons]
        exact ih (fun other member => digits other (List.mem_cons_of_mem _ member)) _
  exact general 0

end Text

namespace Numeral

def isNumeralChar (char : Char) : Bool :=
  Text.isDecimal char || char ∈ ['+', '-', '.', 'e', 'E']

theorem not_isNumeralChar_of_isBlank {char : Char} (blank : Text.isBlank char = true) :
    isNumeralChar char = false := by
  have digit := Text.not_isDecimal_of_isBlank blank
  have marks : ['+', '-', '.', 'e', 'E'].all (!Text.isBlank ·) = true := by decide
  have apart : char ∉ ['+', '-', '.', 'e', 'E'] := by
    intro member
    have solid := List.all_eq_true.mp marks char member
    rw [blank] at solid
    cases solid
  simp [isNumeralChar, digit, apart]

def mantissa (whole : List Char) (point : Bool) (fraction : List Char) : List Char :=
  whole ++ if point then '.' :: fraction else []

theorem isDecimal_of_mem_takeWhile {chars : List Char} :
    ∀ char ∈ chars.takeWhile Text.isDecimal, Text.isDecimal char = true :=
  List.all_eq_true.mp List.all_takeWhile

theorem splitDigits_eq {chars whole fraction rest : List Char}
    (split : splitDigits chars = (whole, fraction, rest)) :
    ∃ point, chars = mantissa whole point fraction ++ rest ∧ (point = false → fraction = []) ∧
      (∀ char ∈ whole, Text.isDecimal char = true) ∧
      ∀ char ∈ fraction, Text.isDecimal char = true := by
  have parts := List.takeWhile_append_dropWhile (p := Text.isDecimal) (l := chars)
  unfold splitDigits at split
  dsimp only at split
  split at split
  · rename_i later stop
    have inner := List.takeWhile_append_dropWhile (p := Text.isDecimal) (l := later)
    cases split
    refine ⟨true, ?_, nofun, isDecimal_of_mem_takeWhile, isDecimal_of_mem_takeWhile⟩
    rw [stop] at parts
    simp [mantissa, inner, parts]
  · cases split
    refine ⟨false, ?_, fun _ => rfl, isDecimal_of_mem_takeWhile, by simp⟩
    simp [mantissa, parts]

theorem splitDigits_mantissa {whole fraction rest : List Char} {point : Bool}
    (pointless : point = false → fraction = [])
    (wholeDecimal : ∀ char ∈ whole, Text.isDecimal char = true)
    (fractionDecimal : ∀ char ∈ fraction, Text.isDecimal char = true)
    (ends : ∀ char, rest.head? = some char → Text.isDecimal char = false ∧ char ≠ '.') :
    splitDigits (mantissa whole point fraction ++ rest) = (whole, fraction, rest) := by
  have stops := fun char head => (ends char head).1
  cases point with
  | true =>
      have point : ∀ char, ('.' :: (fraction ++ rest)).head? = some char →
          Text.isDecimal char = false := by
        intro char head
        cases head
        decide
      have first := Text.cut_at_stop Text.isDecimal wholeDecimal point
      have second := Text.cut_at_stop Text.isDecimal fractionDecimal stops
      simp [splitDigits, mantissa, first, second]
  | false =>
      have first := Text.cut_at_stop Text.isDecimal wholeDecimal stops
      rw [pointless rfl]
      simp only [splitDigits, mantissa, Bool.false_eq_true, if_false, List.append_nil, first]
      split
      · exact absurd rfl (ends '.' rfl).2
      · rfl

theorem takeSign_of_unsigned {chars : List Char}
    (unsigned : ∀ char, chars.head? = some char → char ∉ ['+', '-']) :
    takeSign chars = (false, chars) := by
  unfold takeSign
  split
  · exact absurd (by simp) (unsigned '-' rfl)
  · exact absurd (by simp) (unsigned '+' rfl)
  · rfl

theorem takeSign_eq (chars : List Char) :
    ∃ sign, chars = sign ++ (takeSign chars).2 ∧ (∀ char ∈ sign, char ∈ ['+', '-']) ∧
      ∀ rest, (∀ char, rest.head? = some char → char ∉ ['+', '-']) →
        takeSign (sign ++ rest) = ((takeSign chars).1, rest) := by
  unfold takeSign
  split
  · exact ⟨['-'], rfl, by simp, fun rest _ => rfl⟩
  · exact ⟨['+'], rfl, by simp, fun rest _ => rfl⟩
  · exact ⟨[], rfl, by simp, fun rest unsigned => takeSign_of_unsigned unsigned⟩

theorem isNumeralChar_of_sign {char : Char} (sign : char ∈ ['+', '-']) :
    isNumeralChar char = true := by
  simp only [List.mem_cons, List.not_mem_nil, or_false] at sign
  rcases sign with rfl | rfl <;> decide

theorem isNumeralChar_of_isDecimal {char : Char} (decimal : Text.isDecimal char = true) :
    isNumeralChar char = true := by
  rw [isNumeralChar, decimal, Bool.true_or]

theorem exponent?_isSome_iff (chars : List Char) : (exponent? chars).isSome ↔
    (takeSign chars).2 ≠ [] ∧ ∀ digit ∈ (takeSign chars).2, Text.isDecimal digit = true := by
  unfold exponent?
  split
  rename_i negative digits signed
  rw [signed, ← Text.natural?_isSome_iff]
  cases digits with
  | nil => simp
  | cons digit rest => cases Text.natural? (digit :: rest) <;> simp

theorem isNumeralChar_of_exponent {chars : List Char} (read : (exponent? chars).isSome) :
    ∀ char ∈ chars, isNumeralChar char = true := by
  obtain ⟨sign, whole, signs, _⟩ := takeSign_eq chars
  intro char member
  rw [whole] at member
  rcases List.mem_append.mp member with inSign | inDigits
  · exact isNumeralChar_of_sign (signs char inSign)
  · exact isNumeralChar_of_isDecimal (((exponent?_isSome_iff chars).mp read).2 char inDigits)

theorem isNumeralChar_of_mantissa {whole fraction : List Char} {point : Bool}
    (wholeDecimal : ∀ char ∈ whole, Text.isDecimal char = true)
    (fractionDecimal : ∀ char ∈ fraction, Text.isDecimal char = true) :
    ∀ char ∈ mantissa whole point fraction, isNumeralChar char = true := by
  intro char member
  rcases List.mem_append.mp member with inWhole | inFraction
  · exact isNumeralChar_of_isDecimal (wholeDecimal char inWhole)
  · cases point with
    | false => cases inFraction
    | true =>
        rcases List.mem_cons.mp inFraction with rfl | inFraction
        · decide
        · exact isNumeralChar_of_isDecimal (fractionDecimal char inFraction)

/-- What may follow the digits: nothing, or an exponent that can be read. -/
def Exponent : List Char → Prop
  | [] => True
  | mark :: digits => (mark = 'e' ∨ mark = 'E') ∧ (exponent? digits).isSome

theorem decimal?_isSome_iff {chars whole fraction rest : List Char}
    (split : splitDigits chars = (whole, fraction, rest)) :
    (decimal? chars).isSome ↔ ¬(whole = [] ∧ fraction = []) ∧ Exponent rest := by
  obtain ⟨point, _, _, wholeDecimal, fractionDecimal⟩ := splitDigits_eq split
  have digits : (Text.natural? (whole ++ fraction)).isSome := by
    rw [Text.natural?_isSome_iff]
    intro digit member
    rcases List.mem_append.mp member with inWhole | inFraction
    · exact wholeDecimal digit inWhole
    · exact fractionDecimal digit inFraction
  obtain ⟨significand, read⟩ := Option.isSome_iff_exists.mp digits
  have empty : (whole.isEmpty && fraction.isEmpty) = true ↔ whole = [] ∧ fraction = [] := by simp
  unfold decimal? Exponent
  simp only [split, read]
  by_cases nothing : whole = [] ∧ fraction = []
  · simp [nothing]
  · rw [if_neg (fun both => nothing (empty.mp both))]
    cases rest with
    | nil => simp [nothing]
    | cons mark digits =>
        by_cases marked : mark = 'e' ∨ mark = 'E'
        · simp [nothing, marked]
        · simp [nothing, marked]

theorem isNumeralChar_of_decimal {chars : List Char} (read : (decimal? chars).isSome) :
    ∀ char ∈ chars, isNumeralChar char = true := by
  rcases split : splitDigits chars with ⟨whole, fraction, rest⟩
  obtain ⟨point, parts, _, wholeDecimal, fractionDecimal⟩ := splitDigits_eq split
  intro char member
  rw [parts] at member
  rcases List.mem_append.mp member with inMantissa | inRest
  · exact isNumeralChar_of_mantissa wholeDecimal fractionDecimal char inMantissa
  · have follows := ((decimal?_isSome_iff split).mp read).2
    cases rest with
    | nil => cases inRest
    | cons mark digits =>
        obtain ⟨marked, exponent⟩ := follows
        rcases List.mem_cons.mp inRest with rfl | inDigits
        · rcases marked with rfl | rfl <;> decide
        · exact isNumeralChar_of_exponent exponent char inDigits

theorem isNumeralChar_of_signedDecimal {chars : List Char} (read : (signedDecimal? chars).isSome) :
    ∀ char ∈ chars, isNumeralChar char = true := by
  obtain ⟨sign, whole, signs, _⟩ := takeSign_eq chars
  have magnitude : (decimal? (takeSign chars).2).isSome := by
    unfold signedDecimal? at read
    split at read
    rename_i negative digits signed
    rw [signed]
    simpa using read
  intro char member
  rw [whole] at member
  rcases List.mem_append.mp member with inSign | inDigits
  · exact isNumeralChar_of_sign (signs char inSign)
  · exact isNumeralChar_of_decimal magnitude char inDigits

theorem not_sign_of_isDecimal {char : Char} (decimal : Text.isDecimal char = true) :
    char ∉ ['+', '-'] := by
  intro sign
  simp only [List.mem_cons, List.not_mem_nil, or_false] at sign
  rcases sign with rfl | rfl <;> revert decimal <;> decide

theorem isNumericTail_split {tail : List Char} (numeric : isNumericTail tail = true) :
    ∃ exponent blanks, tail = exponent ++ blanks ∧ Exponent exponent ∧
      Text.allBlank blanks = true := by
  cases tail with
  | nil => exact ⟨[], [], rfl, trivial, rfl⟩
  | cons mark rest =>
      rw [isNumericTail] at numeric
      split at numeric
      · rename_i marked
        obtain ⟨sign, whole, _, signed⟩ := takeSign_eq rest
        generalize (takeSign rest).2 = digits at whole numeric
        have parts := List.takeWhile_append_dropWhile (p := Text.isDecimal) (l := digits)
        have read := signed (digits.takeWhile Text.isDecimal) fun char head =>
          not_sign_of_isDecimal (isDecimal_of_mem_takeWhile char (List.mem_of_mem_head? head))
        simp only [Bool.and_eq_true, Bool.not_eq_true', List.isEmpty_eq_false_iff] at numeric
        refine ⟨mark :: (sign ++ digits.takeWhile Text.isDecimal),
          digits.dropWhile Text.isDecimal, ?_, ⟨by simpa using marked, ?_⟩, numeric.2⟩
        · rw [List.cons_append, List.append_assoc, parts, ← whole]
        · rw [exponent?_isSome_iff, read]
          exact ⟨numeric.1, isDecimal_of_mem_takeWhile⟩
      · exact ⟨[], mark :: rest, rfl, trivial, numeric⟩

theorem mantissa_unsigned {whole fraction rest : List Char} {point : Bool}
    (digits : ¬(whole = [] ∧ fraction = [])) (pointless : point = false → fraction = [])
    (wholeDecimal : ∀ char ∈ whole, Text.isDecimal char = true) :
    ∀ char, (mantissa whole point fraction ++ rest).head? = some char → char ∉ ['+', '-'] := by
  intro char head
  cases whole with
  | cons first later =>
      cases head
      exact not_sign_of_isDecimal (wholeDecimal char List.mem_cons_self)
  | nil =>
      cases point with
      | false => exact absurd ⟨rfl, pointless rfl⟩ digits
      | true =>
          cases head
          decide

theorem exponent_stops {exponent : List Char} (read : Exponent exponent) :
    ∀ char, exponent.head? = some char → Text.isDecimal char = false ∧ char ≠ '.' := by
  intro char head
  cases exponent with
  | nil => cases head
  | cons mark digits =>
      cases head
      rcases read.1 with rfl | rfl <;> decide

/-- A numeric text is a numeral that can be read, with blanks on both sides. -/
theorem isNumeric_split {chars : List Char} (numeric : isNumeric chars = true) :
    ∃ lead numeral trail, chars = lead ++ numeral ++ trail ∧ Text.allBlank lead = true ∧
      Text.allBlank trail = true ∧ (signedDecimal? numeral).isSome := by
  have lead := List.takeWhile_append_dropWhile (p := Text.isBlank) (l := chars)
  unfold isNumeric at numeric
  generalize chars.dropWhile Text.isBlank = body at lead numeric
  obtain ⟨sign, whole, _, signed⟩ := takeSign_eq body
  dsimp only at numeric
  generalize (takeSign body).2 = magnitude at whole numeric
  rcases split : splitDigits magnitude with ⟨digits, fraction, tail⟩
  simp only [split, Bool.and_eq_true, Bool.not_eq_true'] at numeric
  obtain ⟨point, parts, pointless, wholeDecimal, fractionDecimal⟩ := splitDigits_eq split
  obtain ⟨exponent, trail, rfl, read, blank⟩ := isNumericTail_split numeric.2
  have some : ¬(digits = [] ∧ fraction = []) := by
    rintro ⟨rfl, rfl⟩
    cases numeric.1
  have again := splitDigits_mantissa pointless wholeDecimal fractionDecimal (exponent_stops read)
  have signless := signed (mantissa digits point fraction ++ exponent)
    (mantissa_unsigned some pointless wholeDecimal)
  refine ⟨chars.takeWhile Text.isBlank, sign ++ (mantissa digits point fraction ++ exponent),
    trail, ?_, List.all_takeWhile, blank, ?_⟩
  · rw [whole, parts] at lead
    simp only [List.append_assoc]
    exact lead.symm
  · have readable := (decimal?_isSome_iff again).mpr ⟨some, read⟩
    rw [signedDecimal?, signless]
    simpa using readable

theorem joinDigits_eq {chars : List Char} (plain : '_' ∉ chars) :
    ∀ afterDigit, joinDigits afterDigit chars = some chars := by
  induction chars with
  | nil => intro afterDigit; rfl
  | cons char rest ih =>
      intro afterDigit
      simp only [List.mem_cons, not_or] at plain
      unfold joinDigits
      split
      · rename_i same
        cases same
      · rename_i same
        cases same
        exact absurd rfl plain.1
      · rename_i same
        cases same
        rw [if_neg (Ne.symm plain.1), ih plain.2]
        rfl

theorem dropWhile_append_solid {test : Char → Bool} {left right : List Char}
    (solid : ∀ char, right.head? = some char → test char = false) :
    (left ++ right).dropWhile test = left.dropWhile test ++ right := by
  induction left with
  | nil =>
      cases right with
      | nil => rfl
      | cons char rest => simp [solid char rfl]
  | cons char rest ih =>
      by_cases dropped : test char = true
      · simp [dropped, ih]
      · simp [dropped]

theorem mem_of_head_append {first rest : List Char} (some : first ≠ []) {char : Char}
    (head : (first ++ rest).head? = .some char) : char ∈ first := by
  cases first with
  | nil => exact absurd rfl some
  | cons own later =>
      cases head
      exact List.mem_cons_self

theorem trimOuter_eq (lead : List Char) {numeral : List Char} (trail : List Char)
    (some : numeral ≠ [])
    (solid : ∀ char ∈ numeral, isOuterBlank char = false) :
    trimOuter (lead ++ numeral ++ trail) = lead.dropWhile isOuterBlank ++ numeral ++
      (trail.reverse.dropWhile isOuterBlank).reverse := by
  have front : (lead ++ (numeral ++ trail)).dropWhile isOuterBlank =
      lead.dropWhile isOuterBlank ++ (numeral ++ trail) :=
    dropWhile_append_solid fun char head => solid char (mem_of_head_append some head)
  have back : ∀ left : List Char,
      (trail.reverse ++ (numeral.reverse ++ left)).dropWhile isOuterBlank =
        trail.reverse.dropWhile isOuterBlank ++ (numeral.reverse ++ left) :=
    fun left => dropWhile_append_solid fun char head =>
      solid char (List.mem_reverse.mp (mem_of_head_append (by simpa using some) head))
  rw [trimOuter, List.append_assoc, front, List.reverse_append, List.reverse_append,
    List.append_assoc, back]
  simp

theorem dropWhile_outer_eq_nil_iff {blanks : List Char} (blank : Text.allBlank blanks = true) :
    blanks.dropWhile isOuterBlank = [] ↔ ∀ char ∈ blanks, Text.isSeparator char = false := by
  rw [List.dropWhile_eq_nil_iff]
  refine forall₂_congr fun char member => ?_
  have same : isOuterBlank char = (Text.isBlank char && !Text.isSeparator char) := rfl
  rw [same, List.all_eq_true.mp blank char member]
  simp

theorem word?_eq_none {chars : List Char} (apart : ∀ word ∈ ["inf", "infinity", "nan"],
    (takeSign chars).2.map Char.toLower ≠ word.toList) : word? chars = none := by
  have unlike : ∀ word ∈ ["inf", "infinity", "nan"],
      String.ofList ((takeSign chars).2.map Char.toLower) ≠ word := by
    intro word listed same
    refine apart word listed ?_
    rw [← same, String.toList_ofList]
  unfold word?
  simp [unlike "inf" (by simp), unlike "infinity" (by simp), unlike "nan" (by simp)]

theorem word?_of_blank {chars : List Char} {char : Char} (member : char ∈ chars)
    (blank : Text.isBlank char = true) : word? chars = none := by
  have words : ∀ word ∈ ["inf", "infinity", "nan"],
      word.toList.all (!Text.isBlank ·) = true := by decide
  obtain ⟨sign, whole, signs, _⟩ := takeSign_eq chars
  have inside : char ∈ (takeSign chars).2 := by
    rw [whole] at member
    rcases List.mem_append.mp member with inSign | inLetters
    · have numeral := isNumeralChar_of_sign (signs char inSign)
      rw [not_isNumeralChar_of_isBlank blank] at numeral
      cases numeral
    · exact inLetters
  refine word?_eq_none fun word listed same => ?_
  have spelled : char ∈ word.toList := by
    rw [← same]
    exact List.mem_map.mpr ⟨char, inside, Text.toLower_of_isBlank blank⟩
  have solid := List.all_eq_true.mp (words word listed) char spelled
  rw [blank] at solid
  cases solid

theorem solid_of_signedDecimal {chars : List Char} (read : (signedDecimal? chars).isSome) :
    ∀ char ∈ chars, Text.isBlank char = false ∧ char ≠ '_' := by
  intro char member
  have numeral := isNumeralChar_of_signedDecimal read char member
  constructor
  · rw [Bool.eq_false_iff]
    intro blank
    rw [not_isNumeralChar_of_isBlank blank] at numeral
    cases numeral
  · rintro rfl
    revert numeral
    decide

theorem float?_of_blank {chars : List Char} (plain : '_' ∉ trimOuter chars) {char : Char}
    (member : char ∈ trimOuter chars) (blank : Text.isBlank char = true) : float? chars = none := by
  have unread : signedDecimal? (trimOuter chars) = none := by
    rw [← Option.not_isSome_iff_eq_none]
    intro read
    have solid := (solid_of_signedDecimal read char member).1
    rw [blank] at solid
    cases solid
  simp [float?, joinDigits_eq plain, word?_of_blank member blank, unread]

theorem float?_of_numeral {chars : List Char} (plain : '_' ∉ trimOuter chars)
    (read : (signedDecimal? (trimOuter chars)).isSome) : float? chars ≠ none := by
  obtain ⟨number, read⟩ := Option.isSome_iff_exists.mp read
  simp only [float?, joinDigits_eq plain, read]
  cases word? (trimOuter chars) <;> simp

/-- Trimming a numeric text leaves a numeral that can be read, and blanks around it unless there is
no separator. -/
theorem trimOuter_numeric {chars : List Char} (numeric : isNumeric chars = true) :
    ∃ before numeral after, trimOuter chars = before ++ numeral ++ after ∧
      (∀ char ∈ before ++ after, Text.isBlank char = true) ∧ (signedDecimal? numeral).isSome ∧
      (before ++ after = [] ↔ ∀ char ∈ chars, Text.isSeparator char = false) := by
  obtain ⟨lead, numeral, trail, rfl, leadBlank, trailBlank, read⟩ := isNumeric_split numeric
  have solid := solid_of_signedDecimal read
  have some : numeral ≠ [] := by
    rintro rfl
    cases read
  have trimmed := trimOuter_eq lead trail some fun char member => by
    rw [isOuterBlank, (solid char member).1, Bool.false_and]
  have trailReversed : Text.allBlank trail.reverse = true := by
    simpa [Text.allBlank] using trailBlank
  have leadInside := (List.dropWhile_suffix isOuterBlank (l := lead)).subset
  have trailInside := (List.dropWhile_suffix isOuterBlank (l := trail.reverse)).subset
  refine ⟨_, numeral, _, trimmed, ?_, read, ?_⟩
  · intro char member
    rcases List.mem_append.mp member with inLead | inTrail
    · exact List.all_eq_true.mp leadBlank char (leadInside inLead)
    · exact List.all_eq_true.mp trailReversed char (trailInside (List.mem_reverse.mp inTrail))
  · -- separators are blanks, and a numeral holds no blank: they all stand around it
    have none : ∀ char ∈ numeral, Text.isSeparator char = false := by
      intro char member
      rw [Bool.eq_false_iff]
      intro separator
      have blank := (solid char member).1
      rw [Text.isBlank_of_isSeparator separator] at blank
      cases blank
    rw [List.append_eq_nil_iff, List.reverse_eq_nil_iff, dropWhile_outer_eq_nil_iff leadBlank,
      dropWhile_outer_eq_nil_iff trailReversed]
    simp only [List.mem_append, List.mem_reverse]
    constructor
    · rintro ⟨leads, trails⟩ char ((inLead | inNumeral) | inTrail)
      · exact leads char inLead
      · exact none char inNumeral
      · exact trails char inTrail
    · intro all
      exact ⟨fun char member => all char (Or.inl (Or.inl member)),
        fun char member => all char (Or.inr member)⟩

/-- A numeric text cannot be read as a number exactly when there is a separator among its blanks. -/
theorem float?_eq_none_iff {chars : List Char} (numeric : isNumeric chars = true) :
    float? chars = none ↔ ∃ char ∈ chars, Text.isSeparator char = true := by
  obtain ⟨before, numeral, after, trimmed, blank, read, clean⟩ := trimOuter_numeric numeric
  have plain : '_' ∉ trimOuter chars := by
    rw [trimmed]
    intro member
    rcases List.mem_append.mp member with member | inAfter
    · rcases List.mem_append.mp member with inBefore | inNumeral
      · exact absurd (blank '_' (List.mem_append_left _ inBefore)) (by decide)
      · exact (solid_of_signedDecimal read '_' inNumeral).2 rfl
    · exact absurd (blank '_' (List.mem_append_right _ inAfter)) (by decide)
  -- a blank that trimming leaves makes the text unreadable; without one the numeral is read
  cases left : before ++ after with
  | nil =>
      obtain ⟨rfl, rfl⟩ := List.append_eq_nil_iff.mp left
      have whole : trimOuter chars = numeral := by simpa using trimmed
      have none := clean.mp left
      refine iff_of_false (float?_of_numeral plain (whole ▸ read)) ?_
      rintro ⟨char, member, separator⟩
      rw [none char member] at separator
      cases separator
  | cons char rest =>
      have member : char ∈ before ++ after := left ▸ List.mem_cons_self
      have inside : char ∈ trimOuter chars := by
        rw [trimmed]
        rcases List.mem_append.mp member with inBefore | inAfter
        · exact List.mem_append_left _ (List.mem_append_left _ inBefore)
        · exact List.mem_append_right _ inAfter
      refine iff_of_true (float?_of_blank plain inside (blank char member)) ?_
      by_contra none
      have empty := clean.mpr fun char member => by
        rw [Bool.eq_false_iff]
        exact fun separator => none ⟨char, member, separator⟩
      rw [left] at empty
      cases empty

end Numeral

end RecordCheck
