import RecordCheck.Proofs.Rule.Message
import RecordCheck.Proofs.Text.Characters
import RecordCheck.Proofs.Text.Classes
import RecordCheck.Proofs.Text.Cut
import RecordCheck.Rule.Standard

/-!
The rules for telephone numbers. Main statement: apart from blanks they accept digits and the marks
plus, hyphen and parentheses only, but digits of any script, and with a number also what it is in
ASCII digits.
-/

namespace RecordCheck

namespace Phone

open Text (Pattern)

/-- The numbering plans that have a rule. -/
inductive Plan
  | unitedStates
  | greatBritain

/-- The marks between the digits of a telephone number. -/
def isMark (char : Char) : Bool := ['+', '-', '(', ')'].contains char

def isDialling (char : Char) : Bool := Text.isDecimal char || isMark char

def isPlain (char : Char) : Bool := char.isDigit || isMark char

/-- Every character that is no blank passes a test. -/
def SolidAll (test : Char → Bool) (chars : List Char) : Prop :=
  ∀ char ∈ chars, Text.isBlank char = false → test char = true

def inAscii (text : String) : String := String.ofList (text.toList.map Text.asciiDigit)

theorem isDecimal_of_isMark {char : Char} (mark : isMark char = true) :
    Text.isDecimal char = false := by
  have table : ['+', '-', '(', ')'].all (fun char => !Text.isDecimal char) = true := by decide
  simpa using List.all_eq_true.mp table char (List.contains_iff_mem.mp mark)

theorem asciiDigit_of_isPlain {char : Char} (plain : isPlain char = true) :
    Text.asciiDigit char = char := by
  rcases Bool.or_eq_true_iff.mp plain with digit | mark
  · exact Text.asciiDigit_of_isDigit digit
  · exact Text.asciiDigit_of_not_isDecimal (isDecimal_of_isMark mark)

theorem isPlain_asciiDigit {char : Char} (dialling : isDialling char = true) :
    isPlain (Text.asciiDigit char) = true := by
  rcases Bool.or_eq_true_iff.mp dialling with decimal | mark
  · simp [isPlain, Text.isDigit_asciiDigit decimal]
  · rw [Text.asciiDigit_of_not_isDecimal (isDecimal_of_isMark mark)]
    simp [isPlain, mark]

theorem isDialling_of_isPlain {char : Char} (plain : isPlain char = true) :
    isDialling char = true := by
  rcases Bool.or_eq_true_iff.mp plain with digit | mark
  · simp [isDialling, Text.isDecimal_of_isDigit digit]
  · simp [isDialling, mark]

theorem solidAll_isPlain_iff {text : String} (dialled : SolidAll isDialling text.toList) :
    SolidAll isPlain text.toList ↔ inAscii text = text := by
  have fixed : inAscii text = text ↔ ∀ char ∈ text.toList, Text.asciiDigit char = char := by
    rw [inAscii, ← String.toList_inj, String.toList_ofList]
    simpa using List.map_inj_left (l := text.toList) (f := Text.asciiDigit) (g := id)
  rw [fixed]
  refine forall₂_congr fun char member => ?_
  cases blank : Text.isBlank char with
  | true =>
      have stays := Text.asciiDigit_of_not_isDecimal (Text.not_isDecimal_of_isBlank blank)
      simp [stays]
  | false =>
      constructor
      · intro plain
        exact asciiDigit_of_isPlain (plain rfl)
      · intro same _
        rw [← same]
        exact isPlain_asciiDigit (dialled char member blank)

theorem solidAll_isPlain_inAscii {text : String} (dialled : SolidAll isDialling text.toList) :
    SolidAll isPlain (inAscii text).toList := by
  intro char member solid
  rw [inAscii, String.toList_ofList] at member
  obtain ⟨original, inside, rfl⟩ := List.mem_map.mp member
  rw [Text.isBlank_asciiDigit] at solid
  exact isPlain_asciiDigit (dialled original inside solid)

/-- What the character classes of the patterns have in common: they accept nothing but blanks and
dialling characters, and with a digit of some script also the ASCII digit of its value. -/
structure DialClass (accepts : Char → Bool) : Prop where
  dialling : ∀ char, accepts char = true → Text.isBlank char = false → isDialling char = true
  ascii : ∀ char, accepts char = true → accepts (Text.asciiDigit char) = true

theorem eachClass_digit : digit.EachClass DialClass where
  dialling char decimal _ := by simp [isDialling, decimal]
  ascii _ decimal := Text.isDecimal_of_isDigit (Text.isDigit_asciiDigit decimal)

theorem eachClass_digits (count : Nat) : (digits count).EachClass DialClass :=
  Pattern.EachClass.times eachClass_digit count

theorem eachClass_digit_upTo (count : Nat) : (digit.upTo count).EachClass DialClass :=
  Pattern.EachClass.upTo eachClass_digit count

theorem eachClass_among {allowed : List Char} (plain : allowed.all isPlain = true) :
    (among allowed).EachClass DialClass where
  dialling char accepted _ :=
    isDialling_of_isPlain (List.all_eq_true.mp plain char (List.contains_iff_mem.mp accepted))
  ascii char accepted := by
    have member := List.contains_iff_mem.mp accepted
    rwa [asciiDigit_of_isPlain (List.all_eq_true.mp plain char member)]

theorem eachClass_char {expected : Char} (plain : isPlain expected = true) :
    (Pattern.char expected).EachClass DialClass where
  dialling _ accepted _ := eq_of_beq accepted ▸ isDialling_of_isPlain plain
  ascii _ accepted := by
    rw [eq_of_beq accepted, asciiDigit_of_isPlain plain, beq_self_eq_true]

theorem eachClass_gap : gap.EachClass DialClass := by
  refine Pattern.eachClass_maybe.mpr ⟨?_, ?_⟩
  · intro char accepted solid
    rw [solid, Bool.false_or] at accepted
    exact eq_of_beq accepted ▸ isDialling_of_isPlain rfl
  · intro char accepted
    rcases Bool.or_eq_true_iff.mp accepted with blank | hyphen
    · rw [Text.isBlank_asciiDigit, blank, Bool.true_or]
    · rw [eq_of_beq hyphen]
      decide

theorem eachClass_unitedStates : unitedStates.EachClass DialClass := by
  simp (disch := decide) [unitedStates, area, leading, hyphen, Pattern.eachClass_all,
    Pattern.eachClass_maybe, Pattern.EachClass, eachClass_digit, eachClass_digits, eachClass_char,
    eachClass_among]

theorem eachClass_greatBritain : greatBritain.EachClass DialClass := by
  simp (disch := decide) [greatBritain, country, access, areaAndLine, opening, closing,
    Pattern.eachClass_all, Pattern.eachClass_anyOf, Pattern.eachClass_maybe, Pattern.EachClass,
    eachClass_digits, eachClass_digit_upTo, eachClass_char, eachClass_gap]

namespace Plan

def pattern : Plan → Pattern
  | unitedStates => Phone.unitedStates
  | greatBritain => Phone.greatBritain

def squeeze : Plan → List Char → List Char
  | unitedStates, chars => chars.filter fun char => !Text.isBlank char
  | greatBritain, chars => Text.trim chars

def accepts (plan : Plan) (chars : List Char) : Bool := plan.pattern.accepts (plan.squeeze chars)

theorem eachClass_pattern (plan : Plan) : plan.pattern.EachClass DialClass :=
  match plan with
  | unitedStates => eachClass_unitedStates
  | greatBritain => eachClass_greatBritain

theorem mem_squeeze_of_solid (plan : Plan) {chars : List Char} {char : Char}
    (member : char ∈ chars) (solid : Text.isBlank char = false) : char ∈ plan.squeeze chars :=
  match plan with
  | unitedStates => List.mem_filter.mpr ⟨member, by rw [solid]; rfl⟩
  | greatBritain => Text.mem_trim_of_solid member solid

theorem squeeze_of_solid (plan : Plan) {chars : List Char}
    (solid : ∀ char ∈ chars, Text.isBlank char = false) : plan.squeeze chars = chars :=
  match plan with
  | unitedStates => List.filter_eq_self.mpr fun char member => by rw [solid char member]; rfl
  | greatBritain => Text.trim_of_solid solid

theorem squeeze_map_asciiDigit (plan : Plan) (chars : List Char) :
    plan.squeeze (chars.map Text.asciiDigit) = (plan.squeeze chars).map Text.asciiDigit := by
  cases plan with
  | unitedStates =>
      have test : (fun char => !Text.isBlank char) ∘ Text.asciiDigit =
          fun char => !Text.isBlank char :=
        funext fun char => congrArg _ (Text.isBlank_asciiDigit char)
      rw [squeeze, squeeze, List.filter_map, test]
  | greatBritain => exact Text.trim_map Text.isBlank_asciiDigit chars

variable {plan : Plan} {chars : List Char}

theorem dialled_of_accepts (accepted : plan.accepts chars = true) : SolidAll isDialling chars := by
  have matched := (Pattern.accepts_iff _ _).mp accepted
  have each := plan.eachClass_pattern.mono fun _ both => both.dialling
  intro char member solid
  exact matched.forall_mem each char (plan.mem_squeeze_of_solid member solid) solid

theorem accepts_map_asciiDigit (accepted : plan.accepts chars = true) :
    plan.accepts (chars.map Text.asciiDigit) = true := by
  have matched := (Pattern.accepts_iff _ _).mp accepted
  have each := plan.eachClass_pattern.mono fun _ both => both.ascii
  rw [accepts, squeeze_map_asciiDigit]
  exact (Pattern.accepts_iff _ _).mpr (matched.map each)

def marked : Plan → List Char
  | unitedStates => "+1-(202) 555-0173".toList
  | greatBritain => "+44 (0)20-7946-0018".toList

def begun : Plan → List Char
  | unitedStates => "202555".toList
  | greatBritain => "0207946".toList

theorem matches_begun (plan : Plan) {line : List Char}
    (digits : Pattern.Matches (digits 4) line) :
    Pattern.Matches plan.pattern (plan.begun ++ line) := by
  have last : Pattern.Matches (.all [Phone.digits 4]) line := by
    rw [← List.append_nil line]
    exact .seq digits .empty
  cases plan with
  | unitedStates =>
      have front : Pattern.Matches (.all [.maybe (.all [.maybe (.char '+'), .char '1', hyphen]),
          .either (.all [.char '(', area, .char ')']) area, hyphen, leading, Phone.digits 2,
          hyphen]) "202555".toList := (Pattern.accepts_iff _ _).mp (by decide +kernel)
      exact front.all_append last
  | greatBritain =>
      have trunk : Pattern.Matches (.either country (.seq opening (.char '0'))) "0".toList :=
        (Pattern.accepts_iff _ _).mp (by decide +kernel)
      have front : Pattern.Matches (.all [Phone.digits 2, closing, gap, Phone.digits 4, gap])
          "207946".toList := (Pattern.accepts_iff _ _).mp (by decide +kernel)
      have back : Pattern.Matches areaAndLine ("207946".toList ++ line) :=
        .left (front.all_append last)
      have whole := Pattern.Matches.seq trunk back
      exact whole

theorem exists_accepted_of_isDialling (plan : Plan) {char : Char}
    (dialling : isDialling char = true) :
    ∃ chars, char ∈ chars ∧ plan.accepts chars = true := by
  rcases Bool.or_eq_true_iff.mp dialling with decimal | mark
  · have digits : ∀ digit ∈ ['0', '0', '0', char], Text.isDecimal digit = true := by
      simpa [decimal] using (show Text.isDecimal '0' = true by decide)
    have solid : ∀ other ∈ plan.begun ++ ['0', '0', '0', char], Text.isBlank other = false := by
      refine List.forall_mem_append.mpr ⟨?_, fun digit member => ?_⟩
      · have table : plan.begun.all (fun char => !Text.isBlank char) = true := by
          cases plan <;> decide
        simpa using table
      · exact Text.not_isBlank_of_isDecimal (digits digit member)
    refine ⟨plan.begun ++ ['0', '0', '0', char], by simp, ?_⟩
    rw [accepts, plan.squeeze_of_solid solid]
    exact (Pattern.accepts_iff _ _).mpr (plan.matches_begun (Pattern.matches_times digits))
  · refine ⟨plan.marked, ?_, by cases plan <;> decide +kernel⟩
    have table : ['+', '-', '(', ')'].all (plan.marked.contains ·) = true := by
      cases plan <;> decide
    simpa using List.all_eq_true.mp table char (List.contains_iff_mem.mp mark)

end Plan

end Phone

namespace Standard

open Phone (Plan SolidAll inAscii isDialling isPlain)

def phoneRule : Plan → Rule
  | .unitedStates => .make "phoneUS" phoneUS "Value is not a valid US phone number" none false
  | .greatBritain => .make "phoneGB" phoneGB "Value is not a valid GB phone number" none false

def phoneComplaint : Plan → Outcome
  | .unitedStates =>
      .invalid "VALIDATION_FAILED_PHONE_US" "Value is not a valid US phone number"
  | .greatBritain =>
      .invalid "VALIDATION_FAILED_PHONE_GB" "Value is not a valid GB phone number"

theorem verdict_phone (plan : Plan) (text : String) (arguments : List Argument) (record : Value) :
    ∃ outcome, registry.evaluate (phoneRule plan).name (.text text) arguments record =
        .ok outcome ∧
      (outcome ≠ .valid → outcome = phoneComplaint plan) ∧
      (outcome = .valid ↔ plan.accepts text.toList = true) := by
  have known : registry.find? (phoneRule plan).name = some (phoneRule plan) := by
    cases plan <;> rfl
  have free : '\x7b' ∉ (phoneRule plan).template.toList := by cases plan <;> decide
  have asked : (phoneRule plan).predicate (.text text) arguments record =
      .ok (plan.accepts text.toList) := by cases plan <;> rfl
  have complaint : Outcome.invalid (phoneRule plan).errorId (phoneRule plan).template =
      phoneComplaint plan := by cases plan <;> rfl
  obtain ⟨outcome, answered, complained, valid⟩ := Registry.verdict_of_plain known free asked
  rw [complaint] at complained
  exact ⟨outcome, answered, complained, valid⟩

theorem evaluate_phone_of_accepts {plan : Plan} {text : String}
    (accepted : plan.accepts text.toList = true) (arguments : List Argument) (record : Value) :
    registry.evaluate (phoneRule plan).name (.text text) arguments record = .ok .valid := by
  obtain ⟨outcome, answered, _, valid⟩ := verdict_phone plan text arguments record
  rw [answered, valid.mpr accepted]

/-- A rule for telephone numbers answers about every text. A text that it accepts consists of
blanks, of plus signs, hyphens and parentheses, and of decimal digits of any script; in ASCII digits
it is accepted as well, and it is plain just if it is written in them. Every digit of every script
and every mark does occur in an accepted text. -/
theorem phones_have_digits_of_any_script (plan : Plan) (arguments : List Argument)
    (record : Value) :
    (∀ text : String, ∃ outcome,
      registry.evaluate (phoneRule plan).name (.text text) arguments record = .ok outcome ∧
      (outcome ≠ .valid → outcome = phoneComplaint plan) ∧
      (outcome = .valid →
        SolidAll isDialling text.toList ∧
        registry.evaluate (phoneRule plan).name (.text (inAscii text)) arguments record =
          .ok .valid ∧
        SolidAll isPlain (inAscii text).toList ∧
        (SolidAll isPlain text.toList ↔ inAscii text = text))) ∧
    ∀ char, isDialling char = true → ∃ text : String, char ∈ text.toList ∧
      registry.evaluate (phoneRule plan).name (.text text) arguments record = .ok .valid := by
  constructor
  · intro text
    obtain ⟨outcome, answered, complained, valid⟩ := verdict_phone plan text arguments record
    refine ⟨outcome, answered, complained, fun isValid => ?_⟩
    have accepted := valid.mp isValid
    have dialled := Plan.dialled_of_accepts accepted
    have ascii : plan.accepts (inAscii text).toList = true := by
      rw [inAscii, String.toList_ofList]
      exact Plan.accepts_map_asciiDigit accepted
    exact ⟨dialled, evaluate_phone_of_accepts ascii arguments record,
      Phone.solidAll_isPlain_inAscii dialled, Phone.solidAll_isPlain_iff dialled⟩
  · intro char dialling
    obtain ⟨chars, member, accepted⟩ := plan.exists_accepted_of_isDialling dialling
    rw [← String.toList_ofList (l := chars)] at member accepted
    exact ⟨String.ofList chars, member, evaluate_phone_of_accepts accepted arguments record⟩

/-- The last digit is an Arabic three. -/
example : registry.evaluate "phoneUS" (.text "202-555-017\u0663") [] (.dict []) = .ok .valid := by
  decide +kernel

end Standard

end RecordCheck
