import RecordCheck.Proofs.Number.Written
import RecordCheck.Proofs.Outcome
import RecordCheck.Proofs.Rule.Conditions
import RecordCheck.Proofs.Rule.Standard

/-!
How standard rules fail instead of answering. An argument is wrong: `equals` has no field, or the
first of the arguments taken as numbers that is none. Or a text is asked for that is not there,
because an integer is too long: that of a field's name, of a value or of a field that is compared
with texts, or of a bound in a message. Main statement: such a failure is a fault of the schema, unless
an argument is an integer from `overflowBound` on, which is too large to be taken, or a text is not
there.
-/

namespace RecordCheck

open Binary64

/-- A failure that lays the blame on the schema: an argument that the rule needs is missing or of the
wrong kind. -/
def RuleError.BlamesSchema : RuleError → Prop
  | numberNeeded _ _ | fieldNeeded _ => True
  | _ => False

theorem Value.toFloat?_error_iff {value : Value} {error : RuleError} :
    value.toFloat? = .error error ↔
      error = .tooLarge ∧ ∃ integer : Int, value = .int integer ∧ overflowBound ≤ integer.natAbs := by
  cases value with
  | int integer =>
      by_cases finite : (ofInt integer).isFinite = true
      · have small := isFinite_ofInt_iff.mp finite
        simp [toFloat?, finite, small]
      · have large := Nat.le_of_not_lt (mt isFinite_ofInt_iff.mpr finite)
        simp [toFloat?, finite, large, eq_comm]
  | bytes content =>
      rw [toFloat?]
      split <;> simp
  | _ => simp [toFloat?]

theorem Value.writable_of_toFloat? {value : Value} {number : Binary64}
    (taken : value.toFloat? = .ok (some number)) : value.writable = true := by
  cases value with
  | int integer =>
      have small : integer.natAbs < overflowBound := by
        by_contra large
        rw [toFloat?_error_iff.mpr ⟨rfl, integer, rfl, Nat.le_of_not_lt large⟩] at taken
        cases taken
      exact writable_of_lt small
  | list items => cases taken
  | tuple items => cases taken
  | dict entries => cases taken
  | part content => exact content.elim
  | _ => rfl

namespace Piece

def index? : Piece → Option Nat
  | text _ => none
  | placeholder token =>
      if token.all Char.isDigit then some (Nat.ofDigitChars 10 token 0) else none

theorem fits_iff {arguments : List Argument} {piece : Piece} : piece.Fits arguments ↔
    ∀ index ∈ piece.index?, ∀ argument ∈ arguments[index]?, argument.writable = true := by
  cases piece with
  | text chars => simp [Fits, index?]
  | placeholder token =>
      by_cases digits : token.all Char.isDigit = true
      · simp only [Fits, index?, digits, if_true, true_imp_iff, Option.mem_some_iff, forall_eq']
      · simp [Fits, index?, digits]

end Piece

namespace Standard

section Failing

variable {rule : Rule} {name : String} {value record : Value} {arguments : List Argument}
  {position : Nat} {later : List Nat} {error : RuleError}

def shown (name : String) : List Nat :=
  if name = "betweenNumber" then [0, 1]
  else if name = "equals" ∨ name = "minLength" ∨ name = "maxLength" then [0]
  else []

/-- The message of a standard rule shows an argument with an integer that is too long. -/
def Unshown (name : String) (arguments : List Argument) : Prop :=
  ∃ index ∈ shown name, ∃ argument, arguments[index]? = some argument ∧ argument.writable = false

theorem message_error_iff (standard : rule ∈ rules) : rule.message arguments = .error error ↔
    error = .integer .unwritable ∧ Unshown rule.name arguments := by
  have table : ∀ rule ∈ rules, (∀ piece ∈ Piece.scan none rule.template.toList, piece.Authored) ∧
      (Piece.scan none rule.template.toList).filterMap Piece.index? = shown rule.name := by
    decide +kernel
  obtain ⟨authored, indexes⟩ := table rule standard
  have fits : (∀ piece ∈ Piece.scan none rule.template.toList, piece.Fits arguments) ↔
      ¬Unshown rule.name arguments := by
    simp only [Piece.fits_iff, Unshown, ← indexes, List.mem_filterMap, Option.mem_def]
    push Not
    constructor
    · rintro all index ⟨piece, member, same⟩ argument there
      simpa using all piece member index same argument there
    · intro all piece member index same argument there
      simpa using all index ⟨piece, member, same⟩ argument there
  have filled : Piece.fillAll arguments _ = _ := Piece.fillAll_scan_pieces authored
  rw [Piece.scan_written, Piece.opened, List.nil_append] at filled
  rw [Rule.message, fillTemplate, filled]
  by_cases unshown : Unshown rule.name arguments
  · rw [if_neg fun all => fits.mp all unshown]
    simp [unshown, Except.map, eq_comm]
  · rw [if_pos (fits.mpr unshown)]
    simp [unshown, Except.map]

theorem evaluate_error_iff (standard : rule ∈ rules) :
    rule.evaluate value arguments record = .error error ↔
      rule.predicate value arguments record = .error error ∨
      rule.predicate value arguments record = .ok false ∧ error = .integer .unwritable ∧
        Unshown rule.name arguments := by
  rw [Rule.evaluate, bind_error_iff]
  refine or_congr_right ?_
  constructor
  · rintro ⟨holds, answered, failed⟩
    cases holds with
    | true => cases failed
    | false => exact ⟨answered, (message_error_iff standard).mp (map_error_iff.mp failed)⟩
  · rintro ⟨answered, failed⟩
    exact ⟨false, answered, map_error_iff.mpr ((message_error_iff standard).mpr failed)⟩

def Fit (arguments : List Argument) (position : Nat) : Prop :=
  ∃ value number, (Argument.positionals arguments)[position]? = some value ∧
    value.toFloat? = .ok (some number)

inductive Unfit (rule : String) (arguments : List Argument) (position : Nat) : RuleError → Prop
  | missing (none : (Argument.positionals arguments)[position]? = none) :
      Unfit rule arguments position (.numberNeeded rule position)
  | unreadable (value : Value) (there : (Argument.positionals arguments)[position]? = some value)
      (unread : value.toFloat? = .ok none) :
      Unfit rule arguments position (.numberNeeded rule position)
  | oversized (integer : Int)
      (there : (Argument.positionals arguments)[position]? = some (.int integer))
      (large : overflowBound ≤ integer.natAbs) : Unfit rule arguments position .tooLarge

inductive FirstUnfit (rule : String) (arguments : List Argument) : List Nat → RuleError → Prop
  | here {position : Nat} {later : List Nat} {error : RuleError}
      (unfit : Unfit rule arguments position error) :
      FirstUnfit rule arguments (position :: later) error
  | later {position : Nat} {later : List Nat} {error : RuleError} (fit : Fit arguments position)
      (unfit : FirstUnfit rule arguments later error) :
      FirstUnfit rule arguments (position :: later) error

@[simp] theorem not_firstUnfit_nil : ¬FirstUnfit name arguments [] error := nofun

theorem firstUnfit_cons : FirstUnfit name arguments (position :: later) error ↔
    Unfit name arguments position error ∨
      Fit arguments position ∧ FirstUnfit name arguments later error := by
  constructor
  · intro first
    cases first with
    | here unfit => exact Or.inl unfit
    | later fit unfit => exact Or.inr ⟨fit, unfit⟩
  · rintro (unfit | ⟨fit, unfit⟩)
    · exact .here unfit
    · exact .later fit unfit

theorem firstUnfit_single :
    FirstUnfit name arguments [position] error ↔ Unfit name arguments position error := by
  simp [firstUnfit_cons]

theorem numberArgument_of_read {argument : Value} {number : Binary64}
    (there : (Argument.positionals arguments)[position]? = some argument)
    (read : argument.toFloat? = .ok (some number)) :
    numberArgument name arguments position = .ok number := by
  simp [numberArgument, there, read, Except.bind]

theorem numberArgument_of_unread {argument : Value}
    (there : (Argument.positionals arguments)[position]? = some argument)
    (unread : argument.toFloat? = .ok none) :
    numberArgument name arguments position = .error (.numberNeeded name position) := by
  simp [numberArgument, there, unread, Except.bind]

theorem numberArgument_of_failed {argument : Value}
    (there : (Argument.positionals arguments)[position]? = some argument)
    (failed : argument.toFloat? = .error error) :
    numberArgument name arguments position = .error error := by
  simp [numberArgument, there, failed, Except.bind]

theorem numberArgument_error_iff :
    numberArgument name arguments position = .error error ↔ Unfit name arguments position error := by
  constructor
  · intro failed
    cases there : (Argument.positionals arguments)[position]? with
    | none =>
        rw [numberArgument, there] at failed
        cases failed
        exact .missing there
    | some argument =>
        match read : argument.toFloat? with
        | .ok (some number) =>
            rw [numberArgument_of_read there read] at failed
            cases failed
        | .ok none =>
            rw [numberArgument_of_unread there read] at failed
            cases failed
            exact .unreadable argument there read
        | .error fault =>
            rw [numberArgument_of_failed there read] at failed
            cases failed
            obtain ⟨rfl, integer, rfl, large⟩ := Value.toFloat?_error_iff.mp read
            exact .oversized integer there large
  · intro unfit
    cases unfit with
    | missing none => rw [numberArgument, none]
    | unreadable argument there unread => exact numberArgument_of_unread there unread
    | oversized integer there large =>
        exact numberArgument_of_failed there
          (Value.toFloat?_error_iff.mpr ⟨rfl, integer, rfl, large⟩)

theorem numberArgument_ok_iff (name : String) :
    (∃ number, numberArgument name arguments position = .ok number) ↔ Fit arguments position := by
  constructor
  · rintro ⟨number, taken⟩
    cases there : (Argument.positionals arguments)[position]? with
    | none =>
        rw [numberArgument, there] at taken
        cases taken
    | some argument =>
        match read : argument.toFloat? with
        | .ok (some number) => exact ⟨argument, number, there, read⟩
        | .ok none =>
            rw [numberArgument_of_unread there read] at taken
            cases taken
        | .error fault =>
            rw [numberArgument_of_failed there read] at taken
            cases taken
  · rintro ⟨argument, number, there, read⟩
    exact ⟨number, numberArgument_of_read there read⟩

theorem equals_error_iff : equals value arguments record = .error error ↔
    Argument.positionals arguments = [] ∧ error = .fieldNeeded "equals" ∨
      error = .integer .unwritable ∧
        ∃ field ∈ (Argument.positionals arguments).head?, field.writable = false := by
  rw [equals]
  split
  · rename_i none
    constructor
    · rintro ⟨⟩
      exact Or.inl ⟨none, rfl⟩
    · rintro (⟨_, rfl⟩ | ⟨_, field, first, _⟩)
      · rfl
      · rw [none] at first
        cases first
  · rename_i field rest some
    rw [map_error_iff, mapError_error_iff, Value.display, some]
    simp only [Whole.ifWritable_error_iff]
    constructor
    · rintro ⟨fault, ⟨long, rfl⟩, rfl⟩
      exact Or.inr ⟨rfl, field, rfl, long⟩
    · rintro (⟨none, _⟩ | ⟨rfl, _, ⟨⟩, long⟩)
      · cases none
      · exact ⟨_, ⟨long, rfl⟩, rfl⟩

theorem oneOf_error_iff : oneOf value arguments record = .error error ↔
    error = .integer .unwritable ∧ value.writable = false ∧
      ∀ item ∈ Argument.positionals arguments, value.same item = false := by
  rw [oneOf]
  split
  · rename_i listed
    obtain ⟨item, member, same⟩ := List.any_eq_true.mp listed
    refine iff_of_false nofun ?_
    rintro ⟨_, _, differs⟩
    rw [differs item member] at same
    cases same
  · rename_i unlisted
    rw [List.any_eq_true, not_exists] at unlisted
    have differs : ∀ item ∈ Argument.positionals arguments, value.same item = false :=
      fun item member => Bool.eq_false_iff.mpr fun same => unlisted item ⟨member, same⟩
    rw [map_error_iff, mapError_error_iff, Value.scalarText]
    simp only [Whole.ifWritable_error_iff]
    constructor
    · rintro ⟨fault, ⟨long, rfl⟩, rfl⟩
      exact ⟨rfl, long, differs⟩
    · rintro ⟨rfl, long, _⟩
      exact ⟨_, ⟨long, rfl⟩, rfl⟩

theorem betweenNumber_error_iff : betweenNumber value arguments record = .error error ↔
    FirstUnfit "betweenNumber" arguments [0, 1] error := by
  rw [firstUnfit_cons, firstUnfit_single, ← numberArgument_error_iff, ← numberArgument_error_iff,
    ← numberArgument_ok_iff "betweenNumber", betweenNumber, bind_error_iff]
  simp only [map_error_iff, exists_and_right]

theorem lengthRule_error_iff (name : String) (test : Int → Binary64 → Bool) :
    (match value.length? with
      | some length => (numberArgument name arguments 0).map (test length)
      | none => .ok false) = .error error ↔
    FirstUnfit name arguments (if value.length?.isSome then [0] else []) error := by
  split
  · rename_i length has
    rw [has, map_error_iff, numberArgument_error_iff, Option.isSome_some, if_pos rfl,
      firstUnfit_single]
  · rename_i has
    simp [has]

theorem minLength_error_iff : minLength value arguments record = .error error ↔
    FirstUnfit "minLength" arguments (if value.length?.isSome then [0] else []) error :=
  lengthRule_error_iff "minLength" fun length least => (Number.binary least).le (.whole length)

theorem maxLength_error_iff : maxLength value arguments record = .error error ↔
    FirstUnfit "maxLength" arguments (if value.length?.isSome then [0] else []) error :=
  lengthRule_error_iff "maxLength" fun length most => (Number.whole length).le (.binary most)

/-- The positions of the arguments that a standard rule takes as numbers when it is asked about a
value. -/
def numbersTaken (name : String) (value : Value) : List Nat :=
  if name = "betweenNumber" then [0, 1]
  else if name = "minLength" ∨ name = "maxLength" then
    if value.length?.isSome then [0] else []
  else []

/-- A standard rule compares with a text that is not there: the name of a field, the text of a field
that a condition names, or that of a value which is no argument itself. -/
def Uncompared (name : String) (value : Value) (arguments : List Argument) (record : Value) : Prop :=
  (name = "equals" ∧ ∃ field ∈ (Argument.positionals arguments).head?, field.writable = false) ∨
    (name = "required" ∧ Stuck record (Argument.keyeds arguments)) ∨
    (name = "oneOf" ∧ value.writable = false ∧
      ∀ item ∈ Argument.positionals arguments, value.same item = false)

/-- The message about a value that has no length shows a bound that is not there as a text. -/
def Unbounded (name : String) (value : Value) (arguments : List Argument) : Prop :=
  (name = "minLength" ∨ name = "maxLength") ∧ value.length? = none ∧
    ∃ argument, arguments[0]? = some argument ∧ argument.writable = false

def Misused (name : String) (value : Value) (arguments : List Argument) (error : RuleError) : Prop :=
  (name = "equals" ∧ Argument.positionals arguments = [] ∧ error = .fieldNeeded "equals") ∨
    FirstUnfit name arguments (numbersTaken name value) error

theorem predicate_error_iff (standard : rule ∈ rules) :
    rule.predicate value arguments record = .error error ↔
      Misused rule.name value arguments error ∨
        error = .integer .unwritable ∧ Uncompared rule.name value arguments record := by
  simp only [rules, List.mem_cons, List.not_mem_nil, or_false] at standard
  rcases standard with rfl | rfl | rfl | rfl | rfl | rfl | rfl | rfl | rfl | rfl
  case inr.inl =>
    simp [Misused, Uncompared, numbersTaken, Rule.make, betweenNumber_error_iff]
  case inr.inr.inl => simp [Misused, Uncompared, numbersTaken, Rule.make, equals_error_iff]
  case inr.inr.inr.inl => simp [Misused, Uncompared, numbersTaken, Rule.make, required_error_iff]
  case inr.inr.inr.inr.inr.inr.inl =>
    simp [Misused, Uncompared, numbersTaken, Rule.make, oneOf_error_iff]
  case inr.inr.inr.inr.inr.inr.inr.inr.inl =>
    simp [Misused, Uncompared, numbersTaken, Rule.make, minLength_error_iff]
  case inr.inr.inr.inr.inr.inr.inr.inr.inr =>
    simp [Misused, Uncompared, numbersTaken, Rule.make, maxLength_error_iff]
  all_goals
    -- the other rules answer whatever their arguments are
    refine iff_of_false ?_ ?_
    · intro failed
      cases value <;> cases failed
    · simp [Misused, Uncompared, numbersTaken, Rule.make]

theorem writable_of_positionals {index : Nat} {argument : Argument}
    (there : arguments[index]? = some argument)
    (written : ∀ earlier ≤ index, ∀ value ∈ (Argument.positionals arguments)[earlier]?,
      value.writable = true) : argument.writable = true := by
  induction arguments generalizing index with
  | nil => cases there
  | cons first rest ih =>
      cases first with
      | positional value =>
          cases index with
          | zero =>
              cases there
              exact written 0 (Nat.le_refl 0) value rfl
          | succ index =>
              exact ih there fun earlier before => written (earlier + 1) (Nat.succ_le_succ before)
      | keyed key content =>
          cases index with
          | zero =>
              cases there
              rfl
          | succ index =>
              exact ih there fun earlier before => written earlier (Nat.le_succ_of_le before)

theorem Fit.writable (fit : Fit arguments position) :
    ∀ value ∈ (Argument.positionals arguments)[position]?, value.writable = true := by
  obtain ⟨value, number, there, read⟩ := fit
  rintro other found
  rw [there] at found
  cases found
  exact Value.writable_of_toFloat? read

theorem shown_of_fit {index : Nat} {argument : Argument}
    (there : arguments[index]? = some argument)
    (fit : ∀ earlier ≤ index, Fit arguments earlier) : argument.writable = true :=
  writable_of_positionals there fun earlier before => (fit earlier before).writable

theorem lengthRule_unshown_iff (name : String) (test : Int → Binary64 → Bool) :
    ((match value.length? with
      | some length => (numberArgument name arguments 0).map (test length)
      | none => .ok false) = .ok false ∧
        ∃ argument, arguments[0]? = some argument ∧ argument.writable = false) ↔
    value.length? = none ∧
      ∃ argument, arguments[0]? = some argument ∧ argument.writable = false := by
  refine and_congr_left ?_
  rintro ⟨argument, there, long⟩
  split
  · rename_i length has
    refine iff_of_false (fun answered => ?_) (by simp [has])
    obtain ⟨number, taken, _⟩ := map_ok_iff.mp answered
    have fit : Fit arguments 0 := (numberArgument_ok_iff name).mp ⟨number, taken⟩
    rw [shown_of_fit there fun earlier before => Nat.le_zero.mp before ▸ fit] at long
    cases long
  · rename_i has
    simp [has]

theorem minLength_unshown_iff : (minLength value arguments record = .ok false ∧
      ∃ argument, arguments[0]? = some argument ∧ argument.writable = false) ↔
    value.length? = none ∧
      ∃ argument, arguments[0]? = some argument ∧ argument.writable = false :=
  lengthRule_unshown_iff "minLength" fun length least => (Number.binary least).le (.whole length)

theorem maxLength_unshown_iff : (maxLength value arguments record = .ok false ∧
      ∃ argument, arguments[0]? = some argument ∧ argument.writable = false) ↔
    value.length? = none ∧
      ∃ argument, arguments[0]? = some argument ∧ argument.writable = false :=
  lengthRule_unshown_iff "maxLength" fun length most => (Number.whole length).le (.binary most)

theorem equals_shown {holds : Bool} {argument : Argument}
    (answered : equals value arguments record = .ok holds)
    (there : arguments[0]? = some argument) : argument.writable = true := by
  refine writable_of_positionals there fun earlier before field found => ?_
  rw [Nat.le_zero.mp before, ← List.head?_eq_getElem?] at found
  by_contra long
  have failed : equals value arguments record = .error (.integer .unwritable) :=
    equals_error_iff.mpr (Or.inr ⟨rfl, field, found, Bool.eq_false_iff.mpr long⟩)
  rw [failed] at answered
  cases answered

theorem betweenNumber_shown {holds : Bool} {index : Nat} {argument : Argument}
    (answered : betweenNumber value arguments record = .ok holds) (either : index ≤ 1)
    (there : arguments[index]? = some argument) : argument.writable = true := by
  obtain ⟨low, least, later⟩ := bind_ok_iff.mp answered
  obtain ⟨high, most, _⟩ := map_ok_iff.mp later
  refine shown_of_fit there fun earlier before => ?_
  obtain rfl | rfl : earlier = 0 ∨ earlier = 1 := by omega
  · exact (numberArgument_ok_iff "betweenNumber").mp ⟨low, least⟩
  · exact (numberArgument_ok_iff "betweenNumber").mp ⟨high, most⟩

/-- What an argument was taken for is written, so only a message about a value without a length can
show an argument that is not. -/
theorem complains_unshown_iff (standard : rule ∈ rules) :
    (rule.predicate value arguments record = .ok false ∧ Unshown rule.name arguments) ↔
      Unbounded rule.name value arguments := by
  simp only [rules, List.mem_cons, List.not_mem_nil, or_false] at standard
  rcases standard with rfl | rfl | rfl | rfl | rfl | rfl | rfl | rfl | rfl | rfl
  case inr.inl =>
    refine iff_of_false ?_ (by simp [Unbounded, Rule.make])
    rintro ⟨answered, index, member, argument, there, long⟩
    have either : index ≤ 1 := by
      simp only [shown, Rule.make, if_true, List.mem_cons, List.not_mem_nil, or_false] at member
      omega
    have taken : betweenNumber value arguments record = .ok false := answered
    rw [betweenNumber_shown taken either there] at long
    cases long
  case inr.inr.inl =>
    refine iff_of_false ?_ (by simp [Unbounded, Rule.make])
    rintro ⟨answered, index, member, argument, there, long⟩
    obtain rfl : index = 0 := by simpa [shown, Rule.make] using member
    rw [equals_shown answered there] at long
    cases long
  case inr.inr.inr.inr.inr.inr.inr.inr.inl =>
    simpa [Unshown, Unbounded, shown, Rule.make] using minLength_unshown_iff
  case inr.inr.inr.inr.inr.inr.inr.inr.inr =>
    simpa [Unshown, Unbounded, shown, Rule.make] using maxLength_unshown_iff
  all_goals
    -- the messages of the other rules show no argument
    simp [Unshown, Unbounded, shown, Rule.make]

/-- What is wrong with what a standard rule is asked: with an argument that it takes, or with a text
that is not there because an integer is too long. -/
def Faulty (name : String) (value : Value) (arguments : List Argument) (record : Value)
    (error : RuleError) : Prop :=
  Misused name value arguments error ∨
    error = .integer .unwritable ∧
      (Uncompared name value arguments record ∨ Unbounded name value arguments)

/-- An argument that is taken as a number is an integer too large for one. -/
def Oversteps (name : String) (value : Value) (arguments : List Argument) : Prop :=
  ∃ position ∈ numbersTaken name value, ∃ integer : Int,
    (Argument.positionals arguments)[position]? = some (.int integer) ∧
      overflowBound ≤ integer.natAbs

theorem FirstUnfit.exists_unfit {positions : List Nat}
    (first : FirstUnfit name arguments positions error) :
    ∃ position ∈ positions, Unfit name arguments position error := by
  induction first with
  | here unfit => exact ⟨_, List.mem_cons_self, unfit⟩
  | later fit unfit ih =>
      obtain ⟨position, member, unfit⟩ := ih
      exact ⟨position, List.mem_cons_of_mem _ member, unfit⟩

/-- What is wrong with an argument lays the blame on the schema, or is an integer that is too
large. -/
theorem Misused.blames (misused : Misused name value arguments error) :
    error.BlamesSchema ∨ error = .tooLarge ∧ Oversteps name value arguments := by
  rcases misused with ⟨_, _, rfl⟩ | first
  · exact Or.inl trivial
  · obtain ⟨position, taken, unfit⟩ := first.exists_unfit
    cases unfit with
    | missing none => exact Or.inl trivial
    | unreadable argument there unread => exact Or.inl trivial
    | oversized integer there large =>
        exact Or.inr ⟨rfl, position, taken, integer, there, large⟩

/-- A standard rule answers unless there is something wrong with what it is asked, and fails with
just that: it lays the blame on the schema, or an integer is too large to be taken or too long to be
written. -/
theorem standard_rules_fail_by_arguments (name : String) (value : Value)
    (arguments : List Argument) (record : Value) (standard : registry.contains name = true) :
    (∀ error, registry.evaluate name value arguments record = .error error ↔
      Faulty name value arguments record error) ∧
    ((∃ outcome, registry.evaluate name value arguments record = .ok outcome) ∨
      (∃ error, error.BlamesSchema ∧
        registry.evaluate name value arguments record = .error error) ∨
      registry.evaluate name value arguments record = .error .tooLarge ∧
        Oversteps name value arguments ∨
      registry.evaluate name value arguments record = .error (.integer .unwritable) ∧
        (Uncompared name value arguments record ∨ Unbounded name value arguments)) := by
  obtain ⟨rule, found⟩ := Option.isSome_iff_exists.mp standard
  obtain ⟨member, rfl⟩ := Registry.mem_of_find?_ofRules found
  have asked : registry.evaluate rule.name value arguments record =
      rule.evaluate value arguments record := by
    rw [Registry.evaluate, Registry.get, found]
    rfl
  have fails : ∀ error, registry.evaluate rule.name value arguments record = .error error ↔
      Faulty rule.name value arguments record error := by
    intro error
    rw [asked, evaluate_error_iff member, predicate_error_iff member, or_assoc, Faulty,
      ← complains_unshown_iff member, and_or_left, and_left_comm]
  refine ⟨fails, ?_⟩
  cases evaluated : registry.evaluate rule.name value arguments record with
  | ok outcome => exact Or.inl ⟨outcome, rfl⟩
  | error error =>
      refine Or.inr ?_
      rcases (fails error).mp evaluated with misused | ⟨rfl, untold⟩
      · rcases misused.blames with blames | ⟨rfl, oversteps⟩
        · exact Or.inl ⟨error, blames, rfl⟩
        · exact Or.inr (Or.inl ⟨rfl, oversteps⟩)
      · exact Or.inr (Or.inr ⟨rfl, untold⟩)

end Failing

def farBounds : List Argument :=
  [.positional (.int (Nat.pow 10 400)), .positional (.text "ten")]

theorem farBounds_fail : registry.contains "betweenNumber" = true ∧
    registry.evaluate "betweenNumber" (.int 5) farBounds (.dict []) = .error .tooLarge ∧
    registry.evaluate "betweenNumber" (.int 5) (farBounds.drop 1) (.dict []) =
      .error (.numberNeeded "betweenNumber" 0) := by
  have known : registry.contains "betweenNumber" = true := by
    decide +kernel
  have large : overflowBound ≤ (Nat.pow 10 400 : Int).natAbs := by
    decide +kernel
  have outcome := standard_rules_fail_by_arguments "betweenNumber" (.int 5) farBounds (.dict []) known
  have reversed := standard_rules_fail_by_arguments "betweenNumber" (.int 5) (farBounds.drop 1)
    (.dict []) known
  refine ⟨known, (outcome.1 _).mpr (Or.inl (Or.inr ?_)), (reversed.1 _).mpr (Or.inl (Or.inr ?_))⟩
  · exact .here (.oversized _ rfl large)
  · exact .here (.unreadable (.text "ten") rfl (by decide +kernel))

end Standard

end RecordCheck
