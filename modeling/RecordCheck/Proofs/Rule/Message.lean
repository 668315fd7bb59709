import RecordCheck.Proofs.Rule.Registry
import RecordCheck.Proofs.Rule.Template

/-!
Templates that are put together from pieces. Main statement: such a template is filled in piece by
piece, in one pass, whatever the arguments look like.
-/

namespace RecordCheck

theorem Whole.read_of_digits {token : List Char} (digits : ∀ char ∈ token, char.isDigit = true)
    (short : token.length ≤ digitLimit) : read token = .ok (Nat.ofDigitChars 10 token 0) := by
  have bound : (token.takeWhile Text.isDecimal).length ≤ token.length :=
    (List.takeWhile_prefix _).length_le
  rw [read, Text.natural?_of_digits digits, if_neg (by omega)]

namespace Piece

/-- What templates are put together from: text without an open brace, and placeholders of plain
words, with no more digits in an index than an integer is read from. -/
def Authored : Piece → Prop
  | text chars => '\x7b' ∉ chars
  | placeholder token => token ≠ [] ∧ token.all Text.isPlainWord = true ∧
      (token.all Char.isDigit = true → token.length ≤ Whole.digitLimit)

instance : DecidablePred Authored
  | text chars => inferInstanceAs (Decidable ('\x7b' ∉ chars))
  | placeholder _ => inferInstanceAs (Decidable (_ ∧ _))

def insertion : Argument → String
  | .positional value => value.spelledScalar
  | .keyed _ content => content

/-- What a plain word stands for: digits for the argument at that index, any other word for the last
text under it. -/
def meaning (arguments : List Argument) (token : List Char) : Option String :=
  if token.all Char.isDigit then
    arguments[Nat.ofDigitChars 10 token 0]?.map insertion
  else (arguments.filterMap Argument.pair?).reverse.lookup (String.ofList token)

/-- A piece does not stand for an argument with an integer that is too long. -/
def Fits (arguments : List Argument) : Piece → Prop
  | text _ => True
  | placeholder token => token.all Char.isDigit = true →
      ∀ argument ∈ arguments[Nat.ofDigitChars 10 token 0]?, argument.writable = true

instance (arguments : List Argument) : DecidablePred (Fits arguments)
  | text _ => inferInstanceAs (Decidable True)
  | placeholder _ => inferInstanceAs (Decidable (_ → ∀ argument ∈ _, _))

/-- What a piece turns into; a placeholder that stands for nothing stays as it is written. -/
def rendering (arguments : List Argument) : Piece → List Char
  | text chars => chars
  | placeholder token =>
      match meaning arguments token with
      | some content => content.toList
      | none => (placeholder token).written

variable {arguments : List Argument}

theorem isToken_of_authored {token : List Char} (authored : (placeholder token).Authored) :
    IsToken token := by
  obtain ⟨some, plain, _⟩ := authored
  refine ⟨some, fun char member => ?_⟩
  exact Text.isWord_of_plain (List.all_eq_true.mp plain char member)

theorem allSigns_eq {token : List Char} (plain : token.all Text.isPlainWord = true) :
    token.all Text.isDigitSign = token.all Char.isDigit := by
  rw [Bool.eq_iff_iff, List.all_eq_true, List.all_eq_true]
  refine forall₂_congr fun char member => ?_
  rw [Text.isDigitSign_of_plain (List.all_eq_true.mp plain char member)]

theorem argumentText_eq (argument : Argument) :
    argumentText argument = Whole.ifWritable argument.writable (insertion argument) := by
  cases argument <;> rfl

theorem substitute?_of_authored {token : List Char} (authored : (placeholder token).Authored) :
    substitute? arguments token =
      if (placeholder token).Fits arguments then .ok (meaning arguments token)
      else .error .unwritable := by
  obtain ⟨_, plain, short⟩ := authored
  rw [meaning]
  have signs := allSigns_eq plain
  by_cases digits : token.all Char.isDigit = true
  · rw [if_pos digits, substitute?_of_number (signs.trans digits),
      Whole.read_of_digits (List.all_eq_true.mp digits) (short digits), Except.bind, indexed?]
    cases found : arguments[Nat.ofDigitChars 10 token 0]? with
    | none => simp [Fits, found]
    | some argument =>
        simp only [Fits, found, digits, argumentText_eq, Option.mem_some_iff, forall_eq',
          true_imp_iff]
        cases argument.writable <;> rfl
  · have fits : (placeholder token).Fits arguments := fun signs => absurd signs digits
    rw [if_neg digits, if_pos fits, substitute?_of_name (signs ▸ digits), Argument.keyeds,
      Entries.lookup_ofTexts]

theorem fill_of_authored {piece : Piece} (authored : piece.Authored) :
    fill arguments piece =
      if piece.Fits arguments then .ok (rendering arguments piece) else .error .unwritable := by
  cases piece with
  | text chars => rfl
  | placeholder token =>
      rw [fill, rendering, substitute?_of_authored authored]
      split
      · cases meaning arguments token <;> rfl
      · rfl

theorem fillAll_scan_pieces {pieces : List Piece} (authored : ∀ piece ∈ pieces, piece.Authored) :
    fillAll arguments (scan none (pieces.flatMap written)) =
      if ∀ piece ∈ pieces, piece.Fits arguments then .ok (pieces.flatMap (rendering arguments))
      else .error .unwritable := by
  induction pieces with
  | nil => rfl
  | cons piece rest ih =>
      obtain ⟨first, later⟩ := List.forall_mem_cons.mp authored
      rw [List.flatMap_cons, List.flatMap_cons]
      simp only [List.forall_mem_cons]
      cases piece with
      | text chars =>
          -- text is cut into single characters, which are put together again
          have texts : ∀ token, placeholder token ∉ chars.map fun char => text [char] := by simp
          have same : (chars.map fun char => text [char]).flatMap written = chars := by
            simp [List.flatMap_map, written]
          have fits : (text chars).Fits arguments := trivial
          rw [written, scan_text first, fillAll_append, fillAll_of_texts arguments texts, same,
            ih later]
          simp only [fits, true_and, rendering, Except.bind]
          split <;> rfl
      | placeholder token =>
          have whole := fillAll_scan_split arguments (isToken_of_authored first) []
            (rest.flatMap written)
          rw [List.nil_append] at whole
          rw [whole, fill_of_authored first, ih later]
          by_cases fits : (placeholder token).Fits arguments
          · simp only [fits, true_and, if_true]
            split <;> rfl
          · simp only [fits, false_and, if_false]
            rfl

end Piece

theorem fillTemplate_plain {template : String} (free : '\x7b' ∉ template.toList)
    (arguments : List Argument) : fillTemplate template arguments = .ok template := by
  have authored : ∀ piece ∈ [Piece.text template.toList], piece.Authored := by
    simpa [Piece.Authored] using free
  have filled : Piece.fillAll arguments (Piece.scan none template.toList) = .ok template.toList := by
    simpa [Piece.written, Piece.rendering, Piece.Fits] using
      Piece.fillAll_scan_pieces authored
  rw [fillTemplate, filled, Except.map, String.ofList_toList]

theorem Registry.verdict_of_plain {registry : Registry} {name : String} {rule : Rule}
    (known : registry.find? name = some rule) (free : '\x7b' ∉ rule.template.toList)
    {value record : Value} {arguments : List Argument} {holds : Bool}
    (asked : rule.predicate value arguments record = .ok holds) :
    ∃ outcome, registry.evaluate name value arguments record = .ok outcome ∧
      (outcome ≠ .valid → outcome = .invalid rule.errorId rule.template) ∧
      (outcome = .valid ↔ holds = true) := by
  have written : rule.message arguments = .ok rule.template := by
    rw [Rule.message, fillTemplate_plain free]
    rfl
  refine ⟨_, evaluate_of_answer known asked written, ?_, ?_⟩
  · intro complained
    rw [if_neg fun accepted => complained (if_pos accepted)]
  · cases holds <;> simp

/-- A template that is put together from pieces turns into what the pieces turn into, unless one of
them stands for an argument that cannot be written. -/
theorem fills_piecewise (pieces : List Piece) (arguments : List Argument)
    (authored : ∀ piece ∈ pieces, piece.Authored) :
    fillTemplate (String.ofList (pieces.flatMap Piece.written)) arguments =
      if ∀ piece ∈ pieces, piece.Fits arguments then
        .ok (String.ofList (pieces.flatMap (Piece.rendering arguments)))
      else .error .unwritable := by
  rw [fillTemplate_ofList, Piece.fillAll_scan_pieces authored]
  split <;> rfl

def amounts : List Argument :=
  [.positional (.text "\x7bunit\x7d"), .keyed "unit" "g", .positional (.bool true),
    .keyed "unit" "\x7b0\x7d", .keyed "9" "never"]

def packing : List Piece :=
  [.text "a\x7d".toList, .placeholder "0".toList, .text " ".toList, .placeholder "unit".toList,
    .placeholder "002".toList, .placeholder "9".toList, .placeholder "Unit".toList]

theorem packing_filled :
    (∀ piece ∈ packing, piece.Authored) ∧
      fillTemplate "a\x7d\x7b0\x7d \x7bunit\x7d\x7b002\x7d\x7b9\x7d\x7bUnit\x7d" amounts =
        .ok "a\x7d\x7bunit\x7d \x7b0\x7dtrue\x7b9\x7d\x7bUnit\x7d" := by
  have authored : ∀ piece ∈ packing, piece.Authored := by decide
  have fits : ∀ piece ∈ packing, piece.Fits amounts := by decide
  have filled := fills_piecewise packing amounts authored
  rw [if_pos fits] at filled
  exact ⟨authored, filled⟩

end RecordCheck
