import RecordCheck.Proofs.Entries
import RecordCheck.Proofs.Number.Numeric
import RecordCheck.Proofs.Outcome
import RecordCheck.Rule.Message

/-!
Message templates. A template is cut at its placeholders, and what stands before or after one makes
no difference to how it is cut. Main statement: a template is filled in unless one of its
placeholders looks like an index and is none, or is the index of an argument that cannot be written;
and what stands for nothing stays as it is written.
-/

namespace RecordCheck

namespace Argument

variable {arguments : List Argument} {key : String}

theorem mem_pairs_iff {content : String} :
    (key, content) ∈ arguments.filterMap pair? ↔ .keyed key content ∈ arguments := by
  rw [List.mem_filterMap]
  constructor
  · rintro ⟨argument, member, same⟩
    cases argument with
    | positional value => cases same
    | keyed name text =>
        cases same
        exact member
  · exact fun member => ⟨_, member, rfl⟩

theorem lookup_of_unknown (unknown : ∀ content, .keyed key content ∉ arguments) :
    (keyeds arguments).lookup key = none := by
  by_contra found
  obtain ⟨content, found⟩ := Option.ne_none_iff_exists'.mp found
  have written := Entries.mem_of_mem_ofTexts (Entries.mem_of_lookup found)
  exact unknown content (mem_pairs_iff.mp written)

end Argument

namespace Whole

variable {chars : List Char}

/-- Why a text is not read as an integer: it starts with too many decimal digits, or something in it
is no decimal digit. -/
inductive Misread (chars : List Char) : Fault → Prop
  | tooLong (long : digitLimit < (chars.takeWhile Text.isDecimal).length) :
      Misread chars (.tooLong (chars.takeWhile Text.isDecimal).length)
  | notDecimal (short : (chars.takeWhile Text.isDecimal).length ≤ digitLimit)
      (other : ∃ char ∈ chars, Text.isDecimal char = false) : Misread chars (.notDecimal chars)

theorem natural?_eq_none_iff :
    Text.natural? chars = none ↔ ∃ char ∈ chars, Text.isDecimal char = false := by
  have digits := not_congr (Text.natural?_isSome_iff chars)
  simpa using digits

theorem read_error_iff {fault : Fault} : read chars = .error fault ↔ Misread chars fault := by
  unfold read
  by_cases long : digitLimit < (chars.takeWhile Text.isDecimal).length
  · rw [if_pos long]
    constructor
    · rintro ⟨⟩
      exact .tooLong long
    · rintro (_ | short)
      · rfl
      · omega
  · rw [if_neg long]
    constructor
    · intro failed
      split at failed
      · cases failed
      · rename_i none
        cases failed
        exact .notDecimal (by omega) (natural?_eq_none_iff.mp none)
    · intro misread
      cases misread with
      | tooLong long => omega
      | notDecimal _ other => rw [natural?_eq_none_iff.mpr other]

theorem natural?_of_read {number : Nat} (done : read chars = .ok number) :
    Text.natural? chars = some number := by
  simp only [read] at done
  split at done
  · cases done
  · split at done
    · cases done
      assumption
    · cases done

end Whole

namespace Piece

def IsToken (token : List Char) : Prop :=
  token ≠ [] ∧ ∀ char ∈ token, Text.isWord char = true

/-- A placeholder of the token stands somewhere in a text. -/
def Holds (token chars : List Char) : Prop :=
  IsToken token ∧ (placeholder token).written <:+: chars

def opened : Option (List Char) → List Char
  | none => []
  | some token => '\x7b' :: token

theorem not_isWord_open : Text.isWord '\x7b' = false := by decide

theorem not_isWord_close : Text.isWord '\x7d' = false := by decide

theorem scan_open (state : Option (List Char)) (rest : List Char) :
    scan state ('\x7b' :: rest) = scan state [] ++ scan (some []) rest := by
  cases state with
  | none => simp [scan]
  | some token => simp [scan, not_isWord_open]

theorem scan_append_open (state : Option (List Char)) (before rest : List Char) :
    scan state (before ++ '\x7b' :: rest) = scan state before ++ scan (some []) rest := by
  induction before generalizing state with
  | nil => exact scan_open state rest
  | cons char later ih =>
      cases state with
      | none =>
          simp only [List.cons_append, scan]
          split
          · exact ih (some [])
          · rw [ih none, List.cons_append]
      | some token =>
          simp only [List.cons_append, scan]
          split
          · exact ih (some (token ++ [char]))
          · split
            · rw [ih none, List.cons_append]
            · split
              · rw [ih (some []), List.cons_append]
              · rw [ih none, List.cons_append, List.cons_append]

theorem scan_word (read : List Char) {word : List Char}
    (goes : ∀ char ∈ word, Text.isWord char = true) (rest : List Char) :
    scan (some read) (word ++ rest) = scan (some (read ++ word)) rest := by
  induction word generalizing read with
  | nil => simp
  | cons char later ih =>
      have first := goes char List.mem_cons_self
      rw [List.cons_append, scan, if_pos first,
        ih (read ++ [char]) fun other member => goes other (List.mem_cons_of_mem _ member),
        List.append_assoc]
      rfl

theorem scan_placeholder {token : List Char} (word : IsToken token) (before after : List Char) :
    scan none (before ++ ((placeholder token).written ++ after)) =
      scan none before ++ placeholder token :: scan none after := by
  have closed : scan (some token) ('\x7d' :: after) = placeholder token :: scan none after := by
    simp [scan, not_isWord_close, word.1]
  have shape : (placeholder token).written ++ after = '\x7b' :: (token ++ '\x7d' :: after) := by
    simp [written]
  rw [shape, scan_append_open, scan_word [] word.2, List.nil_append, closed]

theorem scan_text {chars : List Char} (free : '\x7b' ∉ chars) (rest : List Char) :
    scan none (chars ++ rest) = chars.map (fun char => text [char]) ++ scan none rest := by
  induction chars with
  | nil => rfl
  | cons char later ih =>
      rw [List.mem_cons, not_or] at free
      rw [List.cons_append, scan, if_neg (Ne.symm free.1), ih free.2]
      rfl

/-- No character is lost: the pieces say what was read and what is still to be read. -/
theorem scan_written (state : Option (List Char)) (chars : List Char) :
    (scan state chars).flatMap written = opened state ++ chars := by
  fun_induction scan state chars <;> simp_all [written, opened]

theorem mem_of_mem_text {token chars : List Char} {pieces : List Piece}
    (found : placeholder token ∈ text chars :: pieces) : placeholder token ∈ pieces :=
  List.mem_of_ne_of_mem (by simp) found

theorem isToken_of_mem_scan {state : Option (List Char)} {chars token : List Char}
    (goes : ∀ seen ∈ state, ∀ char ∈ seen, Text.isWord char = true)
    (found : placeholder token ∈ scan state chars) : IsToken token := by
  fun_induction scan state chars with
  | case1 => simp at found
  | case2 => simp at found
  | case3 rest ih => exact ih (by simp) found
  | case4 char rest _ ih => exact ih (by simp) (mem_of_mem_text found)
  | case5 seen char rest word ih =>
      refine ih ?_ found
      rintro _ ⟨⟩
      exact List.forall_mem_append.mpr ⟨goes seen rfl, by simpa using word⟩
  | case6 seen char rest _ closes ih =>
      rcases List.mem_cons.mp found with here | found
      · cases here
        simp only [Bool.and_eq_true, Bool.not_eq_true', List.isEmpty_eq_false_iff] at closes
        exact ⟨closes.2, goes token rfl⟩
      · exact ih (by simp) found
  | case7 seen rest _ _ ih => exact ih (by simp) (mem_of_mem_text found)
  | case8 seen char rest _ _ _ ih =>
      exact ih (by simp) (mem_of_mem_text (mem_of_mem_text found))

theorem mem_scan_iff {token chars : List Char} :
    placeholder token ∈ scan none chars ↔ Holds token chars := by
  constructor
  · intro found
    obtain ⟨before, after, cut⟩ := List.append_of_mem found
    have whole := scan_written none chars
    rw [cut, List.flatMap_append, List.flatMap_cons, ← List.append_assoc] at whole
    exact ⟨isToken_of_mem_scan (by simp) found, _, _, whole⟩
  · rintro ⟨word, before, after, rfl⟩
    rw [List.append_assoc, scan_placeholder word]
    simp

/-- Every text is free of placeholders or has one between two shorter texts. -/
theorem byPlaceholders {motive : List Char → Prop}
    (free : ∀ chars, (∀ token, ¬Holds token chars) → motive chars)
    (filled : ∀ before token after, IsToken token → motive before → motive after →
      motive (before ++ ((placeholder token).written ++ after)))
    (chars : List Char) : motive chars := by
  -- both sides of a placeholder are shorter than the whole
  induction length : chars.length using Nat.strong_induction_on generalizing chars with
  | _ length ih =>
      by_cases some : ∃ token, Holds token chars
      · obtain ⟨token, word, before, after, rfl⟩ := some
        rw [List.append_assoc]
        simp only [List.length_append, written, List.length_cons] at length
        apply filled before token after word
        · exact ih before.length (by omega) before rfl
        · exact ih after.length (by omega) after rfl
      · exact free chars fun token holds => some ⟨token, holds⟩

section Filling

variable {arguments : List Argument}

theorem fillAll_append (first later : List Piece) :
    fillAll arguments (first ++ later) = (fillAll arguments first).bind fun start =>
      (fillAll arguments later).map (start ++ ·) := by
  induction first with
  | nil => cases filled : fillAll arguments later <;> simp [fillAll, filled, Except.bind, Except.map]
  | cons piece rest ih =>
      rw [List.cons_append, fillAll, ih, fillAll]
      cases fill arguments piece with
      | error fault => rfl
      | ok start =>
          cases fillAll arguments rest with
          | error fault => rfl
          | ok middle => cases fillAll arguments later <;> simp [Except.bind, Except.map]

theorem fillAll_of_texts (arguments : List Argument) {pieces : List Piece}
    (texts : ∀ token, placeholder token ∉ pieces) :
    fillAll arguments pieces = .ok (pieces.flatMap written) := by
  induction pieces with
  | nil => rfl
  | cons piece rest ih =>
      have later := ih fun token found => texts token (List.mem_cons_of_mem _ found)
      cases piece with
      | text chars => rw [fillAll, later]; rfl
      | placeholder token => exact absurd List.mem_cons_self (texts token)

theorem fillAll_returns_iff {pieces : List Piece} :
    Returns (fillAll arguments pieces) ↔ ∀ piece ∈ pieces, Returns (fill arguments piece) := by
  induction pieces with
  | nil => simp [fillAll]
  | cons piece rest ih =>
      rw [fillAll, returns_bind, List.forall_mem_cons, ← ih]
      constructor
      · rintro ⟨start, filled, later⟩
        exact ⟨⟨start, filled⟩, returns_map.mp later⟩
      · rintro ⟨⟨start, filled⟩, later⟩
        exact ⟨start, filled, returns_map.mpr later⟩

theorem fillAll_scan_free {chars : List Char} (free : ∀ token, ¬Holds token chars) :
    fillAll arguments (scan none chars) = .ok chars := by
  have texts : ∀ token, placeholder token ∉ scan none chars :=
    fun token found => free token (mem_scan_iff.mp found)
  rw [fillAll_of_texts arguments texts, scan_written]
  rfl

theorem fillAll_scan_split (arguments : List Argument) {token : List Char} (word : IsToken token)
    (before after : List Char) :
    fillAll arguments (scan none (before ++ ((placeholder token).written ++ after))) =
      (fillAll arguments (scan none before)).bind fun start =>
        (fill arguments (placeholder token)).bind fun middle =>
          (fillAll arguments (scan none after)).map fun rest => start ++ (middle ++ rest) := by
  rw [scan_placeholder word, fillAll_append, fillAll]
  cases fillAll arguments (scan none before) with
  | error fault => rfl
  | ok start =>
      cases fill arguments (placeholder token) with
      | error fault => rfl
      | ok middle => cases fillAll arguments (scan none after) <;> rfl

theorem substitute?_of_number {token : List Char} (digits : token.all Text.isDigitSign = true) :
    substitute? arguments token = (Whole.read token).bind (indexed? arguments) := by
  rw [substitute?, if_pos digits]

theorem substitute?_of_name {token : List Char} (word : ¬token.all Text.isDigitSign = true) :
    substitute? arguments token =
      .ok ((Argument.keyeds arguments).lookup (String.ofList token)) := by
  rw [substitute?, if_neg word]

/-- A token that looks like an index and is not read as one, or that is the index of an argument
with an integer that is too long. -/
structure Faulty (arguments : List Argument) (token : List Char) (fault : Whole.Fault) : Prop where
  word : IsToken token
  digits : ∀ char ∈ token, Text.isDigitSign char = true
  failed : Whole.Misread token fault ∨ ∃ index argument, Whole.read token = .ok index ∧
    arguments[index]? = some argument ∧ argument.writable = false ∧ fault = .unwritable

theorem argumentText_error_iff {argument : Argument} {fault : Whole.Fault} :
    argumentText argument = .error fault ↔ argument.writable = false ∧ fault = .unwritable := by
  cases argument with
  | positional value => exact Whole.ifWritable_error_iff
  | keyed key text => simp [argumentText, Argument.writable]

theorem indexed?_error_iff {index : Nat} {fault : Whole.Fault} :
    indexed? arguments index = .error fault ↔ ∃ argument, arguments[index]? = some argument ∧
      argument.writable = false ∧ fault = .unwritable := by
  unfold indexed?
  cases found : arguments[index]? with
  | none => simp
  | some argument => simp [map_error_iff, argumentText_error_iff]

theorem fill_error_iff {token : List Char} (word : IsToken token) {fault : Whole.Fault} :
    fill arguments (placeholder token) = .error fault ↔ Faulty arguments token fault := by
  rw [fill, map_error_iff]
  by_cases digits : token.all Text.isDigitSign = true
  · rw [substitute?_of_number digits, bind_error_iff, Whole.read_error_iff]
    simp only [indexed?_error_iff]
    constructor
    · rintro (misread | ⟨index, read, argument, found, long, rfl⟩)
      · exact ⟨word, List.all_eq_true.mp digits, Or.inl misread⟩
      · exact ⟨word, List.all_eq_true.mp digits, Or.inr ⟨index, argument, read, found, long, rfl⟩⟩
    · rintro ⟨_, _, misread | ⟨index, argument, read, found, long, rfl⟩⟩
      · exact Or.inl misread
      · exact Or.inr ⟨index, read, argument, found, long, rfl⟩
  · rw [substitute?_of_name digits]
    constructor
    · intro failed
      cases failed
    · intro faulty
      exact absurd (List.all_eq_true.mpr faulty.digits) digits

theorem returns_fill_iff {token : List Char} (word : IsToken token) :
    Returns (fill arguments (placeholder token)) ↔ ∀ fault, ¬Faulty arguments token fault := by
  rw [← not_iff_not, not_returns_iff]
  simp only [fill_error_iff word, not_forall, not_not]

theorem returns_scan_iff {chars : List Char} :
    Returns (fillAll arguments (scan none chars)) ↔
      ∀ token fault, Holds token chars → ¬Faulty arguments token fault := by
  rw [fillAll_returns_iff]
  constructor
  · intro each token fault holds
    exact (returns_fill_iff holds.1).mp (each _ (mem_scan_iff.mpr holds)) fault
  · intro sound piece found
    cases piece with
    | text content => exact returns_ok content
    | placeholder token =>
        have holds := mem_scan_iff.mp found
        exact (returns_fill_iff holds.1).mpr fun fault => sound token fault holds

def FirstFaulty (arguments : List Argument) (chars : List Char) (fault : Whole.Fault) : Prop :=
  ∃ before token after, chars = before ++ ((placeholder token).written ++ after) ∧
    Faulty arguments token fault ∧
      ∀ earlier other, Holds earlier before → ¬Faulty arguments earlier other

theorem scan_error_iff (chars : List Char) (fault : Whole.Fault) :
    fillAll arguments (scan none chars) = .error fault ↔ FirstFaulty arguments chars fault := by
  constructor
  · intro failed
    induction chars using byPlaceholders with
    | free chars free =>
        rw [fillAll_scan_free free] at failed
        cases failed
    | filled before token after word beforeIh afterIh =>
        rw [fillAll_scan_split arguments word, bind_error_iff] at failed
        -- the fault is before the placeholder, in it, or after it
        rcases failed with failed | ⟨start, started, failed⟩
        · obtain ⟨first, own, last, rfl, faulty, sound⟩ := beforeIh failed
          exact ⟨first, own, last ++ ((placeholder token).written ++ after), by simp, faulty, sound⟩
        · have sound := returns_scan_iff.mp ⟨start, started⟩
          rw [bind_error_iff] at failed
          rcases failed with failed | ⟨middle, filled, failed⟩
          · exact ⟨before, token, after, rfl, (fill_error_iff word).mp failed, sound⟩
          · obtain ⟨first, own, last, rfl, faulty, laterSound⟩ := afterIh (map_error_iff.mp failed)
            refine ⟨before ++ ((placeholder token).written ++ first), own, last, by simp, faulty, ?_⟩
            -- what precedes the fault is filled in, so it holds no other fault
            have ended : Returns (fillAll arguments (scan none first)) :=
              returns_scan_iff.mpr laterSound
            obtain ⟨later, done⟩ := ended
            apply returns_scan_iff.mp
            refine ⟨start ++ (middle ++ later), ?_⟩
            rw [fillAll_scan_split arguments word, started, Except.bind, filled, Except.bind, done,
              Except.map]
  · rintro ⟨before, token, after, rfl, faulty, sound⟩
    have filled : Returns (fillAll arguments (scan none before)) := returns_scan_iff.mpr sound
    obtain ⟨start, started⟩ := filled
    rw [fillAll_scan_split arguments faulty.word, started, Except.bind,
      (fill_error_iff faulty.word).mpr faulty]
    rfl

/-- A token that is no index of an argument and no key of one. -/
inductive StandsForNothing (arguments : List Argument) (token : List Char) : Prop
  | index {number : Nat} (digits : Text.natural? token = some number)
      (beyond : arguments.length ≤ number)
  | name (word : ∃ char ∈ token, Text.isDigitSign char = false)
      (unknown : ∀ content, .keyed (String.ofList token) content ∉ arguments)

theorem fill_of_nothing {token content : List Char} (nothing : StandsForNothing arguments token)
    (filled : fill arguments (placeholder token) = .ok content) :
    content = (placeholder token).written := by
  rw [fill, map_ok_iff] at filled
  obtain ⟨found, meant, rfl⟩ := filled
  suffices none : found = none by rw [none]
  cases nothing with
  | @index number digits beyond =>
      have decimals := (Text.natural?_isSome_iff token).mp (by simp [digits])
      have signs : token.all Text.isDigitSign = true := by
        rw [List.all_eq_true]
        intro char member
        simp [Text.isDigitSign, decimals char member]
      rw [substitute?_of_number signs, bind_ok_iff] at meant
      obtain ⟨index, read, meant⟩ := meant
      have same := Whole.natural?_of_read read
      rw [digits] at same
      cases same
      rw [indexed?, List.getElem?_eq_none beyond] at meant
      cases meant
      rfl
  | name word unknown =>
      obtain ⟨char, member, letter⟩ := word
      have named : ¬token.all Text.isDigitSign = true := by
        intro signs
        simp [List.all_eq_true.mp signs char member] at letter
      rw [substitute?_of_name named, Argument.lookup_of_unknown unknown] at meant
      cases meant
      rfl

end Filling

end Piece

theorem fillTemplate_ofList (chars : List Char) (arguments : List Argument) :
    fillTemplate (String.ofList chars) arguments =
      (Piece.fillAll arguments (Piece.scan none chars)).map String.ofList := by
  rw [fillTemplate, String.toList_ofList]

/-- A template is filled in, unless a placeholder in it looks like an index and is none, or is the
index of an argument that cannot be written: then the first of these is to blame. Text without
placeholders stays, and so does a placeholder that stands for nothing, between what is made of the
text before it and of the text after it. -/
theorem unknown_placeholders_stay (template : String) (arguments : List Argument) :
    (Returns (fillTemplate template arguments) ↔
      ∀ token fault, Piece.Holds token template.toList → ¬Piece.Faulty arguments token fault) ∧
    (∀ fault, fillTemplate template arguments = .error fault ↔
      Piece.FirstFaulty arguments template.toList fault) ∧
    ((∀ token, ¬Piece.Holds token template.toList) →
      fillTemplate template arguments = .ok template) ∧
    ∀ before token after text, Piece.IsToken token → Piece.StandsForNothing arguments token →
      template.toList = before ++ ((Piece.placeholder token).written ++ after) →
      fillTemplate template arguments = .ok text →
      ∃ start rest, fillTemplate (String.ofList before) arguments = .ok start ∧
        fillTemplate (String.ofList after) arguments = .ok rest ∧
        text = start ++ String.ofList (Piece.placeholder token).written ++ rest := by
  refine ⟨?_, ?_, ?_, ?_⟩
  · rw [fillTemplate, returns_map]
    exact Piece.returns_scan_iff
  · intro fault
    rw [fillTemplate, map_error_iff]
    exact Piece.scan_error_iff template.toList fault
  · intro free
    rw [fillTemplate, Piece.fillAll_scan_free free, Except.map, String.ofList_toList]
  · intro before token after text word nothing parts filled
    rw [fillTemplate, parts, map_ok_iff] at filled
    obtain ⟨chars, filled, rfl⟩ := filled
    rw [Piece.fillAll_scan_split arguments word, bind_ok_iff] at filled
    obtain ⟨start, started, filled⟩ := filled
    obtain ⟨middle, own, filled⟩ := bind_ok_iff.mp filled
    obtain ⟨rest, ended, rfl⟩ := map_ok_iff.mp filled
    refine ⟨String.ofList start, String.ofList rest, ?_, ?_, ?_⟩
    · rw [fillTemplate_ofList, started, Except.map]
    · rw [fillTemplate_ofList, ended, Except.map]
    · rw [Piece.fill_of_nothing nothing own, ← String.ofList_append, ← String.ofList_append,
        List.append_assoc]

example : fillTemplate "\x7b²\x7d" [] = .error (.notDecimal ['²']) := by decide +kernel

end RecordCheck
