import RecordCheck.Proofs.Directive.Arguments
import RecordCheck.Proofs.Outcome

/-!
The grammar of directives, said without the reader: clauses joined by bars, each of them bare text
or a head with arguments in brackets. Main statement: a text is read exactly when it is blank or has
such a decomposition, there is then only one, and its clauses write the directives that are read.
-/

namespace RecordCheck.Directive

/-- What stands between two bars. -/
inductive Clause
  | bare (text : List Char)
  | bracketed (head arguments tail : List Char)

namespace Clause

def chars : Clause → List Char
  | bare text => text
  | bracketed head arguments tail => head ++ '[' :: (arguments ++ ']' :: tail)

def head : Clause → List Char
  | bare text => text
  | bracketed head _ _ => head

def arguments : Clause → List Char
  | bare _ => []
  | bracketed _ arguments _ => arguments

/-- Brackets stand only where they are meant to, the head names something, and only blanks follow
the closing bracket. -/
inductive Proper : Clause → Prop
  | bare {text} : Text.allBlank text = false → Text.Avoids ['[', ']', '|'] text → Proper (bare text)
  | bracketed {head arguments tail} : Text.allBlank head = false →
      Text.Avoids ['[', ']', '|'] head → Text.Avoids ['[', ']'] arguments →
      Text.allBlank tail = true → Proper (bracketed head arguments tail)

/-- The directive that a clause writes: its head without the blanks around it, and its arguments. -/
structure Writes (clause : Clause) (directive : Directive) : Prop where
  name : directive.name = String.ofList (Text.trim clause.head)
  arguments : WritesArguments clause.arguments directive.arguments

/-- A text is proper clauses, at least one, joined by bars. -/
structure Decompose (clauses : List Clause) (text : List Char) : Prop where
  some : clauses ≠ []
  proper : ∀ clause ∈ clauses, clause.Proper
  joined : ['|'].intercalate (clauses.map chars) = text

end Clause

theorem isNameChar_iff (char : Char) : isNameChar char = true ↔ char ∉ ['[', ']', '|'] := by
  simp [isNameChar, and_assoc]

theorem isArgumentChar_iff (char : Char) : isArgumentChar char = true ↔ char ∉ ['[', ']'] := by
  simp [isArgumentChar]

theorem avoids_of_allBlank {chars : List Char} (blank : Text.allBlank chars = true) :
    Text.Avoids ['[', ']', '|'] chars := by
  intro char member listed
  have solid : Text.isBlank char = false := by
    simp only [List.mem_cons, List.not_mem_nil, or_false] at listed
    rcases listed with rfl | rfl | rfl <;> rfl
  rw [List.all_eq_true.mp blank char member] at solid
  cases solid

section Split

/-- Characters that neither open nor close a bracket, nor separate, go into the first part. -/
theorem split_append {inside : Bool} {chars : List Char}
    (plain : ∀ char ∈ chars, char ≠ '[' ∧ char ≠ ']' ∧ (inside = false → char ≠ '|'))
    (rest : List Char) :
    split inside (chars ++ rest) = (split inside rest).map (chars.foldr extend) := by
  induction chars with
  | nil => cases h : split inside rest <;> simp [h, Except.map]
  | cons char later ih =>
      obtain ⟨notOpen, notClose, notBar⟩ := plain char List.mem_cons_self
      have bar : (char = '|' && !inside) = false := by
        cases inside <;> simp_all
      rw [List.cons_append, split, if_neg notOpen, if_neg notClose, bar,
        ih fun other member => plain other (List.mem_cons_of_mem _ member)]
      cases split inside rest <;> rfl

theorem split_outside {chars : List Char} (free : Text.Avoids ['[', ']', '|'] chars)
    (rest : List Char) :
    split false (chars ++ rest) = (split false rest).map (chars.foldr extend) :=
  split_append (fun char member => by simpa using free char member) rest

theorem split_inside {chars : List Char} (free : Text.Avoids ['[', ']'] chars)
    (rest : List Char) :
    split true (chars ++ rest) = (split true rest).map (chars.foldr extend) :=
  split_append (fun char member => by simpa using free char member) rest

theorem foldr_extend (chars part : List Char) (parts : List (List Char)) :
    chars.foldr extend (part :: parts) = (chars ++ part) :: parts := by
  induction chars with
  | nil => rfl
  | cons char rest ih => rw [List.foldr_cons, ih]; rfl

/-- A clause goes into the first part as a whole: its brackets are closed at its end. -/
theorem split_clause {clause : Clause} (proper : clause.Proper) (rest : List Char) :
    split false (clause.chars ++ rest) = (split false rest).map (clause.chars.foldr extend) := by
  cases proper with
  | bare _ free => exact split_outside free rest
  | @bracketed head arguments tail _ headFree argumentsFree tailBlank =>
      have opens : ∀ later, split false ('[' :: later) = (split true later).map (extend '[') :=
        fun later => rfl
      have closes : ∀ later, split true (']' :: later) = (split false later).map (extend ']') :=
        fun later => rfl
      rw [Clause.chars]
      simp only [List.append_assoc, List.cons_append]
      rw [split_outside headFree, opens, split_inside argumentsFree, closes,
        split_outside (avoids_of_allBlank tailBlank)]
      cases split false rest <;> simp [Except.map]

theorem split_joined {clauses : List Clause} (some : clauses ≠ [])
    (proper : ∀ clause ∈ clauses, clause.Proper) :
    split false (['|'].intercalate (clauses.map Clause.chars)) =
      .ok (clauses.map Clause.chars) := by
  induction clauses with
  | nil => exact absurd rfl some
  | cons clause rest ih =>
      have first := split_clause (proper clause List.mem_cons_self)
      cases rest with
      | nil =>
          rw [List.map_cons, List.map_nil, List.intercalate_singleton,
            ← List.append_nil clause.chars, first]
          simp [split, Except.map, foldr_extend]
      | cons next later =>
          have joined := ih (List.cons_ne_nil next later) fun other member =>
            proper other (List.mem_cons_of_mem _ member)
          have bar : ∀ chars, split false ('|' :: chars) = (split false chars).map ([] :: ·) :=
            fun chars => rfl
          rw [List.map_cons] at joined
          rw [List.map_cons, List.map_cons, List.intercalate_cons_cons, List.append_assoc,
            List.singleton_append, first, bar, joined]
          simp [Except.map, foldr_extend]

theorem intercalate_extend (char : Char) {parts : List (List Char)} (some : parts ≠ []) :
    ['|'].intercalate (extend char parts) = char :: ['|'].intercalate parts := by
  obtain ⟨part, rest, rfl⟩ := List.exists_cons_of_ne_nil some
  exact List.intercalate_cons_cons_left

theorem split_ok {inside : Bool} {chars : List Char} {parts : List (List Char)}
    (done : split inside chars = .ok parts) :
    parts ≠ [] ∧ ['|'].intercalate parts = chars := by
  induction chars generalizing inside parts with
  | nil =>
      rw [split] at done
      split at done
      · cases done
      · cases done
        exact ⟨List.cons_ne_nil _ _, rfl⟩
  | cons char rest ih =>
      -- only a bar outside brackets starts a new part; all else goes in front of the first one
      have extended : ∀ {later}, (split later rest).map (extend char) = .ok parts →
          parts ≠ [] ∧ ['|'].intercalate parts = char :: rest := by
        intro later done
        obtain ⟨inner, innerDone, rfl⟩ := map_ok_iff.mp done
        obtain ⟨some, joined⟩ := ih innerDone
        refine ⟨?_, by rw [intercalate_extend char some, joined]⟩
        cases inner <;> simp [extend]
      rw [split] at done
      split at done
      · split at done
        · cases done
        · exact extended done
      · split at done
        · split at done
          · exact extended done
          · cases done
        · split at done
          · rename_i bar
            obtain ⟨inner, innerDone, rfl⟩ := map_ok_iff.mp done
            obtain ⟨some, joined⟩ := ih innerDone
            have isBar : char = '|' := by simp_all
            refine ⟨List.cons_ne_nil _ _, ?_⟩
            rw [List.intercalate_cons_of_ne_nil some, joined, isBar]
            rfl
          · exact extended done

end Split

namespace Clause

def directive (clause : Clause) : Directive :=
  ⟨String.ofList (Text.trim clause.head), readArguments clause.arguments⟩

theorem writes_iff {clause : Clause} {directive : Directive} :
    clause.Writes directive ↔ clause.directive = directive := by
  obtain ⟨name, arguments⟩ := directive
  constructor
  · rintro ⟨named, listed⟩
    rw [Clause.directive, writesArguments_iff.mp listed]
    exact congrArg (Directive.mk · arguments) named.symm
  · intro same
    cases same
    exact ⟨rfl, writesArguments_iff.mpr rfl⟩

end Clause

theorem readPart_chars {clause : Clause} (proper : clause.Proper) :
    readPart clause.chars = some clause.directive := by
  cases proper with
  | @bare text named free =>
      have some : Text.trim text ≠ [] := by
        rw [Ne, Text.trim_eq_nil_iff, named]
        exact Bool.false_ne_true
      have nameChars : ∀ char ∈ Text.trim text, isNameChar char = true := fun char member =>
        (isNameChar_iff char).mpr (free char (Text.trim_subset text member))
      rw [readPart, Clause.chars, List.takeWhile_eq_self_iff.mpr nameChars,
        List.dropWhile_eq_nil_iff.mpr nameChars, if_neg (by simpa using some), Text.trim_trim]
      rfl
  | @bracketed head arguments tail named headFree argumentsFree tailBlank =>
      have body : Text.trim (head ++ '[' :: (arguments ++ ']' :: tail)) =
          head.dropWhile Text.isBlank ++ '[' :: (arguments ++ [']']) := by
        have trimmed := Text.trim_append (show Text.allBlank [] = true from rfl) tailBlank
          (head ++ (('[' :: arguments) ++ [']']))
        rw [Text.trim_append_solid named ('[' :: arguments) (by decide)] at trimmed
        simpa using trimmed
      have some : head.dropWhile Text.isBlank ≠ [] := by
        rw [Ne, Text.dropWhile_isBlank_eq_nil_iff, named]
        exact Bool.false_ne_true
      have opens : ∀ char, ('[' :: (arguments ++ [']'])).head? = Option.some char →
          isNameChar char = false := by
        intro char first
        cases first
        decide
      have closes : ∀ char, [']'].head? = Option.some char → isArgumentChar char = false := by
        intro char first
        cases first
        decide
      have name := Text.cut_at_stop isNameChar (fun char member => (isNameChar_iff char).mpr
        (headFree char ((List.dropWhile_suffix Text.isBlank).subset member))) opens
      have listed := Text.cut_at_stop isArgumentChar
        (fun char member => (isArgumentChar_iff char).mpr (argumentsFree char member)) closes
      simp only [readPart, Clause.chars, body, name.1, name.2, listed.1, listed.2, if_true]
      rw [if_neg (by simpa using some), Text.trim_dropWhile]
      rfl

theorem not_allBlank_of_trim {part name rest : List Char} (body : Text.trim part = name ++ rest)
    (some : name ≠ []) : Text.allBlank name = false := by
  obtain ⟨first, later, rfl⟩ := List.exists_cons_of_ne_nil some
  have head : (Text.trim part).head? = Option.some first := by
    rw [body]
    rfl
  simp [Text.allBlank, Text.isBlank_of_head_trim head]

theorem Clause.Proper.padded {clause : Clause} (proper : clause.Proper) {lead trail : List Char}
    (leadBlank : Text.allBlank lead = true) (trailBlank : Text.allBlank trail = true) :
    ∃ padded : Clause, padded.Proper ∧ padded.chars = lead ++ clause.chars ++ trail := by
  have leadFree := avoids_of_allBlank leadBlank
  have trailFree := avoids_of_allBlank trailBlank
  cases proper with
  | @bare text named free =>
      refine ⟨.bare (lead ++ text ++ trail), .bare ?_ ?_, rfl⟩
      · simp [Text.allBlank_append, named]
      · exact Text.avoids_append.mpr ⟨Text.avoids_append.mpr ⟨leadFree, free⟩, trailFree⟩
  | @bracketed head arguments tail named headFree argumentsFree tailBlank =>
      refine ⟨.bracketed (lead ++ head) arguments (tail ++ trail), .bracketed ?_ ?_ argumentsFree ?_,
        by simp [chars]⟩
      · rw [Text.allBlank_append, named, Bool.and_false]
      · exact Text.avoids_append.mpr ⟨leadFree, headFree⟩
      · rw [Text.allBlank_append, tailBlank, trailBlank]
        rfl

/-- What is read of a part without the blanks around it is a proper clause. -/
theorem clause_of_body {part : List Char} {directive : Directive}
    (read : readPart part = some directive) :
    ∃ clause : Clause, clause.Proper ∧ clause.chars = Text.trim part := by
  have body := (List.takeWhile_append_dropWhile (p := isNameChar) (l := Text.trim part)).symm
  have nameFree : Text.Avoids ['[', ']', '|'] ((Text.trim part).takeWhile isNameChar) :=
    fun char member => (isNameChar_iff char).mp (List.all_eq_true.mp List.all_takeWhile char member)
  simp only [readPart] at read
  generalize (Text.trim part).takeWhile isNameChar = name at body nameFree read
  generalize (Text.trim part).dropWhile isNameChar = rest at body read
  split at read
  · cases read
  · rename_i some
    have named := not_allBlank_of_trim body (by simpa using some)
    split at read
    · exact ⟨.bare name, .bare named nameFree, by rw [body, List.append_nil]; rfl⟩
    · rename_i written
      split at read
      · rename_i closed
        have inner := List.takeWhile_append_dropWhile (p := isArgumentChar) (l := written)
        have argumentsFree : Text.Avoids ['[', ']'] (written.takeWhile isArgumentChar) :=
          fun char member =>
            (isArgumentChar_iff char).mp (List.all_eq_true.mp List.all_takeWhile char member)
        rw [closed] at inner
        refine ⟨.bracketed name (written.takeWhile isArgumentChar) [],
          .bracketed named nameFree argumentsFree rfl, ?_⟩
        rw [body, Clause.chars, inner]
      · cases read
    · cases read

theorem clause_of_readPart {part : List Char} {directive : Directive}
    (read : readPart part = some directive) :
    ∃ clause : Clause, clause.Proper ∧ clause.chars = part := by
  obtain ⟨lead, trail, leadBlank, trailBlank, whole⟩ := Text.eq_append_trim_append part
  obtain ⟨clause, proper, body⟩ := clause_of_body read
  obtain ⟨padded, paddedProper, chars⟩ := proper.padded leadBlank trailBlank
  exact ⟨padded, paddedProper, by rw [chars, body, ← whole]⟩

/-- The reader takes a part exactly if it is a proper clause. -/
theorem readPart_eq_some_iff {part : List Char} {directive : Directive} :
    readPart part = some directive ↔
      ∃ clause : Clause, clause.Proper ∧ clause.chars = part ∧ clause.directive = directive := by
  constructor
  · intro read
    obtain ⟨clause, proper, rfl⟩ := clause_of_readPart read
    rw [readPart_chars proper] at read
    exact ⟨clause, proper, rfl, Option.some.inj read⟩
  · rintro ⟨clause, proper, rfl, rfl⟩
    exact readPart_chars proper

theorem readParts_chars {clauses : List Clause} (proper : ∀ clause ∈ clauses, clause.Proper) :
    readParts (clauses.map Clause.chars) = .ok (clauses.map Clause.directive) := by
  induction clauses with
  | nil => rfl
  | cons clause rest ih =>
      have later := ih fun other member => proper other (List.mem_cons_of_mem _ member)
      rw [List.map_cons, readParts, readPart_chars (proper clause List.mem_cons_self)]
      simp only [later, Except.map, List.map_cons]

theorem clauses_of_readParts {parts : List (List Char)} {directives : List Directive}
    (read : readParts parts = .ok directives) :
    ∃ clauses : List Clause, (∀ clause ∈ clauses, clause.Proper) ∧
      clauses.map Clause.chars = parts := by
  induction parts generalizing directives with
  | nil => exact ⟨[], by simp, rfl⟩
  | cons part rest ih =>
      rw [readParts] at read
      split at read
      · cases read
      · rename_i first firstRead
        obtain ⟨_, laterRead, _⟩ := map_ok_iff.mp read
        obtain ⟨clause, proper, rfl, _⟩ := readPart_eq_some_iff.mp firstRead
        obtain ⟨clauses, allProper, rfl⟩ := ih laterRead
        exact ⟨clause :: clauses, List.forall_mem_cons.mpr ⟨proper, allProper⟩, rfl⟩

namespace Clause

theorem Proper.solid {clause : Clause} (proper : clause.Proper) :
    Text.allBlank clause.chars = false := by
  cases proper with
  | bare named _ => exact named
  | bracketed named _ _ _ => rw [chars, Text.allBlank_append, named, Bool.false_and]

theorem Decompose.solid {clauses : List Clause} {text : List Char}
    (decompose : Decompose clauses text) : Text.allBlank text = false := by
  obtain ⟨some, proper, rfl⟩ := decompose
  obtain ⟨clause, rest, rfl⟩ := List.exists_cons_of_ne_nil some
  have first := (proper clause List.mem_cons_self).solid
  cases rest with
  | nil => rwa [List.map_cons, List.map_nil, List.intercalate_singleton]
  | cons next later =>
      rw [List.map_cons, List.map_cons, List.intercalate_cons_cons, List.append_assoc,
        Text.allBlank_append, first, Bool.false_and]

theorem Proper.eq_of_chars {clause other : Clause} (proper : clause.Proper)
    (otherProper : other.Proper) (same : clause.chars = other.chars) : clause = other := by
  have bracket : ∀ {text before after : List Char}, Text.Avoids ['[', ']', '|'] text →
      text ≠ before ++ '[' :: after := by
    rintro text before after free rfl
    simp at free
  cases proper with
  | bare _ free =>
      cases otherProper with
      | bare _ _ => exact congrArg Clause.bare same
      | bracketed _ _ _ _ => exact absurd same (bracket free)
  | @bracketed head arguments tail _ headFree argumentsFree _ =>
      cases otherProper with
      | bare _ free => exact absurd same.symm (bracket free)
      | @bracketed otherHead otherArguments otherTail _ otherHeadFree otherArgumentsFree _ =>
          have goes : ∀ {banned text : List Char} {stop : Char}, Text.Avoids banned text →
              stop ∈ banned → ∀ char ∈ text, ¬char = stop := by
            rintro banned text stop free listed char member rfl
            exact free char member listed
          have stops : ∀ {stop : Char} {after : List Char} (char : Char),
              (stop :: after).head? = some char → char = stop :=
            fun char head => (Option.some.inj head).symm
          obtain ⟨heads, rests⟩ := Text.cut_unique (· = '[') (goes headFree (by simp))
            (goes otherHeadFree (by simp)) stops stops same
          obtain ⟨inner, tails⟩ := Text.cut_unique (· = ']') (goes argumentsFree (by simp))
            (goes otherArgumentsFree (by simp)) stops stops (List.cons.inj rests).2
          rw [heads, inner, (List.cons.inj tails).2]

theorem Decompose.unique {clauses others : List Clause} {text : List Char}
    (decompose : Decompose clauses text) (otherwise : Decompose others text) :
    clauses = others := by
  -- the texts of both are the parts that splitting gives, and each part is one clause only
  have parts := split_joined decompose.some decompose.proper
  rw [decompose.joined, ← otherwise.joined, split_joined otherwise.some otherwise.proper] at parts
  have same : others.map chars = clauses.map chars := Except.ok.inj parts
  have proper := decompose.proper
  have otherProper := otherwise.proper
  clear decompose otherwise parts
  induction clauses generalizing others with
  | nil => exact (List.map_eq_nil_iff.mp same).symm
  | cons clause rest ih =>
      cases others with
      | nil => cases same
      | cons other later =>
          obtain ⟨first, laters⟩ := List.cons.inj same
          rw [(proper clause List.mem_cons_self).eq_of_chars
            (otherProper other List.mem_cons_self) first.symm,
            ih laters (fun next member => proper next (List.mem_cons_of_mem _ member))
              fun next member => otherProper next (List.mem_cons_of_mem _ member)]

end Clause

theorem readChars_of_decompose {clauses : List Clause} {text : List Char}
    (decompose : Clause.Decompose clauses text) :
    readChars text = .ok (clauses.map Clause.directive) := by
  rw [readChars, decompose.solid, if_neg Bool.false_ne_true, ← decompose.joined,
    split_joined decompose.some decompose.proper]
  exact readParts_chars decompose.proper

theorem decompose_of_readChars {text : List Char} {directives : List Directive}
    (solid : Text.allBlank text = false) (read : readChars text = .ok directives) :
    ∃ clauses, Clause.Decompose clauses text := by
  rw [readChars, solid, if_neg Bool.false_ne_true] at read
  obtain ⟨parts, splits, partsRead⟩ := bind_ok_iff.mp read
  obtain ⟨some, joined⟩ := split_ok splits
  obtain ⟨clauses, proper, rfl⟩ := clauses_of_readParts partsRead
  exact ⟨clauses, by simpa using some, proper, joined⟩

theorem readChars_ok_iff {text : List Char} {directives : List Directive} :
    readChars text = .ok directives ↔ (Text.allBlank text = true ∧ directives = []) ∨
      ∃ clauses, Clause.Decompose clauses text ∧
        List.Forall₂ Clause.Writes clauses directives := by
  have writes : ∀ clauses : List Clause,
      List.Forall₂ Clause.Writes clauses directives ↔ clauses.map Clause.directive = directives := by
    intro clauses
    rw [← forall₂_iff_map]
    constructor
    · exact fun each => each.imp fun _ _ writes => Clause.writes_iff.mp writes
    · exact fun each => each.imp fun _ _ same => Clause.writes_iff.mpr same
  constructor
  · intro read
    cases solid : Text.allBlank text with
    | true =>
        rw [readChars, solid, if_pos rfl] at read
        exact Or.inl ⟨rfl, (Except.ok.inj read).symm⟩
    | false =>
        obtain ⟨clauses, decompose⟩ := decompose_of_readChars solid read
        rw [readChars_of_decompose decompose] at read
        exact Or.inr ⟨clauses, decompose, (writes clauses).mpr (Except.ok.inj read)⟩
  · rintro (⟨blank, rfl⟩ | ⟨clauses, decompose, each⟩)
    · rw [readChars, blank, if_pos rfl]
    · rw [readChars_of_decompose decompose, (writes clauses).mp each]

theorem ofValue_text_ok_iff {text : String} {directives : List Directive} :
    ofValue (.text text) = .ok directives ↔ readChars text.toList = .ok directives := by
  rw [ofValue, mapError_ok_iff, Directive.read, mapError_ok_iff]

/-- A text is read exactly when it is blank, which gives no directives, or when it has a
decomposition into clauses, which write the directives in order. There is at most one decomposition,
and a text that is neither is refused as malformed. -/
theorem read_exactly_grammar (text : String) :
    (∀ directives, ofValue (.text text) = .ok directives ↔
      (Text.allBlank text.toList = true ∧ directives = []) ∨
        ∃ clauses, Clause.Decompose clauses text.toList ∧
          List.Forall₂ Clause.Writes clauses directives) ∧
    ((∃ directives, ofValue (.text text) = .ok directives) ↔
      Text.allBlank text.toList = true ∨ ∃ clauses, Clause.Decompose clauses text.toList) ∧
    (∀ clauses others, Clause.Decompose clauses text.toList →
      Clause.Decompose others text.toList → clauses = others) ∧
    ((∃ fault, ofValue (.text text) = .error (.malformed ⟨text, fault⟩)) ↔
      Text.allBlank text.toList = false ∧ ¬∃ clauses, Clause.Decompose clauses text.toList) := by
  have returns : (∃ directives, ofValue (.text text) = .ok directives) ↔
      Text.allBlank text.toList = true ∨ ∃ clauses, Clause.Decompose clauses text.toList := by
    constructor
    · rintro ⟨directives, read⟩
      rcases readChars_ok_iff.mp (ofValue_text_ok_iff.mp read) with ⟨blank, _⟩ | ⟨clauses, found, _⟩
      · exact Or.inl blank
      · exact Or.inr ⟨clauses, found⟩
    · rintro (blank | ⟨clauses, decompose⟩)
      · exact ⟨[], ofValue_text_ok_iff.mpr (readChars_ok_iff.mpr (Or.inl ⟨blank, rfl⟩))⟩
      · exact ⟨_, ofValue_text_ok_iff.mpr (readChars_of_decompose decompose)⟩
  refine ⟨fun directives => ofValue_text_ok_iff.trans readChars_ok_iff, returns,
    fun clauses others => Clause.Decompose.unique, ?_⟩
  have refused : (∃ fault, ofValue (.text text) = .error (.malformed ⟨text, fault⟩)) ↔
      ¬∃ directives, ofValue (.text text) = .ok directives := by
    simp only [ofValue, Directive.read, mapError_error_iff, mapError_ok_iff]
    cases readChars text.toList <;> simp
  rw [refused, returns, not_or, Bool.not_eq_true]

end RecordCheck.Directive
