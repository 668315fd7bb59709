import RecordCheck.Proofs.Directive.Grammar

/-!
Writing directives as a text. Each is written as a clause, with a pair of quotes around the text of
each argument. Main statement: the directives that can be written so are exactly those that come out
of reading some text, and reading what was written gives them back.
-/

namespace RecordCheck

namespace Argument

def written : Argument → List Char
  | positional value => '"' :: (value.spelled.toList ++ ['"'])
  | keyed key text => key.toList ++ '=' :: '"' :: (text.toList ++ ['"'])

/-- An argument whose text holds nothing that would end it. -/
inductive Printable : Argument → Prop
  | positional {text : String} : Text.Avoids [',', '[', ']', '='] text.toList →
      Printable (.positional (.text text))
  | keyed {key text : String} : Text.Avoids [',', '[', ']', '='] key.toList →
      Text.Avoids [',', '[', ']'] text.toList → Printable (.keyed key text)

end Argument

namespace Directive

/-- The clause that a directive is written as: its name alone, or its name and its arguments. -/
def clause : Directive → Clause
  | ⟨name, []⟩ => .bare name.toList
  | ⟨name, arguments⟩ =>
      .bracketed name.toList ([','].intercalate (arguments.map Argument.written)) []

def print (directives : List Directive) : String :=
  String.ofList (['|'].intercalate (directives.map fun directive => directive.clause.chars))

/-- A directive with a name that reading leaves as it is, and arguments that can be written. -/
structure Printable (directive : Directive) : Prop where
  named : directive.name ≠ ""
  trimmed : Text.trim directive.name.toList = directive.name.toList
  plain : Text.Avoids ['[', ']', '|'] directive.name.toList
  arguments : ∀ argument ∈ directive.arguments, argument.Printable

section Written

theorem writesArgument_written {argument : Argument} (printable : argument.Printable) :
    WritesArgument argument.written argument := by
  have quoted : ∀ text : String, StandsFor ('"' :: (text.toList ++ ['"'])) text.toList :=
    fun text => .quoted (by decide)
  cases printable with
  | @positional text free =>
      have keyless : '=' ∉ Argument.written (.positional (.text text)) := by
        intro member
        have inside : '=' ∈ text.toList := by
          simpa [Argument.written, Value.spelled] using member
        exact free '=' inside (by simp)
      have writes := WritesArgument.positional keyless (quoted text)
      rwa [String.ofList_toList] at writes
  | @keyed key text keyFree _ =>
      have keyless : '=' ∉ key.toList := fun member => keyFree '=' member (by simp)
      have writes := WritesArgument.keyed keyless (quoted text)
      rwa [String.ofList_toList, String.ofList_toList] at writes

theorem written_free {argument : Argument} (printable : argument.Printable) :
    Text.Avoids [',', '[', ']'] argument.written := by
  cases printable with
  | @positional text free =>
      have textFree : Text.Avoids [',', '[', ']'] text.toList :=
        free.mono (List.Subset.refl _) (by simp)
      simp [Argument.written, Value.spelled, textFree]
  | @keyed key text keyFree textFree =>
      have keyFree : Text.Avoids [',', '[', ']'] key.toList :=
        keyFree.mono (List.Subset.refl _) (by simp)
      simp [Argument.written, keyFree, textFree]

theorem writesArguments_written {arguments : List Argument} (some : arguments ≠ [])
    (printable : ∀ argument ∈ arguments, argument.Printable) :
    WritesArguments ([','].intercalate (arguments.map Argument.written)) arguments := by
  have listed : [','].intercalate (arguments.map Argument.written) ≠ [] := by
    obtain ⟨first, rest, rfl⟩ := List.exists_cons_of_ne_nil some
    intro empty
    have inside := Text.subset_intercalate (List.mem_map_of_mem (f := Argument.written)
      (List.mem_cons_self (a := first) (l := rest))) ','
    rw [empty, List.subset_nil] at inside
    cases first <;> simp [Argument.written] at inside
  refine .listed listed ?_ ?_
  · intro token member comma
    obtain ⟨argument, inArguments, rfl⟩ := List.mem_map.mp member
    exact written_free (printable argument inArguments) ',' comma (by simp)
  · rw [List.forall₂_map_left_iff, List.forall₂_same]
    exact fun argument member => writesArgument_written (printable argument member)

theorem clause_proper {directive : Directive} (printable : directive.Printable) :
    directive.clause.Proper := by
  obtain ⟨name, arguments⟩ := directive
  obtain ⟨named, trimmed, plain, printable⟩ := printable
  have solid : Text.allBlank name.toList = false := by
    rw [Bool.eq_false_iff, Ne, ← Text.trim_eq_nil_iff, trimmed]
    simpa using named
  cases arguments with
  | nil => exact .bare solid plain
  | cons first rest =>
      refine .bracketed solid plain (.intercalate ?_ (by decide)) rfl
      intro token member
      obtain ⟨argument, listed, rfl⟩ := List.mem_map.mp member
      exact (written_free (printable argument listed)).mono (List.Subset.refl _) (by simp)

theorem clause_head (directive : Directive) : directive.clause.head = directive.name.toList := by
  obtain ⟨name, _ | _⟩ := directive <;> rfl

theorem clause_writes {directive : Directive} (printable : directive.Printable) :
    directive.clause.Writes directive := by
  refine ⟨by rw [clause_head, printable.trimmed, String.ofList_toList], ?_⟩
  have each := printable.arguments
  obtain ⟨name, arguments⟩ := directive
  cases arguments with
  | nil => exact .none
  | cons first rest => exact writesArguments_written (List.cons_ne_nil _ _) each

theorem ofValue_print {directives : List Directive}
    (printable : ∀ directive ∈ directives, directive.Printable) :
    ofValue (.text (print directives)) = .ok directives := by
  rw [ofValue_text_ok_iff, readChars_ok_iff, print, String.toList_ofList]
  cases directives with
  | nil => exact Or.inl ⟨rfl, rfl⟩
  | cons first rest =>
      refine Or.inr ⟨(first :: rest).map clause, ⟨List.cons_ne_nil _ _, ?_, ?_⟩, ?_⟩
      · intro clause member
        obtain ⟨directive, listed, rfl⟩ := List.mem_map.mp member
        exact clause_proper (printable directive listed)
      · rw [List.map_map]
        rfl
      · rw [List.forall₂_map_left_iff, List.forall₂_same]
        exact fun directive member => clause_writes (printable directive member)

end Written

section Read

theorem standsFor_subset {token text : List Char} (stands : StandsFor token text) :
    text ⊆ token := by
  cases stands with
  | quoted _ => exact fun char member => List.mem_cons_of_mem _ (List.mem_append_left _ member)
  | bare _ => exact List.Subset.refl token

theorem printable_of_writesArgument {token : List Char} {argument : Argument}
    (writes : WritesArgument token argument) (free : Text.Avoids [',', '[', ']'] token) :
    argument.Printable := by
  cases writes with
  | @positional token text keyless stands =>
      have inside := standsFor_subset stands
      have textFree : Text.Avoids [',', '[', ']'] text := free.mono inside (List.Subset.refl _)
      have allFree := textFree.also fun equals => keyless (inside equals)
      exact .positional (by rwa [String.toList_ofList])
  | @keyed key token text keyless stands =>
      obtain ⟨keyFree, _, tokenFree⟩ := (Text.avoids_append.trans
        (and_congr_right' Text.avoids_cons)).mp free
      have textFree := tokenFree.mono (standsFor_subset stands) (List.Subset.refl _)
      exact .keyed (by rw [String.toList_ofList]; exact keyFree.also keyless)
        (by rwa [String.toList_ofList])

theorem printable_of_writesArguments {chars : List Char} {arguments : List Argument}
    (writes : WritesArguments chars arguments) (free : Text.Avoids ['[', ']'] chars) :
    ∀ argument ∈ arguments, argument.Printable := by
  cases writes with
  | none => simp
  | @listed tokens arguments _ commaFree each =>
      intro argument member
      obtain ⟨token, inTokens, writes⟩ := exists_of_forall₂ each argument member
      refine printable_of_writesArgument writes fun char inside listed => ?_
      rcases List.mem_cons.mp listed with rfl | bracket
      · exact commaFree token inTokens inside
      · exact free char (Text.subset_intercalate inTokens ',' inside) bracket

theorem printable_of_writes {clause : Clause} (proper : clause.Proper) {directive : Directive}
    (writes : clause.Writes directive) : directive.Printable := by
  have headed : Text.allBlank clause.head = false ∧ Text.Avoids ['[', ']', '|'] clause.head ∧
      Text.Avoids ['[', ']'] clause.arguments := by
    cases proper with
    | bare solid free => exact ⟨solid, free, Text.avoids_nil⟩
    | bracketed solid free argumentsFree _ => exact ⟨solid, free, argumentsFree⟩
  obtain ⟨solid, free, argumentsFree⟩ := headed
  have chars : directive.name.toList = Text.trim clause.head := by
    rw [writes.name, String.toList_ofList]
  refine ⟨?_, ?_, ?_, printable_of_writesArguments writes.arguments argumentsFree⟩
  · intro empty
    rw [empty, String.toList_empty, eq_comm, Text.trim_eq_nil_iff, solid] at chars
    cases chars
  · rw [chars, Text.trim_trim]
  · rw [chars]
    exact free.mono (Text.trim_subset _) (List.Subset.refl _)

theorem printable_of_ofValue {text : String} {directives : List Directive}
    (read : ofValue (.text text) = .ok directives) :
    ∀ directive ∈ directives, directive.Printable := by
  rcases readChars_ok_iff.mp (ofValue_text_ok_iff.mp read) with ⟨_, rfl⟩ | ⟨clauses, found, each⟩
  · simp
  · intro directive member
    obtain ⟨clause, listed, writes⟩ := exists_of_forall₂ each directive member
    exact printable_of_writes (found.proper clause listed) writes

end Read

/-- Directives that can be written are read back from what is written, and they are exactly the
directives that come out of reading some text. -/
theorem printable_iff_read (directives : List Directive) :
    ((∀ directive ∈ directives, directive.Printable) ↔
      ofValue (.text (print directives)) = .ok directives) ∧
    ((∀ directive ∈ directives, directive.Printable) ↔
      ∃ text, ofValue (.text text) = .ok directives) := by
  refine ⟨⟨ofValue_print, printable_of_ofValue⟩, fun printable => ⟨_, ofValue_print printable⟩, ?_⟩
  rintro ⟨text, read⟩
  exact printable_of_ofValue read

end Directive

end RecordCheck
