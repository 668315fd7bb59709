import RecordCheck.Proofs.Directive.Grammar
import RecordCheck.Proofs.Schema.Arrays

/-!
Texts of directives joined by bars. Main statement: texts that can be read, each of them saying
something, are read joined as they are read one by one. So a list of such texts gives a field the
same rules as the one text that joins them.
-/

namespace RecordCheck

namespace Directive

theorem intercalate_append (separator : List Char) {parts others : List (List Char)}
    (some : parts ≠ []) (someOthers : others ≠ []) :
    separator.intercalate (parts ++ others) =
      separator.intercalate parts ++ (separator ++ separator.intercalate others) := by
  induction parts with
  | nil => exact absurd rfl some
  | cons part rest ih =>
      have listed : rest ++ others ≠ [] := by simp [someOthers]
      rw [List.cons_append, List.intercalate_cons_of_ne_nil listed]
      by_cases last : rest = []
      · subst last
        rw [List.nil_append, List.intercalate_singleton, List.append_assoc]
      · rw [ih last, List.intercalate_cons_of_ne_nil last]
        simp only [List.append_assoc]

theorem Clause.Decompose.join {clauses others : List Clause} {text other : List Char}
    (decompose : Decompose clauses text) (later : Decompose others other) :
    Decompose (clauses ++ others) (text ++ '|' :: other) := by
  obtain ⟨some, proper, rfl⟩ := decompose
  obtain ⟨someOthers, properOthers, rfl⟩ := later
  refine ⟨by simp [some], ?_, ?_⟩
  · intro clause member
    rcases List.mem_append.mp member with own | other
    · exact proper clause own
    · exact properOthers clause other
  · rw [List.map_append, intercalate_append ['|'] (by simpa using some) (by simpa using someOthers)]
    rfl

theorem exists_decompose {text : List Char} {directives : List Directive}
    (solid : Text.allBlank text = false) (read : readChars text = .ok directives) :
    ∃ clauses, Clause.Decompose clauses text ∧ clauses.map Clause.directive = directives := by
  obtain ⟨clauses, decompose⟩ := decompose_of_readChars solid read
  rw [readChars_of_decompose decompose] at read
  exact ⟨clauses, decompose, Except.ok.inj read⟩

theorem decompose_joined {texts : List (List Char)} {parses : List (List Directive)}
    (solid : ∀ text ∈ texts, Text.allBlank text = false)
    (read : List.Forall₂ (fun text directives => readChars text = .ok directives) texts parses)
    (some : texts ≠ []) :
    ∃ clauses, Clause.Decompose clauses (['|'].intercalate texts) ∧
      clauses.map Clause.directive = parses.flatten := by
  induction read with
  | nil => exact absurd rfl some
  | @cons text directives rest others own later ih =>
      obtain ⟨ownSolid, laterSolid⟩ := List.forall_mem_cons.mp solid
      obtain ⟨clauses, decompose, written⟩ := exists_decompose ownSolid own
      by_cases last : rest = []
      · subst last
        cases later
        exact ⟨clauses, by simpa using decompose, by simpa using written⟩
      · obtain ⟨laterClauses, laterDecompose, laterWritten⟩ := ih laterSolid last
        refine ⟨clauses ++ laterClauses, ?_, ?_⟩
        · rw [List.intercalate_cons_of_ne_nil last, List.append_assoc, List.singleton_append]
          exact decompose.join laterDecompose
        · rw [List.map_append, written, laterWritten, List.flatten_cons]

/-- Joined texts are read as the texts are read, one after the other; no text at all is blank. -/
theorem readChars_joined {texts : List (List Char)} {parses : List (List Directive)}
    (solid : ∀ text ∈ texts, Text.allBlank text = false)
    (read : List.Forall₂ (fun text directives => readChars text = .ok directives) texts parses) :
    readChars (['|'].intercalate texts) = .ok parses.flatten := by
  by_cases none : texts = []
  · subst none
    cases read
    rfl
  · obtain ⟨clauses, decompose, written⟩ := decompose_joined solid read none
    rw [readChars_of_decompose decompose, written]

end Directive

namespace Draft

theorem rulesOfItems_texts {texts : List String} {parses : List (List Directive)}
    (read : List.Forall₂ (fun text directives => Directive.readChars text.toList = .ok directives)
      texts parses) (path : Path) :
    rulesOfItems path (texts.map .text) = .ok parses.flatten := by
  induction read with
  | nil => rfl
  | @cons text directives rest others own _ ih =>
      have first : rulesOfItem path (.text text) = .ok directives := by
        rw [rulesOfItem, mapError_ok_iff, Directive.read, mapError_ok_iff, own]
      rw [List.map_cons, rulesOfItems, first]
      simp only [Except.bind, ih, Except.map, List.flatten_cons]

theorem compileProperty_congr {entries others : List (Key × Draft)} {path : Path}
    (lookups : ∀ key, key ≠ .text "validation" → entries.lookup key = others.lookup key)
    (further : (entries.filter fun entry => !isPropertyKey entry.1) =
      others.filter fun entry => !isPropertyKey entry.1)
    (rules : rulesOf path ((entries.lookup (.text "validation")).getD .null) =
      rulesOf path ((others.lookup (.text "validation")).getD .null)) :
    compileProperty path (.dict entries) = compileProperty path (.dict others) := by
  have type : declaredType path entries = declaredType path others :=
    declaredType_congr (lookups _ (by decide)) (lookups _ (by decide))
  have item : compileItem path entries = compileItem path others := by
    rw [compileItem_eq, compileItem_eq, lookups _ (by decide)]
  have members : compileMembersIn path entries = compileMembersIn path others := by
    rw [compileMembersIn_eq, compileMembersIn_eq, lookups _ (by decide)]
  have filled : fallback entries = fallback others := fallback_congr (lookups _ (by decide))
  have mark : holds "array" entries = holds "array" others := by
    rw [holds, holds, lookups _ (by decide)]
  have kept : extras isPropertyKey entries = extras isPropertyKey others := by
    rw [extras, extras, Draft.further, further]
    rfl
  have copied : keepable entries = keepable others := keepable_congr further (lookups _ (by decide))
  have wrap : wrapped entries = wrapped others := by
    funext rules shape
    rw [wrapped, wrapped, mark, filled, kept]
  rw [compileProperty, compileProperty, type, copied, rules, item, members, filled, mark, kept, wrap]

theorem compileProperty_rewritten {one other : Draft} {path : Path}
    (same : rulesOf path one = rulesOf path other) (before after : List (Key × Draft)) :
    compileProperty path (.dict (before ++ (.text "validation", one) :: after)) =
      compileProperty path (.dict (before ++ (.text "validation", other) :: after)) := by
  refine compileProperty_congr (fun key apart => ?_) ?_ ?_
  · exact Entries.lookup_replaced before after other one apart
  · have meant : isPropertyKey (.text "validation") = true := by decide
    simp [meant]
  · rw [List.lookup_append, List.lookup_append, List.lookup_cons_self, List.lookup_cons_self]
    -- only the first entry of the name counts, and it may stand before the rewritten one
    cases before.lookup (.text "validation") with
    | none => exact same
    | some draft => rfl

end Draft

namespace Directive

/-- Texts of directives that say something, joined by bars, are read as the texts are, one after the
other. A list of the texts gives a field the same rules as the joined text does, and a definition
compiles the same with either. -/
theorem joined_texts_concatenate (texts : List String) (parses : List (List Directive))
    (solid : ∀ text ∈ texts, Text.allBlank text.toList = false)
    (read : List.Forall₂ (fun text directives => ofValue (.text text) = .ok directives)
      texts parses) :
    ofValue (.text ("|".intercalate texts)) = .ok parses.flatten ∧
    (∀ path, Draft.rulesOf path (.list (texts.map .text)) = .ok parses.flatten ∧
      Draft.rulesOf path (.text ("|".intercalate texts)) = .ok parses.flatten) ∧
    ∀ path before after, Draft.compileProperty path (.dict
        (before ++ (.text "validation", .list (texts.map .text)) :: after)) =
      Draft.compileProperty path (.dict
        (before ++ (.text "validation", .text ("|".intercalate texts)) :: after)) := by
  have each : List.Forall₂ (fun text directives => readChars text.toList = .ok directives)
      texts parses := read.imp fun _ _ own => ofValue_text_ok_iff.mp own
  have joined : readChars ("|".intercalate texts).toList = .ok parses.flatten := by
    rw [String.toList_intercalate]
    refine readChars_joined (fun chars member => ?_) (List.forall₂_map_left_iff.mpr each)
    obtain ⟨text, inside, rfl⟩ := List.mem_map.mp member
    exact solid text inside
  have listRules : ∀ path, Draft.rulesOf path (.list (texts.map .text)) = .ok parses.flatten :=
    fun path => Draft.rulesOfItems_texts each path
  have textRules : ∀ path, Draft.rulesOf path (.text ("|".intercalate texts)) =
      .ok parses.flatten := by
    intro path
    rw [Draft.rulesOf, mapError_ok_iff, Directive.read, mapError_ok_iff, joined]
  refine ⟨ofValue_text_ok_iff.mpr joined, fun path => ⟨listRules path, textRules path⟩, ?_⟩
  intro path before after
  exact Draft.compileProperty_rewritten ((listRules path).trans (textRules path).symm) before after

def sizeTexts : List String := [" required | minLength[1]", "oneOf[\"a|b\",c] "]

def sizeParses : List (List Directive) :=
  [[⟨"required", []⟩, ⟨"minLength", [.positional (.text "1")]⟩],
    [⟨"oneOf", [.positional (.text "a|b"), .positional (.text "c")]⟩]]

theorem sizeTexts_concatenate :
    ofValue (.text " required | minLength[1]|oneOf[\"a|b\",c] ") = .ok sizeParses.flatten ∧
      Draft.compileProperty [.name "size"] (.dict [(.text "type", .text "string"),
          (.text "validation", .list (sizeTexts.map .text))]) =
        .ok ⟨.scalar .string, sizeParses.flatten, none, []⟩ := by
  have solid : ∀ text ∈ sizeTexts, Text.allBlank text.toList = false := by decide
  have read : List.Forall₂ (fun text directives => ofValue (.text text) = .ok directives)
      sizeTexts sizeParses := .cons (by decide +kernel) (.cons (by decide +kernel) .nil)
  obtain ⟨joined, rules, definitions⟩ := joined_texts_concatenate sizeTexts sizeParses solid read
  refine ⟨joined, ?_⟩
  have compiled := definitions [.name "size"] [(.text "type", .text "string")] []
  rw [List.singleton_append] at compiled
  rw [compiled]
  rfl

end Directive

end RecordCheck
