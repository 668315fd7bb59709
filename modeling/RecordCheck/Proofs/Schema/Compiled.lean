import RecordCheck.Proofs.Entries
import RecordCheck.Proofs.Outcome
import RecordCheck.Proofs.Schema.Tree
import RecordCheck.Proofs.Value.Tree
import RecordCheck.Schema.Compile

/-!
What compiled schemas have in common. Main statement: whatever a draft compiles to is well-formed,
provided that the compiled parts inside the draft come from the compiler too.
-/

namespace RecordCheck

/-- An argument by position that is no mapping: a mapping is read as an argument under a key. -/
def Argument.Bare : Argument → Prop
  | positional value => value.isMapping = false
  | keyed _ _ => True

def Directive.WellFormed (directive : Directive) : Prop :=
  ∀ argument ∈ directive.arguments, argument.Bare

namespace Property

/-- What the compiler promises about one property, apart from those inside it. -/
structure Sound (property : Property) : Prop where
  names : property.shape.names.Nodup
  rules : ∀ directive ∈ property.rules, directive.WellFormed
  fallback : property.fallback ≠ some .absent
  extras : ∀ entry ∈ property.extras, Draft.isPropertyKey entry.1 = false

def WellFormed (property : Property) : Prop := property.Everywhere Sound

end Property

structure Schema.WellFormed (schema : Schema) : Prop where
  names : (schema.members.map Prod.fst).Nodup
  members : ∀ member ∈ schema.members, member.2.WellFormed
  extras : ∀ entry ∈ schema.extras, Draft.isSchemaKey entry.1 = false

namespace Part

def WellFormed : Part → Prop
  | argument _ _ => True
  | directive content => content.WellFormed
  | property content => content.WellFormed
  | schema content => content.WellFormed

/-- A part as it is made: an argument, a directive whose arguments by position are texts, what a
draft of such parts is turned into, or what such a part is made of. -/
inductive Made : Part → Prop
  | argument (key text : String) : Made (.argument key text)
  | written {directive : Directive} :
      (∀ value, .positional value ∈ directive.arguments → value.isText = true) →
      Made (.directive directive)
  | ofDraft {draft : Draft} {directive : Directive} : (∀ part, part.In draft → Made part) →
      Directive.ofDraft draft = .ok directive → Made (.directive directive)
  | compiledProperty {path : Path} {draft : Draft} {property : Property} :
      (∀ part, part.In draft → Made part) → Draft.compileProperty path draft = .ok property →
      Made (.property property)
  | compiledSchema {draft : Draft} {schema : Schema} : (∀ part, part.In draft → Made part) →
      Draft.compile draft = .ok schema → Made (.schema schema)
  | rule {property : Property} {directive : Directive} : Made (.property property) →
      directive ∈ property.rules → Made (.directive directive)
  | inner {property child : Property} : Made (.property property) →
      child ∈ property.shape.children → Made (.property child)
  | member {schema : Schema} {name : String} {property : Property} : Made (.schema schema) →
      (name, property) ∈ schema.members → Made (.property property)

end Part

/-- A draft whose compiled parts were made by the compiler. -/
def Draft.Authored (draft : Draft) : Prop := ∀ part : Part, part.In draft → part.Made

def Schema.Compiled (schema : Schema) : Prop :=
  ∃ draft : Draft, draft.Authored ∧ Draft.compile draft = .ok schema

theorem Draft.authored_embed (value : Value) : Draft.Authored value.embed := by
  intro part held
  exact absurd held (Value.embed_holds_none part value)

namespace Directive

theorem readArgument_isText {token : List Char} {value : Value}
    (positional : readArgument token = .positional value) : value.isText = true := by
  unfold readArgument at positional
  split at positional
  · cases positional
  · cases positional
    rfl

theorem readArguments_isText {chars : List Char} {value : Value}
    (positional : .positional value ∈ readArguments chars) : value.isText = true := by
  unfold readArguments at positional
  split at positional
  · cases positional
  · obtain ⟨token, _, same⟩ := List.mem_map.mp positional
    exact readArgument_isText same

theorem readPart_isText {part : List Char} {directive : Directive}
    (read : readPart part = some directive) {value : Value}
    (positional : .positional value ∈ directive.arguments) : value.isText = true := by
  simp only [readPart] at read
  split at read
  · cases read
  · split at read
    · cases read
      cases positional
    · split at read
      · cases read
        exact readArguments_isText positional
      · cases read
    · cases read

theorem readParts_isText {parts : List (List Char)} {directives : List Directive}
    (read : readParts parts = .ok directives) {directive : Directive}
    (member : directive ∈ directives) {value : Value}
    (positional : .positional value ∈ directive.arguments) : value.isText = true := by
  induction parts generalizing directives with
  | nil =>
      cases read
      cases member
  | cons part parts ih =>
      rw [readParts] at read
      split at read
      · cases read
      · rename_i first firstRead
        obtain ⟨later, laterRead, rfl⟩ := map_ok_iff.mp read
        rcases List.mem_cons.mp member with rfl | member
        · exact readPart_isText firstRead positional
        · exact ih laterRead member

theorem wellFormed_of_isText {directive : Directive}
    (texts : ∀ value, .positional value ∈ directive.arguments → value.isText = true) :
    directive.WellFormed := by
  intro argument member
  cases argument with
  | keyed key text => trivial
  | positional value =>
      have text := texts value member
      cases value <;> simp_all [Value.isText, Argument.Bare, Value.isMapping]

theorem read_wellFormed {text : String} {directives : List Directive}
    (read : Directive.read text = .ok directives) {directive : Directive}
    (member : directive ∈ directives) : directive.WellFormed := by
  rw [Directive.read, mapError_ok_iff, readChars] at read
  split at read
  · cases read
    cases member
  · obtain ⟨parts, _, read⟩ := bind_ok_iff.mp read
    exact wellFormed_of_isText fun value positional => readParts_isText read member positional

end Directive

namespace Draft

def WellFormed (draft : Draft) : Prop := ∀ part : Part, part.In draft → part.WellFormed

theorem WellFormed.inside {draft child : Draft} (parts : draft.WellFormed)
    (member : child ∈ draft.children) : child.WellFormed :=
  fun part held => parts part (.inside member held)

theorem child_of_lookup {entries : List (Key × Draft)} {key : Key} {child : Draft}
    (found : entries.lookup key = some child) : child ∈ Value.children (.dict entries) :=
  List.mem_map_of_mem (f := Prod.snd) (Entries.mem_of_lookup found)

theorem WellFormed.fieldOf {entries : List (Key × Draft)} (parts : WellFormed (.dict entries))
    (name : String) : WellFormed ((entries.lookup (.text name)).getD .null) := by
  cases found : entries.lookup (.text name) with
  | none =>
      intro part held
      cases held with
      | inside member _ => cases member
  | some child => exact parts.inside (child_of_lookup found)

theorem plain_isMapping (draft : Draft) : (plain draft).isMapping = draft.isMapping := by
  cases draft <;> rfl

theorem plain_absent {draft : Draft} (same : plain draft = .absent) : draft = .absent := by
  cases draft <;> simp_all [plain]

end Draft

namespace Directive

theorem ofDraft_bare {draft : Draft} {argument : Argument}
    (made : Argument.ofDraft draft = .ok argument) : argument.Bare := by
  cases draft with
  | dict entries =>
      obtain ⟨key, _, made⟩ := bind_ok_iff.mp made
      obtain ⟨text, _, rfl⟩ := map_ok_iff.mp made
      trivial
  | part content => cases content <;> cases made <;> trivial
  | _ =>
      cases made
      exact Draft.plain_isMapping _

theorem argumentsOfDrafts_bare {drafts : List Draft} {arguments : List Argument}
    (made : argumentsOfDrafts drafts = .ok arguments) : ∀ argument ∈ arguments, argument.Bare := by
  induction drafts generalizing arguments with
  | nil =>
      cases made
      simp
  | cons draft rest ih =>
      obtain ⟨first, firstMade, made⟩ := bind_ok_iff.mp made
      obtain ⟨later, laterMade, rfl⟩ := map_ok_iff.mp made
      intro argument member
      rcases List.mem_cons.mp member with rfl | member
      · exact ofDraft_bare firstMade
      · exact ih laterMade argument member

theorem listedArguments_list (items : List Draft) : listedArguments (.list items) = .ok items := by
  cases items <;> rfl

theorem listedArguments_tuple (items : List Draft) :
    listedArguments (.tuple items) = .ok items := by
  cases items <;> rfl

theorem listedArguments_text (content : String) : listedArguments (.text content) =
    .ok (content.toList.map fun char => .text (String.singleton char)) := by
  by_cases empty : content = ""
  · rw [empty]
    rfl
  · simp [listedArguments, Value.truthy, empty]

theorem listedArguments_bytes (content : List UInt8) :
    listedArguments (.bytes content) = .ok (content.map fun byte => .int byte.toNat) := by
  cases content <;> rfl

theorem listedArguments_dict (entries : List (Key × Draft)) : listedArguments (.dict entries) =
    .ok (entries.map fun entry => entry.1.toValue.embed) := by
  cases entries <;> rfl

theorem ofDraft_wellFormed {draft : Draft} (parts : draft.WellFormed) {directive : Directive}
    (made : ofDraft draft = .ok directive) : directive.WellFormed := by
  cases draft with
  | dict entries =>
      rw [ofDraft] at made
      split at made
      · obtain ⟨drafts, _, made⟩ := bind_ok_iff.mp made
        obtain ⟨arguments, listed, made⟩ := bind_ok_iff.mp made
        obtain ⟨name, _, rfl⟩ := map_ok_iff.mp made
        exact argumentsOfDrafts_bare listed
      · cases made
  | part content =>
      cases content with
      | directive content =>
          cases made
          exact parts _ .here
      | _ => cases made
  | _ => cases made

end Directive

namespace Draft

theorem rulesOfItem_wellFormed {path : Path} {draft : Draft} (parts : draft.WellFormed)
    {rules : List Directive} (made : rulesOfItem path draft = .ok rules) :
    ∀ directive ∈ rules, directive.WellFormed := by
  have read : ∀ content, rulesOfItem path (.text content) = .ok rules →
      ∀ directive ∈ rules, directive.WellFormed := by
    intro content made directive member
    exact Directive.read_wellFormed (mapError_ok_iff.mp made) member
  cases draft with
  | text content => exact read content made
  | _ =>
      simp only [rulesOfItem] at made
      split at made
      · rename_i made'
        cases made
        intro directive member
        rw [List.mem_singleton.mp member]
        exact Directive.ofDraft_wellFormed parts made'
      · cases made
      · cases made

theorem rulesOfItems_wellFormed {path : Path} {drafts : List Draft}
    (parts : ∀ draft ∈ drafts, draft.WellFormed) {rules : List Directive}
    (made : rulesOfItems path drafts = .ok rules) :
    ∀ directive ∈ rules, directive.WellFormed := by
  induction drafts generalizing rules with
  | nil =>
      cases made
      simp
  | cons draft rest ih =>
      obtain ⟨first, firstMade, made⟩ := bind_ok_iff.mp made
      obtain ⟨later, laterMade, rfl⟩ := map_ok_iff.mp made
      intro directive member
      rcases List.mem_append.mp member with member | member
      · exact rulesOfItem_wellFormed (parts draft List.mem_cons_self) firstMade directive member
      · exact ih (fun item inside => parts item (List.mem_cons_of_mem _ inside)) laterMade
          directive member

theorem rulesOf_wellFormed {path : Path} {draft : Draft} (parts : draft.WellFormed)
    {rules : List Directive} (made : rulesOf path draft = .ok rules) :
    ∀ directive ∈ rules, directive.WellFormed := by
  cases draft with
  | null =>
      cases made
      simp
  | text content =>
      intro directive member
      exact Directive.read_wellFormed (mapError_ok_iff.mp made) member
  | list items => exact rulesOfItems_wellFormed (fun _ member => parts.inside member) made
  | tuple items => exact rulesOfItems_wellFormed (fun _ member => parts.inside member) made
  | _ => cases made

theorem fallback_ne_absent (entries : List (Key × Draft)) : fallback entries ≠ some .absent := by
  unfold fallback
  split
  · simp
  · simp
  · rename_i draft present _
    intro same
    exact present (plain_absent (Option.some.inj same))

theorem extras_unknown (known : Key → Bool) (entries : List (Key × Draft)) :
    ∀ entry ∈ extras known entries, known entry.1 = false := by
  intro entry member
  rw [extras, plainEntries_eq] at member
  obtain ⟨source, kept, rfl⟩ := List.mem_map.mp member
  simpa using (List.mem_filter.mp kept).2

theorem compileItem_eq (path : Path) (entries : List (Key × Draft)) :
    compileItem path entries =
      match entries.lookup (.text "schema") with
      | none => .ok none
      | some draft => if draft.isNull then .ok none else (compileProperty path draft).map some := by
  induction entries with
  | nil => rfl
  | cons entry rest ih =>
      obtain ⟨key, draft⟩ := entry
      rw [compileItem, ih, List.lookup_cons]
      by_cases same : key = .text "schema"
      · simp [same]
      · have differs : (Key.text "schema" == key) = false := by simpa using Ne.symm same
        rw [if_neg same, differs]

theorem compileMembersIn_eq (path : Path) (entries : List (Key × Draft)) :
    compileMembersIn path entries =
      match entries.lookup (.text "properties") with
      | none => .ok none
      | some draft => (compileMembers path draft).map some := by
  induction entries with
  | nil => rfl
  | cons entry rest ih =>
      obtain ⟨key, draft⟩ := entry
      rw [compileMembersIn, ih, List.lookup_cons]
      by_cases same : key = .text "properties"
      · simp [same]
      · have differs : (Key.text "properties" == key) = false := by simpa using Ne.symm same
        rw [if_neg same, differs]

section Congruence

variable {entries others : List (Key × Draft)}

theorem declaredType_congr {path : Path}
    (type : entries.lookup (.text "type") = others.lookup (.text "type"))
    (fields : entries.lookup (.text "properties") = others.lookup (.text "properties")) :
    declaredType path entries = declaredType path others := by
  rw [declaredType, declaredType, type, fields]

theorem fallback_congr (same : entries.lookup (.text "default") = others.lookup (.text "default")) :
    fallback entries = fallback others := by
  rw [fallback, fallback, same]

theorem keepable_congr (further : further isPropertyKey entries = further isPropertyKey others)
    (same : entries.lookup (.text "default") = others.lookup (.text "default")) :
    keepable entries = keepable others := by
  rw [keepable, keepable, further, same]

end Congruence

theorem compileProperty_cases {path : Path} {entries : List (Key × Draft)} {property : Property}
    (made : compileProperty path (.dict entries) = .ok property) :
    ∃ rules, rulesOf path ((entries.lookup (.text "validation")).getD .null) = .ok rules ∧
      ((∃ item, declaredType path entries = .ok .array ∧ holds "array" entries = false ∧
          compileItem path entries = .ok item ∧
          property = ⟨.array item, rules, fallback entries, extras isPropertyKey entries⟩) ∨
        (∃ members, declaredType path entries = .ok .object ∧
          compileMembersIn path entries = .ok members ∧
          property = wrapped entries rules (.object members)) ∨
        ∃ type, declaredType path entries = .ok (.scalar type) ∧
          property = wrapped entries rules (.scalar type)) := by
  rw [compileProperty] at made
  obtain ⟨type, typeMade, made⟩ := bind_ok_iff.mp made
  rw [if_neg (by intro uncopied; rw [if_pos uncopied] at made; cases made)] at made
  obtain ⟨rules, rulesMade, made⟩ := bind_ok_iff.mp made
  refine ⟨rules, rulesMade, ?_⟩
  cases type with
  | array =>
      dsimp only at made
      split at made
      · cases made
      · rename_i unmarked
        obtain ⟨item, itemMade, rfl⟩ := map_ok_iff.mp made
        exact Or.inl ⟨item, typeMade, by simpa using unmarked, itemMade, rfl⟩
  | object =>
      obtain ⟨members, membersMade, rfl⟩ := map_ok_iff.mp made
      exact Or.inr (Or.inl ⟨members, typeMade, membersMade, rfl⟩)
  | scalar type =>
      cases made
      exact Or.inr (Or.inr ⟨type, typeMade, rfl⟩)

theorem compileItem_some {path : Path} {entries : List (Key × Draft)} {item : Option Property}
    (made : compileItem path entries = .ok item) {child : Property}
    (member : child ∈ (Shape.array item).children) :
    ∃ source, entries.lookup (.text "schema") = some source ∧
      compileProperty path source = .ok child := by
  rw [compileItem_eq] at made
  split at made
  · cases made
    cases member
  · rename_i source found
    split at made
    · cases made
      cases member
    · obtain ⟨property, childMade, rfl⟩ := map_ok_iff.mp made
      rw [List.mem_singleton.mp member]
      exact ⟨source, found, childMade⟩

theorem compileMembersIn_some {path : Path} {entries : List (Key × Draft)}
    {members : List (String × Property)}
    (made : compileMembersIn path entries = .ok (some members)) :
    ∃ source, entries.lookup (.text "properties") = some source ∧
      compileMembers path source = .ok members := by
  rw [compileMembersIn_eq] at made
  split at made
  · cases made
  · rename_i source found
    obtain ⟨_, membersMade, same⟩ := map_ok_iff.mp made
    cases same
    exact ⟨source, found, membersMade⟩

/-- Definitions by name are compiled one after the other, and each key has to be written. -/
theorem compileEntries_cons_iff {path : Path} {entry : Key × Draft} {rest : List (Key × Draft)}
    {members : List (String × Property)} :
    compileEntries path (entry :: rest) = .ok members ↔ entry.1.writable = true ∧
      ∃ property later, compileProperty (path ++ [.name entry.1.spelled]) entry.2 = .ok property ∧
        compileEntries path rest = .ok later ∧ members = (entry.1.spelled, property) :: later := by
  simp only [compileEntries, Key.name, bind_ok_iff, map_ok_iff, mapError_ok_iff,
    Whole.ifWritable_ok_iff]
  constructor
  · rintro ⟨name, ⟨writable, rfl⟩, property, made, later, laterMade, rfl⟩
    exact ⟨writable, property, later, made, laterMade, rfl⟩
  · rintro ⟨writable, property, later, made, laterMade, rfl⟩
    exact ⟨_, ⟨writable, rfl⟩, property, made, later, laterMade, rfl⟩

theorem mem_compileEntries {path : Path} {entries : List (Key × Draft)}
    {members : List (String × Property)} (made : compileEntries path entries = .ok members) :
    ∀ member ∈ members, ∃ entry ∈ entries,
      compileProperty (path ++ [.name entry.1.spelled]) entry.2 = .ok member.2 := by
  induction entries generalizing members with
  | nil =>
      cases made
      simp
  | cons entry rest ih =>
      obtain ⟨_, property, later, propertyMade, laterMade, rfl⟩ := compileEntries_cons_iff.mp made
      intro member inside
      rcases List.mem_cons.mp inside with rfl | inside
      · exact ⟨entry, List.mem_cons_self, propertyMade⟩
      · obtain ⟨source, sourceInside, sourceMade⟩ := ih laterMade member inside
        exact ⟨source, List.mem_cons_of_mem _ sourceInside, sourceMade⟩

theorem wrapped_wellFormed (entries : List (Key × Draft)) {rules : List Directive}
    {shape : Shape Property} (sound : ∀ directive ∈ rules, directive.WellFormed)
    (names : shape.names.Nodup) (children : ∀ child ∈ shape.children, child.WellFormed) :
    (wrapped entries rules shape).WellFormed := by
  have fallback := fallback_ne_absent entries
  have extras := extras_unknown isPropertyKey entries
  unfold wrapped
  split
  · refine .node ⟨List.nodup_nil, by simp, fallback, extras⟩ ?_
    intro child member
    rw [List.mem_singleton.mp member]
    exact .node ⟨names, sound, by simp, by simp⟩ children
  · exact .node ⟨names, sound, fallback, extras⟩ children

def CompilesWell (draft : Draft) : Prop :=
  (∀ path property, compileProperty path draft = .ok property → property.WellFormed) ∧
    ∀ path members, compileMembers path draft = .ok members →
      (members.map Prod.fst).Nodup ∧ ∀ member ∈ members, member.2.WellFormed

theorem object_wellFormed {entries : List (Key × Draft)}
    (inside : ∀ child ∈ Value.children (.dict entries), CompilesWell child) {path : Path}
    {members : Option (List (String × Property))}
    (made : compileMembersIn path entries = .ok members) :
    (Shape.object members).names.Nodup ∧
      ∀ child ∈ (Shape.object members).children, child.WellFormed := by
  cases members with
  | none => simp [Shape.names]
  | some members =>
      obtain ⟨source, found, fieldsMade⟩ := compileMembersIn_some made
      obtain ⟨names, each⟩ := (inside source (child_of_lookup found)).2 _ _ fieldsMade
      refine ⟨names, ?_⟩
      intro child declared
      obtain ⟨member, inMembers, rfl⟩ := List.mem_map.mp declared
      exact each member inMembers

theorem property_wellFormed {entries : List (Key × Draft)} (parts : Draft.WellFormed (.dict entries))
    (inside : ∀ child ∈ Value.children (.dict entries), CompilesWell child) {path : Path}
    {property : Property} (made : compileProperty path (.dict entries) = .ok property) :
    property.WellFormed := by
  obtain ⟨rules, rulesMade, ways⟩ := compileProperty_cases made
  have sound := rulesOf_wellFormed (parts.fieldOf "validation") rulesMade
  rcases ways with ⟨item, _, _, itemMade, rfl⟩ | ⟨members, _, membersMade, rfl⟩ | ⟨type, _, rfl⟩
  · refine .node ⟨List.nodup_nil, sound, fallback_ne_absent entries,
      extras_unknown isPropertyKey entries⟩ ?_
    intro child member
    obtain ⟨source, found, childMade⟩ := compileItem_some itemMade member
    exact (inside source (child_of_lookup found)).1 _ _ childMade
  · obtain ⟨names, children⟩ := object_wellFormed inside membersMade
    exact wrapped_wellFormed entries sound names children
  · exact wrapped_wellFormed entries sound List.nodup_nil (by simp)

theorem members_wellFormed {draft : Draft} (inside : ∀ child ∈ draft.children, CompilesWell child)
    {path : Path} {members : List (String × Property)}
    (made : compileMembers path draft = .ok members) :
    (members.map Prod.fst).Nodup ∧ ∀ member ∈ members, member.2.WellFormed := by
  cases draft with
  | null =>
      cases made
      simp
  | dict entries =>
      obtain ⟨written, writtenMade, rfl⟩ := map_ok_iff.mp made
      refine ⟨Entries.ofTexts_nodup written, ?_⟩
      intro member inWritten
      obtain ⟨entry, inEntries, entryMade⟩ :=
        mem_compileEntries writtenMade member (Entries.mem_of_mem_ofTexts inWritten)
      exact (inside entry.2 (List.mem_map_of_mem (f := Prod.snd) inEntries)).1 _ _ entryMade
  | _ => cases made

theorem compiled_wellFormed (draft : Draft) (parts : draft.WellFormed) : CompilesWell draft := by
  induction draft using Value.byChildren with
  | node draft ih =>
      have inside := fun child member => ih child member (parts.inside member)
      refine ⟨?_, fun path members => members_wellFormed inside⟩
      intro path property made
      cases draft with
      | dict entries => exact property_wellFormed parts inside made
      | part content =>
          cases content with
          | property content =>
              -- a property that is given as such is kept as it is
              cases made
              exact parts _ .here
          | _ => cases made
      | _ => cases made

theorem compileProperty_wellFormed {draft : Draft} (parts : draft.WellFormed) {path : Path}
    {property : Property} (made : compileProperty path draft = .ok property) :
    property.WellFormed :=
  (compiled_wellFormed draft parts).1 path property made

theorem compile_wellFormed {draft : Draft} (parts : draft.WellFormed) {schema : Schema}
    (made : compile draft = .ok schema) : schema.WellFormed := by
  cases draft with
  | dict entries =>
      obtain ⟨mode, _, made⟩ := bind_ok_iff.mp made
      obtain ⟨members, membersMade, made⟩ := bind_ok_iff.mp made
      obtain ⟨names, each⟩ :=
        (compiled_wellFormed _ (parts.fieldOf "properties")).2 _ _ membersMade
      split at made <;> cases made
      exact ⟨names, each, extras_unknown isSchemaKey entries⟩
  | part content =>
      cases content with
      | schema content =>
          cases made
          exact parts _ .here
      | _ => cases made
  | _ => cases made

end Draft

theorem Part.Made.wellFormed {part : Part} (made : part.Made) : part.WellFormed := by
  induction made with
  | argument key text => trivial
  | written texts => exact Directive.wellFormed_of_isText texts
  | ofDraft _ made ih => exact Directive.ofDraft_wellFormed ih made
  | compiledProperty _ made ih => exact Draft.compileProperty_wellFormed ih made
  | compiledSchema _ made ih => exact Draft.compile_wellFormed ih made
  | rule _ member ih => exact ih.here.rules _ member
  | inner _ member ih => exact ih.inside member
  | member _ member ih => exact ih.members _ member

theorem Draft.Authored.wellFormed {draft : Draft} (authored : draft.Authored) : draft.WellFormed :=
  fun part held => (authored part held).wellFormed

theorem Schema.WellFormed.distinctNames {schema : Schema} (wellFormed : schema.WellFormed) :
    schema.root.DistinctNames := by
  refine .node wellFormed.names ?_
  intro child inside
  obtain ⟨member, declared, rfl⟩ := List.mem_map.mp inside
  exact (wellFormed.members member declared).mono fun node sound => sound.names

theorem Schema.Compiled.wellFormed {schema : Schema} (compiled : schema.Compiled) :
    schema.WellFormed := by
  obtain ⟨draft, authored, made⟩ := compiled
  exact Draft.compile_wellFormed authored.wellFormed made

end RecordCheck
