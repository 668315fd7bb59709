import RecordCheck.Proofs.Schema.Compiled

/-!
What a schema, a property, its rules and their arguments need to be compiled, said without the
compiler, one predicate for each of them.
-/

namespace RecordCheck

def Directive.Readable (content : String) : Prop :=
  ∃ directives, Directive.read content = .ok directives

namespace Draft

/-- What may be listed as an argument: anything, but a mapping needs a key and a value, both of which
can be written. -/
inductive ListsArgument : Draft → Prop
  | keyed {entries key text} : entries.lookup (.text "key") = some key → key.writable = true →
      entries.lookup (.text "value") = some text → text.writable = true →
      ListsArgument (.dict entries)
  | positional {draft : Draft} : draft.isMapping = false → ListsArgument draft

/-- What may stand for the arguments of a directive: what counts as false, or what can be gone
through one by one. -/
inductive ListsArguments : Draft → Prop
  | nothing {draft : Draft} : draft.truthy = false → ListsArguments draft
  | list {items} : (∀ item ∈ items, ListsArgument item) → ListsArguments (.list items)
  | tuple {items} : (∀ item ∈ items, ListsArgument item) → ListsArguments (.tuple items)
  | chars (content) : ListsArguments (.text content)
  | bytes (content) : ListsArguments (.bytes content)
  | keys (entries) : ListsArguments (.dict entries)

/-- A directive, or a mapping with a name, which can be written, and perhaps arguments. -/
inductive WritesDirective : Draft → Prop
  | compiled (directive) : WritesDirective (.part (.directive directive))
  | named {entries name} : entries.lookup (.text "name") = some name → name.writable = true →
      (∀ arguments, entries.lookup (.text "arguments") = some arguments →
        ListsArguments arguments) → WritesDirective (.dict entries)

inductive WritesRule : Draft → Prop
  | text {content} : Directive.Readable content → WritesRule (.text content)
  | directive {draft} : WritesDirective draft → WritesRule draft

/-- The rules of a property: none, a text of directives, or a list of such texts and directives. -/
inductive WritesRules : Draft → Prop
  | null : WritesRules .null
  | text {content} : Directive.Readable content → WritesRules (.text content)
  | list {items} : (∀ item ∈ items, WritesRule item) → WritesRules (.list items)
  | tuple {items} : (∀ item ∈ items, WritesRule item) → WritesRules (.tuple items)

/-- The type of a definition: the one that it names, or object where it has only fields. -/
inductive HasType (entries : List (Key × Draft)) : FieldType → Prop
  | named {name type} : entries.lookup (.text "type") = some (.text name) →
      FieldType.ofName? name = some type → HasType entries type
  | implicit {fields} : entries.lookup (.text "type") = none →
      entries.lookup (.text "properties") = some fields → HasType entries .object

/-- What has no meaning among the entries, and the default if they have one, can be copied. -/
structure Kept (known : Key → Bool) (entries : List (Key × Draft)) : Prop where
  further : ∀ entry ∈ entries, known entry.1 = false → Copied entry.2
  fallback : ∀ default, entries.lookup (.text "default") = some default → default.Copied

mutual

/-- The definition of a property. Fields matter only to objects and items only to arrays. -/
inductive Defines : Draft → Prop
  | compiled (property) : Defines (.part (.property property))
  | scalar {entries type} : HasType entries (.scalar type) → Kept isPropertyKey entries →
      (∀ rules, entries.lookup (.text "validation") = some rules → WritesRules rules) →
      Defines (.dict entries)
  | object {entries} : HasType entries .object → Kept isPropertyKey entries →
      (∀ rules, entries.lookup (.text "validation") = some rules → WritesRules rules) →
      (∀ fields, entries.lookup (.text "properties") = some fields → DefinesFields fields) →
      Defines (.dict entries)
  | array {entries} : HasType entries .array → Kept isPropertyKey entries →
      (∀ rules, entries.lookup (.text "validation") = some rules → WritesRules rules) →
      (∀ mark, entries.lookup (.text "array") = some mark → mark.truthy = false) →
      (∀ item, entries.lookup (.text "schema") = some item → item.isNull = false → Defines item) →
      Defines (.dict entries)

/-- The definitions of fields by names that can be written; null defines none. -/
inductive DefinesFields : Draft → Prop
  | null : DefinesFields .null
  | fields {entries} : (∀ entry ∈ entries, entry.1.writable = true) →
      (∀ entry ∈ entries, Defines entry.2) → DefinesFields (.dict entries)

end

/-- What may stand for the mode of a schema: what counts as false, or one of three names. -/
inductive NamesMode : Draft → Prop
  | nothing {draft : Draft} : draft.truthy = false → NamesMode draft
  | named {name} : name ∈ ["strict", "loose", "filter"] → NamesMode (.text name)

/-- A whole schema: one that is compiled, or a mapping with a known mode and definitions. -/
inductive DefinesSchema : Draft → Prop
  | compiled (schema) : DefinesSchema (.part (.schema schema))
  | mapping {entries} :
      (∀ mode, entries.lookup (.text "mode") = some mode → NamesMode mode) →
      (∀ fields, entries.lookup (.text "properties") = some fields → DefinesFields fields) →
      (∀ entry ∈ entries, isSchemaKey entry.1 = false → Copied entry.2) →
      DefinesSchema (.dict entries)

section Rules

theorem display_returns {draft : Draft} : Returns draft.display ↔ draft.writable = true := by
  simp [Returns, Value.display, Whole.ifWritable_ok_iff]

theorem entryText_returns (name : String) (entries : List (Key × Draft)) :
    Returns (Argument.entryText name entries) ↔
      ∃ draft, entries.lookup (.text name) = some draft ∧ draft.writable = true := by
  unfold Argument.entryText
  cases entries.lookup (.text name) <;> simp [display_returns]

theorem argument_returns (draft : Draft) :
    Returns (Argument.ofDraft draft) ↔ draft.ListsArgument := by
  cases draft with
  | dict entries =>
      simp only [Argument.ofDraft, returns_bind, returns_map, exists_and_right]
      constructor
      · rintro ⟨key, text⟩
        obtain ⟨key, keyFound, keyWritten⟩ := (entryText_returns "key" entries).mp key
        obtain ⟨text, textFound, textWritten⟩ := (entryText_returns "value" entries).mp text
        exact .keyed keyFound keyWritten textFound textWritten
      · intro lists
        cases lists with
        | keyed keyFound keyWritten textFound textWritten =>
            exact ⟨(entryText_returns "key" entries).mpr ⟨_, keyFound, keyWritten⟩,
              (entryText_returns "value" entries).mpr ⟨_, textFound, textWritten⟩⟩
        | positional scalar => cases scalar
  | part content =>
      cases content <;> exact iff_of_true ⟨_, rfl⟩ (.positional rfl)
  | _ => exact iff_of_true ⟨_, rfl⟩ (.positional rfl)

theorem argumentsOfDrafts_returns (drafts : List Draft) :
    Returns (Directive.argumentsOfDrafts drafts) ↔ ∀ draft ∈ drafts, draft.ListsArgument := by
  induction drafts with
  | nil => simp [Directive.argumentsOfDrafts]
  | cons draft rest ih =>
      simp only [Directive.argumentsOfDrafts, returns_bind, returns_map, exists_and_right, ih,
        List.forall_mem_cons]
      exact and_congr_left' (argument_returns draft)

theorem listsArgument_of_map {kind : Type} {item : kind → Draft}
    (scalar : ∀ content, (item content).isMapping = false) (contents : List kind) :
    ∀ draft ∈ contents.map item, draft.ListsArgument := by
  intro draft member
  obtain ⟨content, _, rfl⟩ := List.mem_map.mp member
  exact .positional (scalar content)

theorem arguments_return (draft : Draft) :
    Returns ((Directive.listedArguments draft).bind Directive.argumentsOfDrafts) ↔
      draft.ListsArguments := by
  have listed : ∀ drafts, Directive.listedArguments draft = .ok drafts →
      (Returns ((Directive.listedArguments draft).bind Directive.argumentsOfDrafts) ↔
        ∀ item ∈ drafts, item.ListsArgument) := by
    intro drafts lists
    rw [lists]
    exact argumentsOfDrafts_returns drafts
  cases draft with
  | list items =>
      rw [listed items (Directive.listedArguments_list items)]
      refine ⟨.list, fun lists => ?_⟩
      cases lists with
      | nothing falsy =>
          have empty : items = [] := by simpa [Value.truthy] using falsy
          simp [empty]
      | list each => exact each
  | tuple items =>
      rw [listed items (Directive.listedArguments_tuple items)]
      refine ⟨.tuple, fun lists => ?_⟩
      cases lists with
      | nothing falsy =>
          have empty : items = [] := by simpa [Value.truthy] using falsy
          simp [empty]
      | tuple each => exact each
  | text content =>
      rw [listed _ (Directive.listedArguments_text content)]
      exact iff_of_true (listsArgument_of_map (fun _ => rfl) _) (.chars content)
  | bytes content =>
      rw [listed _ (Directive.listedArguments_bytes content)]
      exact iff_of_true (listsArgument_of_map (fun _ => rfl) _) (.bytes content)
  | dict entries =>
      have scalar : ∀ entry : Key × Draft, (entry.1.toValue.embed : Draft).isMapping = false := by
        rintro ⟨key, _⟩
        cases key <;> rfl
      rw [listed _ (Directive.listedArguments_dict entries)]
      exact iff_of_true (listsArgument_of_map scalar _) (.keys entries)
  | _ =>
      -- what is left cannot be gone through: it has to count as false
      constructor
      · intro returns
        refine .nothing ?_
        rw [← Bool.not_eq_true]
        intro truthy
        simp [Directive.listedArguments, truthy, Except.bind] at returns
      · intro lists
        cases lists with
        | nothing falsy =>
            simp [Directive.listedArguments, falsy, Except.bind, Directive.argumentsOfDrafts]

theorem ofDraft_returns (draft : Draft) :
    Returns (Directive.ofDraft draft) ↔ draft.WritesDirective := by
  cases draft with
  | dict entries =>
      rw [Directive.ofDraft]
      cases found : entries.lookup (.text "name") with
      | none =>
          refine iff_of_false (not_returns_error _) fun writes => ?_
          cases writes with
          | named other _ _ =>
              rw [found] at other
              cases other
      | some name =>
          have arguments := arguments_return ((entries.lookup (.text "arguments")).getD .null)
          simp only [returns_bind, returns_map, returns_mapError, display_returns, exists_and_right]
            at arguments ⊢
          constructor
          · rintro ⟨drafts, listed, made, written⟩
            refine .named found written fun arguments there => ?_
            have lists := arguments_return ((entries.lookup (.text "arguments")).getD .null)
            rw [there] at lists listed
            exact lists.mp (returns_bind.mpr ⟨drafts, listed, made⟩)
          · intro writes
            cases writes with
            | named other written each =>
                rw [found] at other
                cases other
                have lists : ListsArguments ((entries.lookup (.text "arguments")).getD .null) := by
                  cases there : entries.lookup (.text "arguments") with
                  | none => exact .nothing rfl
                  | some arguments => exact each arguments there
                obtain ⟨drafts, listed, made⟩ := returns_bind.mp ((arguments_return _).mpr lists)
                exact ⟨drafts, listed, made, written⟩
  | part content =>
      cases content with
      | directive content => exact iff_of_true ⟨_, rfl⟩ (.compiled content)
      | _ => exact iff_of_false (not_returns_error _) (by rintro ⟨⟩)
  | _ => exact iff_of_false (not_returns_error _) (by rintro ⟨⟩)

theorem read_returns (content : String) :
    Returns (Directive.read content) ↔ Directive.Readable content := Iff.rfl

theorem rulesOfItem_of_not_text {path : Path} {draft : Draft} (other : draft.isText = false) :
    Returns (rulesOfItem path draft) ↔ Returns (Directive.ofDraft draft) := by
  cases draft with
  | text content => cases other
  | _ =>
      simp only [rulesOfItem]
      split
      all_goals
        rename_i made
        simp [made]

theorem rulesOfItem_returns (path : Path) (draft : Draft) :
    Returns (rulesOfItem path draft) ↔ draft.WritesRule := by
  cases draft with
  | text content =>
      rw [rulesOfItem, returns_mapError, read_returns]
      refine ⟨.text, fun writes => ?_⟩
      cases writes with
      | text readable => exact readable
      | directive writes => cases writes
  | _ =>
      rw [rulesOfItem_of_not_text rfl, ofDraft_returns]
      refine ⟨.directive, fun writes => ?_⟩
      cases writes with
      | directive writes => exact writes

theorem rulesOfItems_returns (path : Path) (drafts : List Draft) :
    Returns (rulesOfItems path drafts) ↔ ∀ draft ∈ drafts, draft.WritesRule := by
  induction drafts with
  | nil => simp [rulesOfItems]
  | cons draft rest ih =>
      simp only [rulesOfItems, returns_bind, returns_map, exists_and_right, ih,
        List.forall_mem_cons]
      exact and_congr_left' (rulesOfItem_returns path draft)

theorem rulesOf_returns (path : Path) (draft : Draft) :
    Returns (rulesOf path draft) ↔ draft.WritesRules := by
  cases draft with
  | null => exact iff_of_true ⟨_, rfl⟩ .null
  | text content =>
      rw [rulesOf, returns_mapError, read_returns]
      exact ⟨.text, fun writes => by cases writes with | text readable => exact readable⟩
  | list items =>
      rw [rulesOf, rulesOfItems_returns]
      exact ⟨.list, fun writes => by cases writes with | list each => exact each⟩
  | tuple items =>
      rw [rulesOf, rulesOfItems_returns]
      exact ⟨.tuple, fun writes => by cases writes with | tuple each => exact each⟩
  | _ => exact iff_of_false (not_returns_error _) (by rintro ⟨⟩)

theorem lookup_getD_iff {fits : Draft → Prop} (null : fits .null) (entries : List (Key × Draft))
    (key : Key) : fits ((entries.lookup key).getD .null) ↔
      ∀ draft, entries.lookup key = some draft → fits draft := by
  cases entries.lookup key <;> simp [null]

end Rules

section Types

theorem ofDraft_ok_iff (draft : Draft) (type : FieldType) :
    FieldType.ofDraft draft = .ok type ↔
      ∃ name, draft = .text name ∧ FieldType.ofName? name = some type := by
  cases draft with
  | text content =>
      rw [FieldType.ofDraft]
      cases named : FieldType.ofName? content <;> simp [named]
  | _ => exact iff_of_false nofun nofun

theorem declaredType_ok_iff {path : Path} {entries : List (Key × Draft)} {type : FieldType} :
    declaredType path entries = .ok type ↔ HasType entries type := by
  rw [declaredType]
  cases found : entries.lookup (.text "type") with
  | some draft =>
      have named : HasType entries type ↔ FieldType.ofDraft draft = .ok type := by
        rw [ofDraft_ok_iff]
        constructor
        · intro has
          cases has with
          | named other known =>
              rw [found] at other
              exact ⟨_, Option.some.inj other, known⟩
          | implicit untyped _ =>
              rw [found] at untyped
              cases untyped
        · rintro ⟨name, rfl, known⟩
          exact .named found known
      rw [named]
      dsimp only
      cases FieldType.ofDraft draft <;> simp
  | none =>
      have unnamed : HasType entries type ↔
          type = .object ∧ ∃ fields, entries.lookup (.text "properties") = some fields := by
        constructor
        · intro has
          cases has with
          | named other _ =>
              rw [found] at other
              cases other
          | implicit _ fields => exact ⟨rfl, _, fields⟩
        · rintro ⟨rfl, fields, declared⟩
          exact .implicit found declared
      rw [unnamed]
      cases entries.lookup (.text "properties") <;> simp [eq_comm]

end Types

section Definitions

def CompilesAsDefined (draft : Draft) : Prop :=
  (∀ path, Returns (compileProperty path draft) ↔ draft.Defines) ∧
    ∀ path, Returns (compileMembers path draft) ↔ draft.DefinesFields

theorem holds_eq_false_iff (name : String) (entries : List (Key × Draft)) :
    holds name entries = false ↔
      ∀ mark, entries.lookup (.text name) = some mark → mark.truthy = false := by
  rw [holds]
  cases entries.lookup (.text name) <;> simp

variable {entries : List (Key × Draft)}

theorem compileItem_returns (inside : ∀ child ∈ Value.children (.dict entries),
    CompilesAsDefined child) (path : Path) : Returns (compileItem path entries) ↔
      ∀ item, entries.lookup (.text "schema") = some item → item.isNull = false → item.Defines := by
  rw [compileItem_eq]
  cases found : entries.lookup (.text "schema") with
  | none => simp
  | some item =>
      have defined := (inside item (child_of_lookup found)).1 path
      cases null : item.isNull with
      | true => simp [null]
      | false => simp [null, defined]

theorem compileMembersIn_returns (inside : ∀ child ∈ Value.children (.dict entries),
    CompilesAsDefined child) (path : Path) : Returns (compileMembersIn path entries) ↔
      ∀ fields, entries.lookup (.text "properties") = some fields → fields.DefinesFields := by
  rw [compileMembersIn_eq]
  cases found : entries.lookup (.text "properties") with
  | none => simp
  | some fields => simp [(inside fields (child_of_lookup found)).2 path]

theorem compileEntries_returns {entries : List (Key × Draft)}
    (inside : ∀ entry ∈ entries, CompilesAsDefined entry.2) (path : Path) :
    Returns (compileEntries path entries) ↔
      (∀ entry ∈ entries, entry.1.writable = true) ∧ ∀ entry ∈ entries, Defines entry.2 := by
  induction entries with
  | nil => simp [compileEntries]
  | cons entry rest ih =>
      obtain ⟨key, draft⟩ := entry
      have first := (inside (key, draft) List.mem_cons_self).1 (path ++ [.name key.spelled])
      have later := ih fun other member => inside other (List.mem_cons_of_mem _ member)
      simp only [compileEntries, returns_bind, returns_map, exists_and_right, later,
        List.forall_mem_cons, mapError_ok_iff, Key.name, Whole.ifWritable_ok_iff]
      constructor
      · rintro ⟨name, ⟨written, rfl⟩, made, names, each⟩
        exact ⟨⟨written, names⟩, first.mp made, each⟩
      · rintro ⟨⟨written, names⟩, defined, each⟩
        exact ⟨_, ⟨written, rfl⟩, first.mpr defined, names, each⟩

theorem copyable_further_iff {known : Key → Bool} :
    copyableEntries (further known entries) = true ↔
      ∀ entry ∈ entries, known entry.1 = false → Copied entry.2 := by
  simp only [copyableEntries_iff, further, List.mem_filter, copyable_iff, and_imp,
    Bool.not_eq_true']

theorem keepable_iff : keepable entries = true ↔ Kept isPropertyKey entries := by
  rw [keepable, Bool.and_eq_true, copyable_further_iff]
  constructor
  · rintro ⟨others, fallback⟩
    refine ⟨others, fun default found => ?_⟩
    rw [found] at fallback
    exact copyable_iff.mp fallback
  · rintro ⟨others, fallback⟩
    refine ⟨others, ?_⟩
    cases found : entries.lookup (.text "default") with
    | none => rfl
    | some default => exact copyable_iff.mpr (fallback default found)

theorem property_returns (inside : ∀ child ∈ Value.children (.dict entries),
    CompilesAsDefined child) (path : Path) :
    Returns (compileProperty path (.dict entries)) ↔ Defines (.dict entries) := by
  have rulesFit : Returns (rulesOf path ((entries.lookup (.text "validation")).getD .null)) ↔
      ∀ rules, entries.lookup (.text "validation") = some rules → rules.WritesRules :=
    (rulesOf_returns path _).trans (lookup_getD_iff .null entries _)
  simp only [compileProperty, returns_bind, declaredType_ok_iff]
  constructor
  · rintro ⟨type, has, rest⟩
    split at rest
    · exact absurd rest (not_returns_error _)
    rename_i copied
    have kept : Kept isPropertyKey entries := keepable_iff.mp (by simpa using copied)
    obtain ⟨rules, rulesMade, rest⟩ := returns_bind.mp rest
    have fit := rulesFit.mp ⟨rules, rulesMade⟩
    cases type with
    | scalar type => exact .scalar has kept fit
    | object =>
        exact .object has kept fit ((compileMembersIn_returns inside path).mp (returns_map.mp rest))
    | array =>
        dsimp only at rest
        split at rest
        · exact absurd rest (not_returns_error _)
        · rename_i unmarked
          exact .array has kept fit ((holds_eq_false_iff "array" entries).mp (by simpa using unmarked))
            ((compileItem_returns inside path).mp (returns_map.mp rest))
  · intro defines
    have copied : Kept isPropertyKey entries → (!keepable entries) ≠ true := fun kept => by
      simp [keepable_iff.mpr kept]
    cases defines with
    | scalar has kept fit =>
        obtain ⟨rules, rulesMade⟩ := rulesFit.mpr fit
        refine ⟨_, has, ?_⟩
        rw [if_neg (copied kept)]
        exact returns_bind.mpr ⟨rules, rulesMade, returns_ok _⟩
    | object has kept fit fields =>
        obtain ⟨rules, rulesMade⟩ := rulesFit.mpr fit
        refine ⟨_, has, ?_⟩
        rw [if_neg (copied kept)]
        refine returns_bind.mpr ⟨rules, rulesMade, ?_⟩
        exact returns_map.mpr ((compileMembersIn_returns inside path).mpr fields)
    | array has kept fit unmarked item =>
        obtain ⟨rules, rulesMade⟩ := rulesFit.mpr fit
        refine ⟨_, has, ?_⟩
        rw [if_neg (copied kept)]
        refine returns_bind.mpr ⟨rules, rulesMade, ?_⟩
        dsimp only
        rw [(holds_eq_false_iff "array" entries).mpr unmarked, if_neg Bool.false_ne_true]
        exact returns_map.mpr ((compileItem_returns inside path).mpr item)

theorem fields_return {draft : Draft} (inside : ∀ child ∈ draft.children, CompilesAsDefined child)
    (path : Path) : Returns (compileMembers path draft) ↔ draft.DefinesFields := by
  cases draft with
  | null => exact iff_of_true ⟨_, rfl⟩ .null
  | dict entries =>
      have each : ∀ entry ∈ entries, CompilesAsDefined entry.2 := fun entry member =>
        inside entry.2 (List.mem_map_of_mem (f := Prod.snd) member)
      rw [compileMembers, returns_map, compileEntries_returns each]
      constructor
      · rintro ⟨names, each⟩
        exact .fields names each
      · intro defines
        cases defines with
        | fields names each => exact ⟨names, each⟩
  | _ => exact iff_of_false (not_returns_error _) (by rintro ⟨⟩)

theorem compilesAsDefined (draft : Draft) : CompilesAsDefined draft := by
  induction draft using Value.byChildren with
  | node draft inside =>
      refine ⟨fun path => ?_, fields_return inside⟩
      cases draft with
      | dict entries => exact property_returns inside path
      | part content =>
          cases content with
          | property content => exact iff_of_true ⟨_, rfl⟩ (.compiled content)
          | _ => exact iff_of_false (not_returns_error _) (by rintro ⟨⟩)
      -- nothing else defines a property
      | _ => exact iff_of_false (not_returns_error _) (by rintro ⟨⟩)

theorem mode_known_iff (name : String) :
    (Mode.ofName? name).isSome = true ↔ name ∈ ["strict", "loose", "filter"] := by
  simp only [Mode.ofName?, List.mem_cons, List.not_mem_nil, or_false]
  split
  · simp [*]
  · split
    · simp [*]
    · split <;> simp [*]

theorem modeOf_returns (draft : Draft) : Returns (modeOf draft) ↔ draft.NamesMode := by
  cases truthy : draft.truthy with
  | false => exact iff_of_true ⟨.filter, by simp [modeOf, truthy]⟩ (.nothing truthy)
  | true =>
      have named : draft.NamesMode ↔ ∃ name ∈ ["strict", "loose", "filter"], draft = .text name := by
        constructor
        · intro names
          cases names with
          | nothing falsy =>
              rw [truthy] at falsy
              cases falsy
          | named listed => exact ⟨_, listed, rfl⟩
        · rintro ⟨name, listed, rfl⟩
          exact .named listed
      rw [named]
      cases draft with
      | text name =>
          have known := mode_known_iff name
          simp only [modeOf, truthy]
          cases mode : Mode.ofName? name with
          | none => simpa [mode] using known
          | some mode => simpa [mode] using known
      | _ => simp [modeOf, truthy]

theorem compile_returns (draft : Draft) : Returns (compile draft) ↔ draft.DefinesSchema := by
  cases draft with
  | dict entries =>
      have mode : Returns (modeOf ((entries.lookup (.text "mode")).getD .null)) ↔
          ∀ mode, entries.lookup (.text "mode") = some mode → NamesMode mode :=
        (modeOf_returns _).trans (lookup_getD_iff (.nothing rfl) entries _)
      have fields : Returns (compileMembers [] ((entries.lookup (.text "properties")).getD .null)) ↔
          ∀ fields, entries.lookup (.text "properties") = some fields → DefinesFields fields :=
        ((compilesAsDefined _).2 []).trans (lookup_getD_iff .null entries _)
      have further : copyableEntries (further isSchemaKey entries) = true ↔
          ∀ entry ∈ entries, isSchemaKey entry.1 = false → Copied entry.2 := copyable_further_iff
      simp only [compile, returns_bind]
      constructor
      · rintro ⟨_, known, _, made, rest⟩
        split at rest
        · rename_i copied
          exact .mapping (mode.mp ⟨_, known⟩) (fields.mp ⟨_, made⟩) (further.mp copied)
        · exact absurd rest (not_returns_error _)
      · intro defines
        cases defines with
        | mapping known defined copied =>
            obtain ⟨_, known⟩ := mode.mpr known
            obtain ⟨_, made⟩ := fields.mpr defined
            refine ⟨_, known, _, made, ?_⟩
            rw [if_pos (further.mpr copied)]
            exact returns_ok _
  | part content =>
      cases content with
      | schema content => exact iff_of_true ⟨_, rfl⟩ (.compiled content)
      | _ => exact iff_of_false (not_returns_error _) (by rintro ⟨⟩)
  | _ => exact iff_of_false (not_returns_error _) (by rintro ⟨⟩)

end Definitions

end Draft

end RecordCheck
