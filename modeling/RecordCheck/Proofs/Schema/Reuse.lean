import RecordCheck.Proofs.Schema.RoundTrip

/-!
Drafts in which definitions are replaced by what they compile to. A definition may become its
compiled property or the rendering of it, wherever the compiler comes to it, and the rules of any
other definition may be given in their compiled form. Main statement: such a draft compiles to the
same schema.
-/

namespace RecordCheck.Draft

mutual

/-- A definition in which parts are replaced by what they compile to. -/
inductive Reuses : Path → Draft → Draft → Prop
  | kept {path} (draft) : Reuses path draft draft
  | compiled {path draft property} : compileProperty path draft = .ok property →
      Reuses path draft (.part (.property property))
  | rendered {path draft property} : compileProperty path draft = .ok property →
      Reuses path draft property.render.embed
  | inside {path entries others} :
      ((entries.filter fun entry => !isPropertyKey entry.1) =
        others.filter fun entry => !isPropertyKey entry.1) →
      (∀ key, ReusesKey path key (entries.lookup key) (others.lookup key)) →
      Reuses path (.dict entries) (.dict others)

/-- What a definition has under a key. Rules that are left out may be given as an empty list. -/
inductive ReusesKey : Path → Key → Option Draft → Option Draft → Prop
  | kept {path} (key field) : ReusesKey path key field field
  | unruled {path} : ReusesKey path (.text "validation") none (some (.list []))
  | rules {path draft rules drafts} : rulesOf path draft = .ok rules →
      List.Forall₂ Directive.Spells rules drafts →
      ReusesKey path (.text "validation") (some draft) (some (.list drafts))
  | fields {path draft other} : ReusesFields path draft other →
      ReusesKey path (.text "properties") (some draft) (some other)
  | item {path draft other} : Reuses path draft other →
      ReusesKey path (.text "schema") (some draft) (some other)

inductive ReusesFields : Path → Draft → Draft → Prop
  | kept {path} (draft) : ReusesFields path draft draft
  | inside {path entries others} : ReusesEach path entries others →
      ReusesFields path (.dict entries) (.dict others)

inductive ReusesEach : Path → List (Key × Draft) → List (Key × Draft) → Prop
  | nil {path} : ReusesEach path [] []
  | cons {path key draft other rest others} : Reuses (path ++ [.name key.spelled]) draft other →
      ReusesEach path rest others →
      ReusesEach path ((key, draft) :: rest) ((key, other) :: others)

end

/-- A whole schema in which parts of the definitions of its fields are replaced by what they compile
to. -/
inductive ReusesParts : Draft → Draft → Prop
  | kept (draft) : ReusesParts draft draft
  | fields (before after : List (Key × Draft)) (draft other) : ReusesFields [] draft other →
      ReusesParts (.dict (before ++ (.text "properties", draft) :: after))
        (.dict (before ++ (.text "properties", other) :: after))

namespace ReusesKey

variable {path : Path} {field other : Option Draft}

theorem unchanged {name : String} (reuses : ReusesKey path (.text name) field other)
    (notRules : name ≠ "validation") (notFields : name ≠ "properties")
    (notItem : name ≠ "schema") : other = field := by
  cases reuses with
  | kept => rfl
  | unruled => exact absurd rfl notRules
  | rules => exact absurd rfl notRules
  | fields => exact absurd rfl notFields
  | item => exact absurd rfl notItem

theorem rulesOf_reused {key : Key} (reuses : ReusesKey path key field other)
    (named : key = .text "validation") {rules : List Directive}
    (made : rulesOf path (field.getD .null) = .ok rules)
    (wellFormed : ∀ directive ∈ rules, directive.WellFormed) :
    rulesOf path (other.getD .null) = .ok rules := by
  cases reuses with
  | kept => exact made
  | unruled =>
      cases made
      rfl
  | rules read spelled =>
      rw [Option.getD_some, read] at made
      cases made
      exact rulesOfItems_spelled path spelled wellFormed
  | fields => simp at named
  | item => simp at named

theorem fields_cases {key : Key} (reuses : ReusesKey path key field other)
    (named : key = .text "properties") : other = field ∨
      ∃ draft fields, field = some draft ∧ other = some fields ∧
        ReusesFields path draft fields := by
  cases reuses with
  | kept => exact Or.inl rfl
  | fields reuses => exact Or.inr ⟨_, _, rfl, rfl, reuses⟩
  | _ => simp at named

theorem item_cases {key : Key} (reuses : ReusesKey path key field other)
    (named : key = .text "schema") : other = field ∨
      ∃ draft item, field = some draft ∧ other = some item ∧ Reuses path draft item := by
  cases reuses with
  | kept => exact Or.inl rfl
  | item reuses => exact Or.inr ⟨_, _, rfl, rfl, reuses⟩
  | _ => simp at named

theorem cons {key : Key} {draft given : Draft} {entries others : List (Key × Draft)}
    (first : ReusesKey path key (some draft) (some given))
    (later : ∀ key, ReusesKey path key (entries.lookup key) (others.lookup key)) (name : Key) :
    ReusesKey path name (((key, draft) :: entries).lookup name)
      (((key, given) :: others).lookup name) := by
  by_cases same : name = key
  · rw [same, List.lookup_cons_self, List.lookup_cons_self]
    exact first
  · rw [Entries.lookup_cons_of_ne same, Entries.lookup_cons_of_ne same]
    exact later name

end ReusesKey

theorem isNull_of_compiled {path : Path} {draft : Draft} {property : Property}
    (made : compileProperty path draft = .ok property) : draft.isNull = false := by
  cases draft with
  | null => cases made
  | _ => rfl

theorem Reuses.of_null {path : Path} {draft other : Draft} (reuses : Reuses path draft other)
    (null : draft.isNull = true) : other = draft := by
  cases reuses with
  | kept => rfl
  | compiled made => exact absurd null (by simp [isNull_of_compiled made])
  | rendered made => exact absurd null (by simp [isNull_of_compiled made])
  | inside => cases null

def CompilesAlike (draft : Draft) : Prop :=
  (∀ path other property, Reuses path draft other → compileProperty path draft = .ok property →
      compileProperty path other = .ok property) ∧
    ∀ path other members, ReusesFields path draft other → compileMembers path draft = .ok members →
      compileMembers path other = .ok members

section Inside

variable {path : Path} {entries others : List (Key × Draft)}
  (keys : ∀ key, ReusesKey path key (entries.lookup key) (others.lookup key))

include keys

theorem declaredType_reused : declaredType path others = declaredType path entries := by
  have type := (keys (.text "type")).unchanged (by decide) (by decide) (by decide)
  -- what the fields are makes no difference to the type, only that there are some
  have fields : (others.lookup (.text "properties")).isSome =
      (entries.lookup (.text "properties")).isSome := by
    rcases (keys _).fields_cases rfl with same | ⟨_, _, found, given, _⟩
    · rw [same]
    · rw [found, given]
      rfl
  rw [declaredType, declaredType, type, fields]

theorem holds_reused : holds "array" others = holds "array" entries := by
  rw [holds, holds, (keys (.text "array")).unchanged (by decide) (by decide) (by decide)]

theorem fallback_reused : fallback others = fallback entries := by
  rw [fallback, fallback, (keys (.text "default")).unchanged (by decide) (by decide) (by decide)]

theorem compileItem_reused (inside : ∀ child ∈ Value.children (.dict entries), CompilesAlike child)
    {item : Option Property} (made : compileItem path entries = .ok item) :
    compileItem path others = .ok item := by
  rw [compileItem_eq] at made ⊢
  rcases (keys _).item_cases rfl with same | ⟨draft, other, found, given, reuses⟩
  · rw [same]
    exact made
  · simp only [found, given] at made ⊢
    -- null defines no items, and it is compiled as none of the parts that may replace a definition
    by_cases null : draft.isNull = true
    · rw [reuses.of_null null]
      exact made
    · rw [if_neg null] at made
      obtain ⟨property, propertyMade, rfl⟩ := map_ok_iff.mp made
      have again := (inside draft (child_of_lookup found)).1 path other property reuses propertyMade
      simp [isNull_of_compiled again, again, Except.map]

theorem compileMembersIn_reused
    (inside : ∀ child ∈ Value.children (.dict entries), CompilesAlike child)
    {members : Option (List (String × Property))}
    (made : compileMembersIn path entries = .ok members) :
    compileMembersIn path others = .ok members := by
  rw [compileMembersIn_eq] at made ⊢
  rcases (keys _).fields_cases rfl with same | ⟨draft, other, found, given, reuses⟩
  · rw [same]
    exact made
  · simp only [found, given] at made ⊢
    obtain ⟨written, writtenMade, rfl⟩ := map_ok_iff.mp made
    have again := (inside draft (child_of_lookup found)).2 path other written reuses writtenMade
    rw [again]
    rfl

theorem property_reused (parts : WellFormed (.dict entries))
    (inside : ∀ child ∈ Value.children (.dict entries), CompilesAlike child)
    (beside : (entries.filter fun entry => !isPropertyKey entry.1) =
      others.filter fun entry => !isPropertyKey entry.1)
    {property : Property} (made : compileProperty path (.dict entries) = .ok property) :
    compileProperty path (.dict others) = .ok property := by
  have extrasEq : extras isPropertyKey others = extras isPropertyKey entries := by
    rw [extras, extras, further, ← beside]
    rfl
  have copied : keepable others = keepable entries :=
    keepable_congr beside.symm
      ((keys (.text "default")).unchanged (by decide) (by decide) (by decide))
  have wrappedEq : ∀ rules shape, wrapped others rules shape = wrapped entries rules shape := by
    intro rules shape
    rw [wrapped, wrapped, holds_reused keys, fallback_reused keys, extrasEq]
  rw [compileProperty] at made ⊢
  obtain ⟨type, typeMade, made⟩ := bind_ok_iff.mp made
  split at made
  · cases made
  rename_i kept
  obtain ⟨rules, rulesMade, made⟩ := bind_ok_iff.mp made
  have wellFormed := rulesOf_wellFormed (parts.fieldOf "validation") rulesMade
  rw [declaredType_reused keys, typeMade, Except.bind, copied, if_neg kept,
    (keys _).rulesOf_reused rfl rulesMade wellFormed, Except.bind]
  cases type with
  | array =>
      dsimp only at made ⊢
      rw [holds_reused keys]
      split at made
      · cases made
      · rename_i unmarked
        obtain ⟨item, itemMade, rfl⟩ := map_ok_iff.mp made
        rw [if_neg unmarked, compileItem_reused keys inside itemMade, fallback_reused keys,
          extrasEq]
        rfl
  | object =>
      obtain ⟨members, membersMade, rfl⟩ := map_ok_iff.mp made
      dsimp only
      rw [compileMembersIn_reused keys inside membersMade, ← wrappedEq]
      rfl
  | scalar type =>
      dsimp only at made ⊢
      rw [wrappedEq]
      exact made

end Inside

theorem compileEntries_reused {path : Path} {entries others : List (Key × Draft)}
    (inside : ∀ entry ∈ entries, CompilesAlike entry.2) (reuses : ReusesEach path entries others)
    {members : List (String × Property)} (made : compileEntries path entries = .ok members) :
    compileEntries path others = .ok members := by
  induction entries generalizing others members with
  | nil =>
      cases reuses
      exact made
  | cons entry rest ih =>
      cases reuses with
      | cons first later =>
          obtain ⟨writable, property, found, propertyMade, foundMade, rfl⟩ :=
            compileEntries_cons_iff.mp made
          have again := (inside _ List.mem_cons_self).1 _ _ property first propertyMade
          have others := ih (fun entry member => inside entry (List.mem_cons_of_mem _ member)) later
            foundMade
          exact compileEntries_cons_iff.mpr ⟨writable, property, found, again, others, rfl⟩

theorem fields_reused {path : Path} {draft other : Draft}
    (inside : ∀ child ∈ draft.children, CompilesAlike child)
    (reuses : ReusesFields path draft other) {members : List (String × Property)}
    (made : compileMembers path draft = .ok members) :
    compileMembers path other = .ok members := by
  cases reuses with
  | kept => exact made
  | inside each =>
      obtain ⟨written, writtenMade, rfl⟩ := map_ok_iff.mp made
      have entriesMade := compileEntries_reused
        (fun entry member => inside entry.2 (List.mem_map_of_mem (f := Prod.snd) member)) each
        writtenMade
      rw [compileMembers, entriesMade]
      rfl

theorem compilesAlike (draft : Draft) (parts : draft.WellFormed) : CompilesAlike draft := by
  -- the induction is on the draft that compiles: whatever is replaced stands in one of its children
  induction draft using Value.byChildren with
  | node draft ih =>
      have inside := fun child member => ih child member (parts.inside member)
      refine ⟨fun path other property reuses made => ?_,
        fun path other members reuses made => fields_reused inside reuses made⟩
      cases reuses with
      | kept => exact made
      | compiled given =>
          rw [given] at made
          cases made
          rfl
      | rendered given =>
          rw [given] at made
          cases made
          have wellFormed := compileProperty_wellFormed parts given
          exact Property.compileProperty_render property wellFormed path
      | inside beside keys => exact property_reused keys parts inside beside made

theorem lookup_replaced_self (key : Key) (before after : List (Key × Draft)) (draft : Draft) :
    ((before ++ (key, draft) :: after).lookup key).getD .null = (before.lookup key).getD draft := by
  rw [List.lookup_append, List.lookup_cons_self]
  cases before.lookup key <;> rfl

end RecordCheck.Draft

namespace RecordCheck.Schema

/-- Definitions that are replaced by what they compile to, and rules that are given in their
compiled form, make no difference to what an authored draft compiles to. -/
theorem reused_parts_compile_alike (draft other : Draft) (schema : Schema)
    (authored : draft.Authored) (compiled : Draft.compile draft = .ok schema)
    (reuses : draft.ReusesParts other) : Draft.compile other = .ok schema := by
  cases reuses with
  | kept => exact compiled
  | fields before after fields given reuses =>
      have parts := authored.wellFormed.fieldOf "properties"
      rw [Draft.lookup_replaced_self] at parts
      have mode : Key.text "mode" ≠ .text "properties" := by decide
      have cast : Key.text "cast" ≠ .text "properties" := by decide
      have beside :
          Draft.further Draft.isSchemaKey (before ++ (.text "properties", given) :: after) =
            Draft.further Draft.isSchemaKey (before ++ (.text "properties", fields) :: after) := by
        simp [Draft.further, Draft.isSchemaKey]
      rw [Draft.compile, Draft.lookup_replaced_self] at compiled ⊢
      obtain ⟨chosen, chosenMade, made⟩ := bind_ok_iff.mp compiled
      obtain ⟨members, membersMade, made⟩ := bind_ok_iff.mp made
      have again : Draft.compileMembers [] ((before.lookup (.text "properties")).getD given) =
          .ok members := by
        -- under an earlier entry of the same key neither of the two would be read
        cases earlier : before.lookup (.text "properties") with
        | some first =>
            rw [earlier] at membersMade
            exact membersMade
        | none =>
            rw [earlier] at membersMade parts
            exact (Draft.compilesAlike fields parts).2 [] given members reuses membersMade
      rw [Entries.lookup_replaced before after fields given mode, chosenMade, again, Draft.extras,
        beside, Draft.holds, Entries.lookup_replaced before after fields given cast]
      exact made

def cellSource : Value :=
  .dict [(.text "type", .text "string"), (.text "validation", .text "maxLength[5]")]

def cell : Property := ⟨.scalar .string, [⟨"maxLength", [.positional (.text "5")]⟩], none, []⟩

/-- A sheet with definitions at all the places where the compiler looks for one: as a field, as a
field of a field, and as the items of an array. -/
def sheetSource : Value :=
  .dict [(.text "mode", .text "loose"), (.text "properties", .dict [
    (.text "tags", .dict [(.text "type", .text "string"), (.text "array", .bool true),
      (.text "validation", .text "required[rows=5]|email")]),
    (.text "rows", .dict [(.text "type", .text "array"), (.text "schema", cellSource)]),
    (.text "head", .dict [(.text "properties", .dict [(.text "title", cellSource)])])])]

def sheet : Schema where
  mode := .loose
  cast := false
  members := [
    ("tags", ⟨.array (some ⟨.scalar .string,
      [⟨"required", [.keyed "rows" "5"]⟩, ⟨"email", []⟩], none, []⟩), [], none, []⟩),
    ("rows", ⟨.array (some cell), [], none, []⟩),
    ("head", ⟨.object (some [("title", cell)]), [], none, []⟩)]
  extras := []

/-- The same sheet with listed rules, the rendering of an item and a compiled field. -/
def reusedSheet : Draft :=
  .dict [(.text "mode", .text "loose"), (.text "properties", .dict [
    (.text "tags", .dict [(.text "type", .text "string"), (.text "array", .bool true),
      (.text "validation", .list [
        .dict [(.text "name", .text "required"),
          (.text "arguments", .tuple [.part (.argument "rows" "5")])],
        .part (.directive ⟨"email", []⟩)])]),
    (.text "rows", .dict [(.text "type", .text "array"), (.text "schema", cell.render.embed)]),
    (.text "head", .dict [(.text "properties", .dict [(.text "title", .part (.property cell))])])])]

theorem cellSource_compiles (path : Path) :
    Draft.compileProperty path cellSource.embed = .ok cell := by
  rfl

theorem sheet_reuses : Draft.ReusesParts sheetSource.embed reusedSheet := by
  refine .fields [(.text "mode", .text "loose")] [] _ _ (.inside (.cons ?tags (.cons ?rows
    (.cons ?head .nil))))
  case tags =>
    refine .inside rfl (.cons (.kept _ _) (.cons (.kept _ _) (.cons ?_ fun _ => .kept _ none)))
    have read : Draft.rulesOf [.name "tags"] (.text "required[rows=5]|email") =
        .ok [⟨"required", [.keyed "rows" "5"]⟩, ⟨"email", []⟩] := by rfl
    refine .rules read (.cons ?_ (.cons (.compiled _) .nil))
    exact .mapping rfl rfl (Or.inr rfl) (.cons (.compiled _ _) .nil)
  case rows =>
    refine .inside rfl (.cons (.kept _ _) (.cons ?_ fun _ => .kept _ none))
    exact .item (.rendered (cellSource_compiles _))
  case head =>
    refine .inside rfl (.cons ?_ fun _ => .kept _ none)
    exact .fields (.inside (.cons (.compiled (cellSource_compiles _)) .nil))

theorem reusedSheet_compiles :
    Draft.Authored sheetSource.embed ∧ Draft.compile sheetSource.embed = .ok sheet ∧
      Draft.ReusesParts sheetSource.embed reusedSheet ∧
      Draft.compile reusedSheet = .ok sheet := by
  have authored := Draft.authored_embed sheetSource
  have compiled : Draft.compile sheetSource.embed = .ok sheet := by rfl
  exact ⟨authored, compiled, sheet_reuses,
    reused_parts_compile_alike _ reusedSheet sheet authored compiled sheet_reuses⟩

end RecordCheck.Schema
