import RecordCheck.Proofs.Schema.Spelled

/-!
Rendering a compiled schema and compiling the result again. Main statement: every schema that an
authored draft compiles to comes back unchanged.
-/

namespace RecordCheck

theorem FieldType.ofName?_name (type : FieldType) : ofName? type.name = some type := by
  rcases type with (_ | _ | _ | _) | _ | _ <;> rfl

@[simp] theorem Key.text_beq (left right : String) :
    (Key.text left == Key.text right) = (left == right) := by
  rw [Bool.eq_iff_iff, beq_iff_eq, beq_iff_eq, Key.text.injEq]

namespace Value

theorem lookup_embedEntries {Part : Type} (key : Key) (entries : List (Key × Value)) :
    (embedEntries entries : List (Key × Value Part)).lookup key =
      (entries.lookup key).map embed := by
  induction entries with
  | nil => rfl
  | cons entry rest ih =>
      obtain ⟨known, item⟩ := entry
      rw [embedEntries, List.lookup_cons, List.lookup_cons, ih]
      cases key == known <;> rfl

end Value

namespace Draft

theorem copyable_further_embed (known : Key → Bool) (entries : List (Key × Value)) :
    copyableEntries (further known (Value.embedEntries entries)) = true := by
  refine copyableEntries_iff.mpr fun entry member => ?_
  rw [further, Value.embedEntries_eq] at member
  obtain ⟨source, _, rfl⟩ := List.mem_map.mp (List.mem_of_mem_filter member)
  exact copyable_iff.mpr (copied_embed source.2)

theorem keepable_embed (entries : List (Key × Value)) :
    keepable (Value.embedEntries entries) = true := by
  rw [keepable, copyable_further_embed, Value.lookup_embedEntries]
  cases entries.lookup (.text "default") with
  | none => rfl
  | some default => exact copyable_iff.mpr (copied_embed default)

theorem extras_embed (known : Key → Bool) (entries : List (Key × Value)) :
    extras known (Value.embedEntries entries) =
      entries.filter fun entry => !known entry.1 := by
  rw [extras, further, plainEntries_eq, Value.embedEntries_eq, List.filter_map, List.map_map]
  have unchanged : ((fun entry : Key × Draft => (entry.1, plain entry.2)) ∘
      fun entry : Key × Value => (entry.1, entry.2.embed)) = id := by
    funext entry
    simp [plain_embed]
  rw [unchanged, List.map_id]
  rfl

theorem lookup_unknown {known : Key → Bool} {extras : List (Key × Value)}
    (unknown : ∀ entry ∈ extras, known entry.1 = false) {key : Key} (meaning : known key = true) :
    extras.lookup key = none := by
  apply List.lookup_eq_none_iff.mpr
  intro entry member
  have apart : key ≠ entry.1 := by
    rintro rfl
    rw [unknown entry member] at meaning
    cases meaning
  simpa using apart

theorem filter_unknown {known : Key → Bool} {extras : List (Key × Value)}
    (unknown : ∀ entry ∈ extras, known entry.1 = false) :
    (extras.filter fun entry => !known entry.1) = extras := by
  apply List.filter_eq_self.mpr
  intro entry member
  simp [unknown entry member]

end Draft

theorem Draft.rulesOfItems_render (path : Path) {rules : List Directive}
    (wellFormed : ∀ directive ∈ rules, directive.WellFormed) :
    rulesOfItems path (Value.embedItems (rules.map Directive.render)) = .ok rules :=
  rulesOfItems_spelled path (forall₂_render Directive.spells_render rules) wellFormed

namespace Property

/-- The entries of a rendered property that come before its rules. -/
def renderHead : Shape Property → List (Key × Value)
  | .scalar type => [(.text "type", .text type.name)]
  | .object none => [(.text "type", .text "object")]
  | .object (some members) =>
      [(.text "type", .text "object"), (.text "properties", .dict (renderMembers members))]
  | .array none => [(.text "type", .text "array")]
  | .array (some item) => [(.text "type", .text "array"), (.text "schema", item.render)]

theorem render_eq (shape : Shape Property) (rules : List Directive) (fallback : Option Value)
    (extras : List (Key × Value)) :
    render ⟨shape, rules, fallback, extras⟩ =
      .dict (renderHead shape ++ renderTail rules fallback extras) := by
  rcases shape with type | (_ | members) | (_ | item) <;> rfl

theorem lookup_type (shape : Shape Property) (tail : List (Key × Value)) :
    (renderHead shape ++ tail).lookup (.text "type") = some (.text shape.type.name) := by
  rcases shape with type | (_ | members) | (_ | item) <;> rfl

theorem lookup_head {shape : Shape Property} {key : String} (notType : key ≠ "type")
    (notProperties : key ≠ "properties") (notSchema : key ≠ "schema")
    (tail : List (Key × Value)) :
    (renderHead shape ++ tail).lookup (.text key) = tail.lookup (.text key) := by
  rcases shape with _ | (_ | members) | (_ | item) <;>
    simp [renderHead, Entries.lookup_cons_of_ne, notType, notProperties, notSchema]

theorem extras_head (shape : Shape Property) (tail : List (Key × Value)) :
    ((renderHead shape ++ tail).filter fun entry => !Draft.isPropertyKey entry.1) =
      tail.filter fun entry => !Draft.isPropertyKey entry.1 := by
  rcases shape with _ | (_ | members) | (_ | item) <;> simp [renderHead, Draft.isPropertyKey]

section Tail

variable {rules : List Directive} {fallback : Option Value} {extras : List (Key × Value)}
  (unknown : ∀ entry ∈ extras, Draft.isPropertyKey entry.1 = false)

include unknown

theorem lookup_tail_default :
    (renderTail rules fallback extras).lookup (.text "default") = fallback := by
  have nothing : extras.lookup (.text "default") = none :=
    Draft.lookup_unknown unknown (by decide)
  cases rules <;> cases fallback <;> simp [renderTail, List.lookup_cons, nothing]

theorem lookup_tail_rules :
    (renderTail rules fallback extras).lookup (.text "validation") =
      if rules.isEmpty then none else some (.list (rules.map Directive.render)) := by
  have nothing : extras.lookup (.text "validation") = none :=
    Draft.lookup_unknown unknown (by decide)
  cases rules <;> cases fallback <;> simp [renderTail, List.lookup_cons, nothing]

theorem lookup_tail_other {key : String} (known : Draft.isPropertyKey (.text key) = true)
    (notValidation : key ≠ "validation") (notDefault : key ≠ "default") :
    (renderTail rules fallback extras).lookup (.text key) = none := by
  have nothing : extras.lookup (.text key) = none := Draft.lookup_unknown unknown known
  cases rules <;> cases fallback <;>
    simp [renderTail, Entries.lookup_cons_of_ne, nothing, notValidation, notDefault]

theorem extras_tail :
    ((renderTail rules fallback extras).filter fun entry => !Draft.isPropertyKey entry.1) =
      extras := by
  have all := Draft.filter_unknown unknown
  cases rules <;> cases fallback <;> simp [renderTail, Draft.isPropertyKey] at all ⊢ <;> exact all

end Tail

section Entries

abbrev rendered (shape : Shape Property) (rules : List Directive) (fallback : Option Value)
    (extras : List (Key × Value)) : List (Key × Draft) :=
  Value.embedEntries (renderHead shape ++ renderTail rules fallback extras)

variable {shape : Shape Property} {rules : List Directive} {fallback : Option Value}
  {extras : List (Key × Value)} (sound : Sound ⟨shape, rules, fallback, extras⟩)

theorem declaredType_rendered (path : Path) :
    Draft.declaredType path (rendered shape rules fallback extras) = .ok shape.type := by
  simp only [Draft.declaredType, Value.lookup_embedEntries, lookup_type, Option.map_some,
    Value.embed, FieldType.ofDraft, FieldType.ofName?_name]

include sound

theorem rulesOf_rendered (path : Path) :
    Draft.rulesOf path (((rendered shape rules fallback extras).lookup (.text "validation")).getD
      .null) = .ok rules := by
  rw [Value.lookup_embedEntries, lookup_head (by decide) (by decide) (by decide),
    lookup_tail_rules sound.extras]
  cases rules with
  | nil => rfl
  | cons first later => exact Draft.rulesOfItems_render path sound.rules

theorem fallback_rendered : Draft.fallback (rendered shape rules fallback extras) = fallback := by
  have present := sound.fallback
  rw [Draft.fallback, Value.lookup_embedEntries, lookup_head (by decide) (by decide) (by decide),
    lookup_tail_default sound.extras]
  cases fallback with
  | none => rfl
  | some value =>
      have same := Draft.plain_embed value
      cases value with
      | absent => exact absurd rfl present
      | part content => exact content.elim
      | _ => exact congrArg some same

theorem extras_rendered :
    Draft.extras Draft.isPropertyKey (rendered shape rules fallback extras) = extras := by
  rw [Draft.extras_embed, extras_head, extras_tail sound.extras]

theorem holds_rendered :
    Draft.holds "array" (rendered shape rules fallback extras) = false := by
  rw [Draft.holds, Value.lookup_embedEntries, lookup_head (by decide) (by decide) (by decide),
    lookup_tail_other sound.extras (by decide) (by decide) (by decide)]
  rfl

theorem wrapped_rendered :
    Draft.wrapped (rendered shape rules fallback extras) rules shape =
      ⟨shape, rules, fallback, extras⟩ := by
  rw [Draft.wrapped, holds_rendered sound, fallback_rendered sound, extras_rendered sound]
  rfl

end Entries

theorem compileEntries_render {members : List (String × Property)}
    (each : ∀ member ∈ members, ∀ path,
      Draft.compileProperty path member.2.render.embed = .ok member.2) (path : Path) :
    Draft.compileEntries path (Value.embedEntries (renderMembers members)) = .ok members := by
  induction members with
  | nil => rfl
  | cons member rest ih =>
      have first := each member List.mem_cons_self
      have later := ih fun other inside => each other (List.mem_cons_of_mem _ inside)
      have named (name : String) : (Key.text name).name = .ok name := rfl
      simp only [renderMembers, Value.embedEntries, Draft.compileEntries, named, first, later,
        Except.bind, Except.map, mapError_ok]

theorem compileMembers_render {members : List (String × Property)}
    (names : (members.map Prod.fst).Nodup)
    (each : ∀ member ∈ members, ∀ path,
      Draft.compileProperty path member.2.render.embed = .ok member.2) (path : Path) :
    Draft.compileMembers path (Value.embed (.dict (renderMembers members))) = .ok members := by
  rw [Value.embed, Draft.compileMembers, compileEntries_render each]
  exact congrArg Except.ok (Entries.ofTexts_of_nodup names)

theorem compileMembersIn_rendered {members : Option (List (String × Property))}
    {rules : List Directive} {fallback : Option Value} {extras : List (Key × Value)}
    (sound : Sound ⟨.object members, rules, fallback, extras⟩)
    (each : ∀ child ∈ (Shape.object members).children, ∀ path,
      Draft.compileProperty path child.render.embed = .ok child) (path : Path) :
    Draft.compileMembersIn path (rendered (.object members) rules fallback extras) =
      .ok members := by
  rw [Draft.compileMembersIn_eq, Value.lookup_embedEntries]
  cases members with
  | none =>
      have nothing : (renderTail rules fallback extras).lookup (.text "properties") = none :=
        lookup_tail_other sound.extras (by decide) (by decide) (by decide)
      simp [renderHead, Entries.lookup_cons_of_ne, nothing]
  | some members =>
      have found : (renderHead (.object (some members)) ++
          renderTail rules fallback extras).lookup (.text "properties") =
            some (.dict (renderMembers members)) := rfl
      have compiled := compileMembers_render sound.names
        (fun member inside => each member.2 (List.mem_map_of_mem (f := Prod.snd) inside)) path
      simp only [found, Option.map_some, compiled, Except.map]

theorem compileItem_rendered {item : Option Property} {rules : List Directive}
    {fallback : Option Value} {extras : List (Key × Value)}
    (sound : Sound ⟨.array item, rules, fallback, extras⟩)
    (each : ∀ child ∈ (Shape.array item).children, ∀ path,
      Draft.compileProperty path child.render.embed = .ok child) (path : Path) :
    Draft.compileItem path (rendered (.array item) rules fallback extras) = .ok item := by
  rw [Draft.compileItem_eq, Value.lookup_embedEntries]
  cases item with
  | none =>
      have nothing : (renderTail rules fallback extras).lookup (.text "schema") = none :=
        lookup_tail_other sound.extras (by decide) (by decide) (by decide)
      simp [renderHead, Entries.lookup_cons_of_ne, nothing]
  | some item =>
      have found : (renderHead (.array (some item)) ++
          renderTail rules fallback extras).lookup (.text "schema") = some item.render := rfl
      have compiled := each item (by simp) path
      have mapping : (item.render.embed : Draft).isNull = false := by
        obtain ⟨shape, rules, fallback, extras⟩ := item
        rw [render_eq]
        rfl
      simp [found, mapping, compiled, Except.map]

theorem compileProperty_render (property : Property) (wellFormed : property.WellFormed) :
    ∀ path, Draft.compileProperty path property.render.embed = .ok property := by
  induction property with
  | node shape rules fallback extras ih =>
      intro path
      have sound := wellFormed.here
      have each := fun child member => ih child member (wellFormed.inside member)
      have type : Draft.declaredType path (rendered shape rules fallback extras) =
          .ok shape.type := declaredType_rendered path
      have rulesRead := rulesOf_rendered sound path
      have whole := wrapped_rendered sound
      rw [render_eq, Value.embed, Draft.compileProperty]
      have copied : Draft.keepable (rendered shape rules fallback extras) = true :=
        Draft.keepable_embed _
      simp only [type, copied, Bool.not_true, Bool.false_eq_true, if_false, rulesRead, Except.bind]
      cases shape with
      | scalar type => exact congrArg Except.ok whole
      | object members =>
          have members := compileMembersIn_rendered sound each path
          simp only [Shape.type, members, Except.map, whole]
      | array item =>
          -- an array is not rendered with an array mark, so nothing is wrapped around it
          have item := compileItem_rendered sound each path
          have single := holds_rendered sound
          have fallback := fallback_rendered sound
          have extras := extras_rendered sound
          simp [Shape.type, single, item, Except.map, fallback, extras]

end Property

namespace Schema

theorem modeOf_name (mode : Mode) : Draft.modeOf (.text mode.name) = .ok mode := by
  cases mode <;> rfl

theorem compile_wellFormed_render (schema : Schema) (wellFormed : schema.WellFormed) :
    ofValue schema.render = .ok schema := by
  obtain ⟨mode, cast, members, extras⟩ := schema
  have named := modeOf_name mode
  have compiled := Property.compileMembers_render wellFormed.names
    (fun member inside => Property.compileProperty_render member.2
      (wellFormed.members member inside)) []
  have others : ((.text "mode", .text mode.name) :: (.text "cast", .bool cast) ::
      (.text "properties", .dict (Property.renderMembers members)) :: extras).filter
        (fun entry => !Draft.isSchemaKey entry.1) = extras := by
    simpa [Draft.isSchemaKey] using Draft.filter_unknown wellFormed.extras
  rw [ofValue, render, Value.embed, Draft.compile, Draft.extras_embed, others,
    Draft.copyable_further_embed, Draft.holds]
  simp only [Value.lookup_embedEntries, List.lookup_cons, Key.text_beq, String.reduceBEq,
    Option.map_some, Option.getD_some, Value.embed] at compiled ⊢
  rw [named]
  simp only [compiled, Except.bind, if_true]
  rfl

/-- Compiling the rendering of a schema that an authored draft compiles to gives the same schema:
the same mode and cast, and everywhere the same shape, rules, default and further keys. -/
theorem compile_render (draft : Draft) (schema : Schema) (authored : draft.Authored)
    (compiled : Draft.compile draft = .ok schema) : ofValue schema.render = .ok schema :=
  compile_wellFormed_render schema (Draft.compile_wellFormed authored.wellFormed compiled)

/-- An authored schema with an implicit object, both kinds of rule lists and an array mark. -/
def nestedSource : Value :=
  .dict [(.text "mode", .text "loose"), (.text "note", .text "kept"), (.text "properties", .dict [
    (.text "home", .dict [(.text "properties", .dict [
      (.text "zip", .dict [(.text "type", .text " Int "), (.text "validation", .list [
        .text "required|max[digits=5]",
        .dict [(.text "name", .text "in"), (.text "arguments", .list [.int 1])]])])])]),
    (.text "tags", .dict [(.text "array", .bool true), (.text "default", .list []),
      (.text "type", .text "string"), (.text "label", .null)])])]

def nestedSchema : Schema where
  mode := .loose
  cast := false
  members := [
    ("home", ⟨.object (some [("zip", ⟨.scalar .integer, [⟨"required", []⟩,
      ⟨"max", [.keyed "digits" "5"]⟩, ⟨"in", [.positional (.int 1)]⟩], none, []⟩)]), [], none, []⟩),
    ("tags", ⟨.array (some ⟨.scalar .string, [], none, []⟩), [], some (.list []),
      [(.text "label", .null)]⟩)]
  extras := [(.text "note", .text "kept")]

theorem compile_render_nested :
    Draft.Authored nestedSource.embed ∧ Draft.compile nestedSource.embed = .ok nestedSchema ∧
      ofValue nestedSchema.render = .ok nestedSchema := by
  have authored := Draft.authored_embed nestedSource
  have compiled : Draft.compile nestedSource.embed = .ok nestedSchema := rfl
  exact ⟨authored, compiled, compile_render nestedSource.embed nestedSchema authored compiled⟩

end Schema

end RecordCheck
