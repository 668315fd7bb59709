import RecordCheck.Proofs.Schema.Definitions
import RecordCheck.Proofs.Schema.RoundTrip

/-!
The nodes of compiled schemas. Main statement: at every node the shape goes with the type, names are
declared once, the keys kept beside have no meaning, and no argument is a mapping. Which keys of a
definition make the shape of its node is said without the compiler.
-/

namespace RecordCheck

namespace Shape

variable {Child : Type} {shape : Shape Child}

theorem isArray_iff : shape.isArray = true ↔ shape.type = .array := by
  cases shape <;> simp [isArray, type]

theorem type_of_item {item : Child} (has : shape.item? = some item) : shape.type = .array := by
  cases shape with
  | array _ => rfl
  | _ => cases has

theorem type_of_members {members : List (String × Child)} (has : shape.members? = some members) :
    shape.type = .object := by
  cases shape with
  | object _ => rfl
  | _ => cases has

theorem names_of_members {members : List (String × Child)} (has : shape.members? = some members) :
    shape.names = members.map Prod.fst := by
  cases shape with
  | object _ =>
      cases has
      rfl
  | _ => cases has

end Shape

/-- What a node of a compiled schema keeps, apart from the nodes inside it. -/
structure Property.Consistent (property : Property) : Prop where
  array : property.shape.isArray = true ↔ property.type = .array
  item : ∀ item, property.shape.item? = some item → property.type = .array
  members : ∀ members, property.shape.members? = some members → property.type = .object
  names : ∀ members, property.shape.members? = some members → (members.map Prod.fst).Nodup
  extras : ∀ name ∈ ["type", "array", "schema", "properties", "validation", "default"],
    .text name ∉ property.extras.map Prod.fst
  arguments : ∀ directive ∈ property.rules, ∀ value, .positional value ∈ directive.arguments →
    value.isMapping = false

namespace Draft

/-- The shape that the keys of a definition make. An array is one by its type or by the array mark;
the mark makes an array of what the definition is without it. Fields make a difference to objects
only, and the definition of items to arrays that are not marked. -/
structure Shapes (entries : List (Key × Draft)) (property : Property) : Prop where
  array : property.type = .array ↔ HasType entries .array ∨ holds "array" entries = true
  item : property.shape.item?.isSome = true ↔ holds "array" entries = true ∨
    HasType entries .array ∧
      ∃ item, entries.lookup (.text "schema") = some item ∧ item.isNull = false
  members : property.shape.members?.isSome = true ↔ holds "array" entries = false ∧
    HasType entries .object ∧ ∃ fields, entries.lookup (.text "properties") = some fields
  marked : holds "array" entries = true → ∃ item, property.shape = .array (some item) ∧
    HasType entries item.type ∧ item.type ≠ .array ∧ (item.shape.members?.isSome = true ↔
      HasType entries .object ∧ ∃ fields, entries.lookup (.text "properties") = some fields)

theorem not_mem_keys_of_unknown {known : Key → Bool} {extras : List (Key × Value)}
    (unknown : ∀ entry ∈ extras, known entry.1 = false) {key : Key} (meaning : known key = true) :
    key ∉ extras.map Prod.fst := by
  rw [Entries.mem_keys_iff, lookup_unknown unknown meaning]
  exact nofun

theorem authored_part {part : Part} (made : part.Made) : Authored (.part part) := by
  intro other held
  cases held with
  | here => exact made
  | inside member _ => cases member

theorem authored_dict {entries : List (Key × Draft)}
    (each : ∀ entry ∈ entries, Authored entry.2) : Authored (.dict entries) := by
  intro part held
  cases held with
  | inside member held =>
      obtain ⟨entry, inside, rfl⟩ := List.mem_map.mp member
      exact each entry inside part held

theorem HasType.unique {entries : List (Key × Draft)} {first second : FieldType}
    (one : HasType entries first) (other : HasType entries second) : first = second := by
  have made : declaredType [] entries = .ok first := declaredType_ok_iff.mpr one
  rw [declaredType_ok_iff.mpr other] at made
  exact (Except.ok.inj made).symm

theorem compileItem_isSome {path : Path} {entries : List (Key × Draft)} {item : Option Property}
    (made : compileItem path entries = .ok item) : item.isSome = true ↔
      ∃ source, entries.lookup (.text "schema") = some source ∧ source.isNull = false := by
  rw [compileItem_eq] at made
  cases found : entries.lookup (.text "schema") with
  | none =>
      rw [found] at made
      cases made
      simp
  | some source =>
      simp only [found] at made
      by_cases null : source.isNull = true
      · rw [if_pos null] at made
        cases made
        simp [null]
      · rw [if_neg null] at made
        obtain ⟨property, _, rfl⟩ := map_ok_iff.mp made
        simpa using null

theorem compileMembersIn_isSome {path : Path} {entries : List (Key × Draft)}
    {members : Option (List (String × Property))}
    (made : compileMembersIn path entries = .ok members) : members.isSome = true ↔
      ∃ fields, entries.lookup (.text "properties") = some fields := by
  rw [compileMembersIn_eq] at made
  cases found : entries.lookup (.text "properties") with
  | none =>
      rw [found] at made
      cases made
      simp
  | some fields =>
      simp only [found] at made
      obtain ⟨written, _, rfl⟩ := map_ok_iff.mp made
      simp

section Shapes

variable {entries : List (Key × Draft)}

theorem shapes_wrapped {shape : Shape Property} (rules : List Directive)
    (typed : HasType entries shape.type) (single : shape.type ≠ .array)
    (fields : shape.members?.isSome = true ↔ HasType entries .object ∧
      ∃ fields, entries.lookup (.text "properties") = some fields) :
    Shapes entries (wrapped entries rules shape) := by
  have notArray : ¬HasType entries .array := fun array => single (typed.unique array)
  have noItem : shape.item? = none := by
    rw [Option.eq_none_iff_forall_not_mem]
    exact fun item has => single (Shape.type_of_item has)
  rw [wrapped]
  by_cases marked : holds "array" entries = true
  · rw [if_pos marked]
    refine ⟨?_, ?_, ?_, fun _ => ⟨_, rfl, typed, single, fields⟩⟩
    · exact iff_of_true rfl (Or.inr marked)
    · exact iff_of_true rfl (Or.inl marked)
    · simp [Shape.members?, marked]
  · rw [if_neg marked]
    refine ⟨?_, ?_, ?_, fun mark => absurd mark marked⟩
    · exact iff_of_false single (not_or.mpr ⟨notArray, marked⟩)
    · have fresh : ¬(shape.item?.isSome = true) := by simp [noItem]
      exact iff_of_false fresh (not_or.mpr ⟨marked, fun typed => notArray typed.1⟩)
    · rw [fields]
      simp [marked]

theorem compileProperty_shapes {path : Path} {property : Property}
    (made : compileProperty path (.dict entries) = .ok property) : Shapes entries property := by
  obtain ⟨rules, _, ways⟩ := compileProperty_cases made
  rcases ways with ⟨item, typed, unmarked, itemMade, rfl⟩ | ⟨members, typed, membersMade, rfl⟩ |
    ⟨type, typed, rfl⟩
  · have array := declaredType_ok_iff.mp typed
    have notObject : ¬HasType entries .object := fun object => nomatch array.unique object
    refine ⟨?_, ?_, ?_, ?_⟩
    · exact iff_of_true rfl (Or.inl array)
    · simp only [Shape.item?, compileItem_isSome itemMade, unmarked, Bool.false_eq_true, false_or,
        array, true_and]
    · exact iff_of_false nofun fun fields => notObject fields.2.1
    · intro marked
      rw [unmarked] at marked
      cases marked
  · have object := declaredType_ok_iff.mp typed
    refine shapes_wrapped rules object nofun ?_
    simp only [Shape.members?, compileMembersIn_isSome membersMade, object, true_and]
  · have scalar := declaredType_ok_iff.mp typed
    have notObject : ¬HasType entries .object := fun object => nomatch scalar.unique object
    exact shapes_wrapped rules scalar nofun (iff_of_false nofun fun fields => notObject fields.1)

end Shapes

end Draft

theorem Directive.argumentsOfDrafts_keyed {drafts : List Draft} {arguments : List Argument}
    (made : argumentsOfDrafts drafts = .ok arguments) :
    List.Forall₂ (fun draft argument => draft.isMapping = true →
      ∃ key text, argument = .keyed key text) drafts arguments := by
  induction drafts generalizing arguments with
  | nil =>
      cases made
      exact .nil
  | cons draft rest ih =>
      obtain ⟨argument, argumentMade, made⟩ := bind_ok_iff.mp made
      obtain ⟨later, laterMade, rfl⟩ := map_ok_iff.mp made
      refine .cons (fun mapping => ?_) (ih laterMade)
      cases draft with
      | dict entries =>
          obtain ⟨key, _, argumentMade⟩ := bind_ok_iff.mp argumentMade
          obtain ⟨text, _, rfl⟩ := map_ok_iff.mp argumentMade
          exact ⟨key, text, rfl⟩
      | _ => cases mapping

namespace Property

theorem consistent_of_sound {property : Property} (sound : property.Sound) :
    property.Consistent where
  array := Shape.isArray_iff
  item := fun _ has => Shape.type_of_item has
  members := fun _ has => Shape.type_of_members has
  names := fun _ has => Shape.names_of_members has ▸ sound.names
  extras := by
    intro name meaning
    have known : Draft.isPropertyKey (.text name) = true :=
      decide_eq_true (List.mem_map_of_mem meaning)
    exact Draft.not_mem_keys_of_unknown sound.extras known
  arguments := fun directive member value positional =>
    sound.rules directive member _ positional

end Property

namespace Schema

/-- Whatever an authored draft compiles to is consistent at every node; what a definition compiles
to has the shape that its keys make; and an argument that is given as a mapping has become one under
a key. -/
theorem compiled_nodes_consistent (draft : Draft) (schema : Schema) (authored : draft.Authored)
    (compiled : Draft.compile draft = .ok schema) :
    (∀ name ∈ ["mode", "cast", "properties"], .text name ∉ schema.extras.map Prod.fst) ∧
      (schema.members.map Prod.fst).Nodup ∧
      (∀ member ∈ schema.members, member.2.Everywhere Property.Consistent) ∧
      (∀ path entries property, Draft.compileProperty path (.dict entries) = .ok property →
        Draft.Shapes entries property) ∧
      ∀ drafts arguments, Directive.argumentsOfDrafts drafts = .ok arguments →
        List.Forall₂ (fun draft argument => draft.isMapping = true →
          ∃ key text, argument = .keyed key text) drafts arguments := by
  have wellFormed := Draft.compile_wellFormed authored.wellFormed compiled
  refine ⟨?_, wellFormed.names, ?_, ?_, ?_⟩
  · intro name meaning
    have known : Draft.isSchemaKey (.text name) = true :=
      decide_eq_true (List.mem_map_of_mem meaning)
    exact Draft.not_mem_keys_of_unknown wellFormed.extras known
  · intro member inside
    exact (wellFormed.members member inside).mono fun _ => Property.consistent_of_sound
  · exact fun _ _ _ => Draft.compileProperty_shapes
  · exact fun _ _ => Directive.argumentsOfDrafts_keyed

def scoreSource : Value :=
  .dict [(.text "type", .text "integer"), (.text "validation", .text "betweenNumber[0,9]")]

def score : Property :=
  ⟨.scalar .integer, [⟨"betweenNumber", [.positional (.text "0"), .positional (.text "9")]⟩], none,
    []⟩

/-- A draft with a compiled part and with keys that do not belong together: a definition of items at
a text, and fields at an array. -/
def mixedDraft : Draft :=
  .dict [(.text "mode", .text "strict"), (.text "owner", .null), (.text "properties", .dict [
    (.int 1, Value.embed (.dict [(.text "type", .text "string"), (.text "schema", .int 0),
      (.text "validation", .list [.dict [(.text "name", .text "required"), (.text "arguments",
        .tuple [.dict [(.text "key", .text "rows"), (.text "value", .int 5)]])]])])),
    (.text "rows", .dict [(.text "type", .text "array"), (.text "properties", .int 0),
      (.text "schema", .part (.property score))]),
    (.text "homes", Value.embed (.dict [(.text "array", .bool true), (.text "note", .null),
      (.text "properties", .dict [(.text "zip", .dict [(.text "type", .text "integer")])])]))])]

def mixed : Schema where
  mode := .strict
  cast := false
  members := [
    ("1", ⟨.scalar .string, [⟨"required", [.keyed "rows" "5"]⟩], none, []⟩),
    ("rows", ⟨.array (some score), [], none, []⟩),
    ("homes", ⟨.array (some ⟨.object (some [("zip", ⟨.scalar .integer, [], none, []⟩)]), [], none,
      []⟩), [], none, [(.text "note", .null)]⟩)]
  extras := [(.text "owner", .null)]

theorem score_made : Part.Made (.property score) := by
  have compiled : Draft.compileProperty [.name "score"] scoreSource.embed = .ok score := by rfl
  exact .compiledProperty (Draft.authored_embed scoreSource) compiled

theorem mixedDraft_authored : mixedDraft.Authored := by
  refine Draft.authored_dict fun entry member => ?_
  simp only [List.mem_cons, List.not_mem_nil, or_false] at member
  rcases member with rfl | rfl | rfl
  · exact Draft.authored_embed (.text "strict")
  · exact Draft.authored_embed .null
  · refine Draft.authored_dict fun field member => ?_
    simp only [List.mem_cons, List.not_mem_nil, or_false] at member
    rcases member with rfl | rfl | rfl
    · exact Draft.authored_embed _
    · refine Draft.authored_dict fun entry member => ?_
      simp only [List.mem_cons, List.not_mem_nil, or_false] at member
      rcases member with rfl | rfl | rfl
      · exact Draft.authored_embed (.text "array")
      · exact Draft.authored_embed (.int 0)
      · exact Draft.authored_part score_made
    · exact Draft.authored_embed _

theorem mixed_nodes_consistent :
    mixedDraft.Authored ∧ Draft.compile mixedDraft = .ok mixed ∧
      (∀ member ∈ mixed.members, member.2.Everywhere Property.Consistent) := by
  have compiled : Draft.compile mixedDraft = .ok mixed := by rfl
  exact ⟨mixedDraft_authored, compiled,
    (compiled_nodes_consistent mixedDraft mixed mixedDraft_authored compiled).2.2.1⟩

end Schema

end RecordCheck
