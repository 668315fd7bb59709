import RecordCheck.Proofs.Schema.Definitions

/-!
The two ways to write an array: with the array mark beside the definition of the items, or with the
type of arrays and that definition under `schema`. Main statement: both compile alike, also where
they do not compile, as long as the data that is kept can be copied.
-/

namespace RecordCheck.Draft

def itemKeys : List Key := ["type", "validation", "properties"].map Key.text

/-- A definition together with the array mark. -/
structure Marks (definition marked : List (Key × Draft)) : Prop where
  mark : holds "array" marked = true
  others : ∀ key, key ≠ .text "array" → marked.lookup key = definition.lookup key
  further : (marked.filter fun entry => !isPropertyKey entry.1) =
    definition.filter fun entry => !isPropertyKey entry.1

/-- What is left of a definition when only the keys of an item are kept. -/
structure Items (definition items : List (Key × Draft)) : Prop where
  kept : ∀ key ∈ itemKeys, items.lookup key = definition.lookup key
  only : ∀ entry ∈ items, entry.1 ∈ itemKeys

/-- An array by its type, whose items a definition describes; the default and the keys without a
meaning are those of the definition. -/
structure Lists (definition listed : List (Key × Draft)) : Prop where
  type : ∃ name, listed.lookup (.text "type") = some (.text name) ∧
    FieldType.ofName? name = some .array
  items : ∃ items, listed.lookup (.text "schema") = some (.dict items) ∧ Items definition items
  unmarked : holds "array" listed = false
  ruleless : listed.lookup (.text "validation") = none
  fallback : listed.lookup (.text "default") = definition.lookup (.text "default")
  further : (listed.filter fun entry => !isPropertyKey entry.1) =
    definition.filter fun entry => !isPropertyKey entry.1

def withMark (definition : List (Key × Draft)) : List (Key × Draft) :=
  Entries.put (· == ·) (.text "array") (.bool true) definition

theorem marks_withMark (definition : List (Key × Draft)) :
    Marks definition (withMark definition) where
  mark := by
    rw [holds, withMark, Entries.lookup_put_same]
    rfl
  others := fun _ apart => Entries.lookup_put_of_ne apart _ definition
  further := Entries.filter_put (!isPropertyKey ·) (by decide) _ definition

def isItemKey (key : Key) : Bool := key ∈ itemKeys

def itemEntries (definition : List (Key × Draft)) : List (Key × Draft) :=
  definition.filter fun entry => isItemKey entry.1

theorem items_itemEntries (definition : List (Key × Draft)) :
    Items definition (itemEntries definition) where
  kept := by
    intro key member
    have own : isItemKey key = true := decide_eq_true member
    rw [itemEntries, Entries.lookup_filter isItemKey, if_pos own]
  only := fun _ member => of_decide_eq_true (List.mem_filter.mp member).2

/-- The keys of a definition that stand beside `schema` when it is that of the items. -/
def isOuterKey (key : Key) : Bool := key == .text "default" || !isPropertyKey key

def asListed (definition : List (Key × Draft)) : List (Key × Draft) :=
  (.text "type", .text "array") :: (.text "schema", .dict (itemEntries definition)) ::
    definition.filter fun entry => isOuterKey entry.1

theorem lookup_asListed {definition : List (Key × Draft)} {key : Key}
    (apart : key ≠ .text "type" ∧ key ≠ .text "schema") :
    (asListed definition).lookup key = if isOuterKey key then definition.lookup key else none := by
  rw [asListed, Entries.lookup_cons_of_ne apart.1, Entries.lookup_cons_of_ne apart.2,
    Entries.lookup_filter isOuterKey]

theorem lists_asListed (definition : List (Key × Draft)) :
    Lists definition (asListed definition) where
  type := ⟨"array", rfl, by decide⟩
  items := ⟨itemEntries definition, rfl, items_itemEntries definition⟩
  unmarked := by
    rw [holds, lookup_asListed (by decide)]
    rfl
  ruleless := lookup_asListed (by decide)
  fallback := lookup_asListed (by decide)
  further := by
    have meant : isPropertyKey (.text "type") = true ∧ isPropertyKey (.text "schema") = true := by
      decide
    rw [asListed, List.filter_cons_of_neg (by simp [meant]), List.filter_cons_of_neg (by simp [meant]),
      List.filter_filter]
    refine List.filter_congr fun entry _ => ?_
    rw [isOuterKey]
    cases isPropertyKey entry.1 <;> simp

def arrayOf (definition : List (Key × Draft)) (item : Property) : Property :=
  ⟨.array (some item), [], fallback definition, extras isPropertyKey definition⟩

section Notations

variable {definition marked listed items : List (Key × Draft)} {path : Path}

theorem Marks.wrapped (marks : Marks definition marked) (rules : List Directive)
    (shape : Shape Property) :
    wrapped marked rules shape = arrayOf definition ⟨shape, rules, none, []⟩ := by
  rw [Draft.wrapped, if_pos marks.mark, fallback_congr (marks.others _ (by decide)), extras,
    Draft.further, marks.further]
  rfl

theorem Items.lookup_other (kept : Items definition items) {key : Key} (other : key ∉ itemKeys) :
    items.lookup key = none := by
  apply List.lookup_eq_none_iff.mpr
  intro entry member
  have differs : key ≠ entry.1 := by
    rintro rfl
    exact other (kept.only entry member)
  simpa using differs

theorem Items.further (kept : Items definition items) : further isPropertyKey items = [] := by
  apply List.filter_eq_nil_iff.mpr
  intro entry member
  have meaning : ∀ key ∈ itemKeys, isPropertyKey key = true := by decide
  simp [meaning _ (kept.only entry member)]

theorem Items.keepable (kept : Items definition items) : keepable items = true := by
  rw [Draft.keepable, kept.further, kept.lookup_other (by decide)]
  rfl

theorem Items.wrapped (kept : Items definition items) (rules : List Directive)
    (shape : Shape Property) : wrapped items rules shape = ⟨shape, rules, none, []⟩ := by
  have unmarked : holds "array" items = false := by
    rw [holds, kept.lookup_other (by decide)]
    rfl
  have unfilled : fallback items = none := by
    rw [fallback, kept.lookup_other (by decide)]
  rw [Draft.wrapped, unmarked, unfilled, extras, kept.further]
  rfl

theorem Marks.keepable (marks : Marks definition marked) :
    Draft.keepable marked = Draft.keepable definition :=
  keepable_congr marks.further (marks.others _ (by decide))

theorem Lists.keepable (lists : Lists definition listed) :
    Draft.keepable listed = Draft.keepable definition :=
  keepable_congr lists.further lists.fallback

theorem compileProperty_marked_eq (marks : Marks definition marked) (kept : Items definition items)
    (single : declaredType path definition ≠ .ok .array) (copied : keepable definition = true) :
    compileProperty path (.dict marked) =
      (compileProperty path (.dict items)).map (arrayOf definition) := by
  have same : ∀ key ∈ itemKeys, marked.lookup key = items.lookup key := by
    intro key member
    have apart : key ≠ .text "array" := by
      rintro rfl
      exact absurd member (by decide)
    rw [marks.others key apart, kept.kept key member]
  have type : declaredType path marked = declaredType path items :=
    declaredType_congr (same _ (by decide)) (same _ (by decide))
  have itemType : declaredType path items = declaredType path definition :=
    declaredType_congr (kept.kept _ (by decide)) (kept.kept _ (by decide))
  have members : compileMembersIn path marked = compileMembersIn path items := by
    rw [compileMembersIn_eq, compileMembersIn_eq, same _ (by decide)]
  rw [compileProperty, compileProperty, type, same (.text "validation") (by decide), members,
    marks.keepable, copied, kept.keepable]
  rw [← itemType] at single
  cases declared : declaredType path items with
  | error fault => rfl
  | ok type =>
      cases rulesOf path ((items.lookup (.text "validation")).getD .null) with
      | error fault => rfl
      | ok rules =>
          cases type with
          | array => exact absurd declared single
          | scalar type =>
              simp only [Except.bind, marks.wrapped, kept.wrapped]
              rfl
          | object =>
              simp only [Except.bind, marks.wrapped, kept.wrapped]
              cases compileMembersIn path items <;> rfl

/-- Where the data cannot be copied, a fault in the type is found first. -/
theorem compileProperty_marked_uncopied (marks : Marks definition marked)
    (fixed : keepable definition = false) : compileProperty path (.dict marked) =
      (declaredType path definition).bind fun _ => .error .uncopied := by
  have type : declaredType path marked = declaredType path definition :=
    declaredType_congr (marks.others _ (by decide)) (marks.others _ (by decide))
  rw [compileProperty, type, marks.keepable, fixed]
  rfl

theorem compileProperty_listed_eq (lists : Lists definition listed)
    (found : listed.lookup (.text "schema") = some (.dict items)) :
    compileProperty path (.dict listed) = if keepable definition then
      (compileProperty path (.dict items)).map (arrayOf definition) else .error .uncopied := by
  obtain ⟨name, typed, array⟩ := lists.type
  have type : declaredType path listed = .ok .array := by
    rw [declaredType, typed]
    simp only [FieldType.ofDraft, array]
  have item : compileItem path listed = (compileProperty path (.dict items)).map some := by
    rw [compileItem_eq, found]
    rfl
  rw [compileProperty, type, lists.keepable, lists.ruleless, item, lists.unmarked,
    fallback_congr lists.fallback, extras, Draft.further, lists.further]
  cases keepable definition with
  | false => rfl
  | true => cases compileProperty path (.dict items) <;> rfl

end Notations

/-- Whatever a definition is of, as long as it is no array: with the array mark it compiles as the
array does whose items it describes, or fails as that does. If a compiled part in the default or
under a further key cannot be copied, neither compiles; then a fault in the type comes first with the
mark, and second without it. -/
theorem array_notations_agree (definition marked listed : List (Key × Draft)) (path : Path)
    (single : declaredType path definition ≠ .ok .array) (marks : Marks definition marked)
    (lists : Lists definition listed) :
    (Kept isPropertyKey definition →
      compileProperty path (.dict marked) = compileProperty path (.dict listed)) ∧
    (¬Kept isPropertyKey definition →
      compileProperty path (.dict marked) =
        ((declaredType path definition).bind fun _ => .error .uncopied) ∧
      compileProperty path (.dict listed) = .error .uncopied) := by
  obtain ⟨items, found, kept⟩ := lists.items
  rw [← keepable_iff, compileProperty_listed_eq lists found]
  constructor
  · intro copied
    rw [compileProperty_marked_eq marks kept single copied, if_pos copied]
  · intro stays
    have fixed := Bool.eq_false_iff.mpr stays
    exact ⟨compileProperty_marked_uncopied marks fixed, if_neg stays⟩

def stops : List (Key × Draft) :=
  [(.text "note", .int 1), (.text "schema", .null), (.text "default", .list []),
    (.text "properties", .dict [(.text "town", .dict [(.text "type", .text "string")])]),
    (.text "validation", .text "minLength[1]")]

def stopsArray : Property :=
  ⟨.array (some ⟨.object (some [("town", ⟨.scalar .string, [], none, []⟩)]),
    [⟨"minLength", [.positional (.text "1")]⟩], none, []⟩), [], some (.list []),
    [(.text "note", .int 1)]⟩

theorem stops_notations_agree :
    declaredType [.name "stops"] stops ≠ .ok .array ∧ Marks stops (withMark stops) ∧
      Lists stops (asListed stops) ∧
      compileProperty [.name "stops"] (.dict (withMark stops)) = .ok stopsArray ∧
      compileProperty [.name "stops"] (.dict (withMark stops)) =
        compileProperty [.name "stops"] (.dict (asListed stops)) := by
  have single : declaredType [.name "stops"] stops ≠ .ok .array := by
    have object : declaredType [.name "stops"] stops = .ok .object := by rfl
    rw [object]
    nofun
  have kept : Kept isPropertyKey stops := keepable_iff.mp (by rfl)
  have compiled : compileProperty [.name "stops"] (.dict (withMark stops)) = .ok stopsArray := by
    rfl
  exact ⟨single, marks_withMark stops, lists_asListed stops, compiled,
    (array_notations_agree stops _ _ _ single (marks_withMark stops) (lists_asListed stops)).1 kept⟩

end RecordCheck.Draft
