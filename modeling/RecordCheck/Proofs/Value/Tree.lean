import RecordCheck.Schema.Draft

/-!
The tree of values inside a value, for plain data and for drafts.
-/

namespace RecordCheck

namespace Value

variable {Part : Type}

def children : Value Part → List (Value Part)
  | .list items | .tuple items => items
  | .dict entries => entries.map Prod.snd
  | _ => []

theorem sizeOf_child_lt {value child : Value Part} (inside : child ∈ value.children) :
    sizeOf child < sizeOf value := by
  cases value with
  | list items =>
      have smaller : sizeOf child < sizeOf items := List.sizeOf_lt_of_mem inside
      rw [list.sizeOf_spec]
      omega
  | tuple items =>
      have smaller : sizeOf child < sizeOf items := List.sizeOf_lt_of_mem inside
      rw [tuple.sizeOf_spec]
      omega
  | dict entries =>
      obtain ⟨⟨key, item⟩, member, same⟩ := List.mem_map.mp inside
      have smaller := List.sizeOf_lt_of_mem member
      rw [Prod.mk.sizeOf_spec] at smaller
      rw [dict.sizeOf_spec, ← same]
      dsimp only
      omega
  | _ => cases inside

@[elab_as_elim]
theorem byChildren {motive : Value Part → Prop}
    (node : ∀ value, (∀ child ∈ value.children, motive child) → motive value)
    (value : Value Part) : motive value :=
  node value fun child _ => byChildren node child
termination_by sizeOf value
decreasing_by exact sizeOf_child_lt (by assumption)

def keys : Value Part → List Key
  | .dict entries => entries.map Prod.fst
  | _ => []

inductive DistinctKeys : Value Part → Prop
  | node {value : Value Part} : value.keys.Nodup → (∀ child ∈ value.children, DistinctKeys child) →
      DistinctKeys value

namespace DistinctKeys

variable {value : Value Part}

theorem here (distinct : value.DistinctKeys) : value.keys.Nodup := by
  cases distinct with
  | node own _ => exact own

theorem inside (distinct : value.DistinctKeys) {child : Value Part}
    (member : child ∈ value.children) : child.DistinctKeys := by
  cases distinct with
  | node _ children => exact children child member

end DistinctKeys

section Writable

variable [Shown Part]

theorem writableItems_iff {items : List (Value Part)} :
    writableItems items = true ↔ ∀ item ∈ items, item.writable = true := by
  induction items with
  | nil => simp [writableItems]
  | cons item rest ih => simp [writableItems, ih]

theorem writableEntries_iff {entries : List (Key × Value Part)} : writableEntries entries = true ↔
    ∀ entry ∈ entries, entry.1.writable = true ∧ entry.2.writable = true := by
  induction entries with
  | nil => simp [writableEntries]
  | cons entry rest ih => simp [writableEntries, ih]

theorem writable_child {value child : Value Part} (inside : child ∈ value.children)
    (writable : value.writable = true) : child.writable = true := by
  cases value with
  | list items => exact writableItems_iff.mp writable child inside
  | tuple items => exact writableItems_iff.mp writable child inside
  | dict entries =>
      obtain ⟨entry, member, rfl⟩ := List.mem_map.mp inside
      exact (writableEntries_iff.mp writable entry member).2
  | _ => cases inside

end Writable

end Value

inductive Part.In (part : Part) : Draft → Prop
  | here : In part (.part part)
  | inside {draft child : Draft} : child ∈ draft.children → In part child → In part draft

namespace Value

theorem embedItems_eq {Part : Type} (items : List Value) :
    embedItems items = items.map (embed : Value → Value Part) := by
  induction items with
  | nil => rfl
  | cons item rest ih => simp [embedItems, ih]

theorem embedEntries_eq {Part : Type} (entries : List (Key × Value)) :
    embedEntries entries = entries.map fun entry => (entry.1, (embed entry.2 : Value Part)) := by
  induction entries with
  | nil => rfl
  | cons entry rest ih => simp [embedEntries, ih]

theorem children_embed {Part : Type} (value : Value) :
    (embed value : Value Part).children = value.children.map embed := by
  cases value with
  | list items => exact embedItems_eq items
  | tuple items => exact embedItems_eq items
  | dict entries => simp [embed, children, embedEntries_eq]
  | part content => exact content.elim
  | _ => rfl

theorem embed_holds_none (part : Part) (value : Value) : ¬part.In value.embed := by
  induction value using byChildren with
  | node value ih =>
      intro held
      generalize whole : value.embed = draft at held
      cases held with
      | here =>
          cases value with
          | part content => exact content.elim
          | _ => simp [embed] at whole
      | inside member held =>
          rw [← whole, children_embed] at member
          obtain ⟨child, inside, rfl⟩ := List.mem_map.mp member
          exact ih child inside held

end Value

namespace Draft

/-- No property and no schema stands inside a draft. -/
def Copied (draft : Draft) : Prop := ∀ part : Part, part.In draft → part.copyable = true

theorem copyableItems_iff {items : List Draft} :
    copyableItems items = true ↔ ∀ item ∈ items, copyable item = true := by
  induction items with
  | nil => simp [copyableItems]
  | cons item rest ih => simp [copyableItems, ih]

theorem copyableEntries_iff {entries : List (Key × Draft)} :
    copyableEntries entries = true ↔ ∀ entry ∈ entries, copyable entry.2 = true := by
  induction entries with
  | nil => simp [copyableEntries]
  | cons entry rest ih => simp [copyableEntries, ih]

theorem copyable_iff_children {draft : Draft} (whole : ∀ part : Part, draft ≠ .part part) :
    draft.copyable = true ↔ ∀ child ∈ draft.children, copyable child = true := by
  cases draft with
  | list items => exact copyableItems_iff
  | tuple items => exact copyableItems_iff
  | dict entries =>
      simp only [copyable, copyableEntries_iff, Value.children, List.forall_mem_map]
  | part part => exact absurd rfl (whole part)
  | _ => simp [copyable, Value.children]

theorem copyable_iff {draft : Draft} : draft.copyable = true ↔ draft.Copied := by
  induction draft using Value.byChildren with
  | node draft inside =>
      by_cases whole : ∃ part : Part, draft = .part part
      · obtain ⟨part, rfl⟩ := whole
        constructor
        · intro copied other held
          cases held with
          | here => exact copied
          | inside member _ => cases member
        · intro copied
          exact copied part .here
      · have other : ∀ part : Part, draft ≠ .part part := fun part same => whole ⟨part, same⟩
        rw [copyable_iff_children other]
        constructor
        · intro copied part held
          cases held with
          | here => exact absurd rfl (other part)
          | inside member held => exact (inside _ member).mp (copied _ member) part held
        · intro copied child member
          exact (inside child member).mpr fun part held => copied part (.inside member held)

end Draft

theorem Draft.copied_embed (value : Value) : Draft.Copied value.embed :=
  fun part held => absurd held (Value.embed_holds_none part value)

theorem Draft.plainEntries_eq (entries : List (Key × Draft)) :
    plainEntries entries = entries.map fun entry => (entry.1, plain entry.2) := by
  induction entries with
  | nil => rfl
  | cons entry rest ih => simp [plainEntries, ih]

end RecordCheck
