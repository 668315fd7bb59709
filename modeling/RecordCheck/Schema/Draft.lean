import RecordCheck.Schema.Literal

/-!
Authored schemas before they are compiled. A draft is data in which compiled parts may stand: a
whole schema, a property, a directive, or an argument under a key.
-/

namespace RecordCheck

inductive Part
  | argument (key text : String)
  | directive (directive : Directive)
  | property (property : Property)
  | schema (schema : Schema)

abbrev Draft := Value Part

namespace Part

def kindName : Part → String
  | argument _ _ => "KeyedArgument"
  | directive _ => "RuleDescriptor"
  | property _ => "PropertySchema"
  | schema _ => "SchemaRoot"

def shown : Part → String
  | argument key text => (Argument.keyed key text).shown
  | directive content => content.shown
  | property content => content.shown
  | schema content => content.shown

def writable : Part → Bool
  | argument _ _ => true
  | directive content => content.writable
  | property content => content.writable
  | schema content => content.writable

/-- Properties and schemas hold their entries read-only, and such entries cannot be copied. -/
def copyable : Part → Bool
  | argument _ _ | directive _ => true
  | property _ | schema _ => false

instance : Shown Part := ⟨kindName, shown, writable⟩

end Part

namespace Draft

mutual

/-- A draft as plain data. A compiled part that stands where only data has a meaning is kept as its
text. -/
def plain : Draft → Value
  | .null => .null
  | .absent => .absent
  | .bool flag => .bool flag
  | .int integer => .int integer
  | .float number => .float number
  | .text content => .text content
  | .bytes content => .bytes content
  | .list items => .list (plainItems items)
  | .tuple items => .tuple (plainItems items)
  | .dict entries => .dict (plainEntries entries)
  | .part part => .text part.shown

def plainItems : List Draft → List Value
  | [] => []
  | item :: rest => plain item :: plainItems rest

def plainEntries : List (Key × Draft) → List (Key × Value)
  | [] => []
  | (key, item) :: rest => (key, plain item) :: plainEntries rest

end

mutual

theorem plain_embed : ∀ value : Value, plain value.embed = value
  | .null | .absent | .bool _ | .int _ | .float _ | .text _ | .bytes _ => rfl
  | .list items => by simp [Value.embed, plain, plainItems_embedItems items]
  | .tuple items => by simp [Value.embed, plain, plainItems_embedItems items]
  | .dict entries => by simp [Value.embed, plain, plainEntries_embedEntries entries]

theorem plainItems_embedItems : ∀ items : List Value, plainItems (Value.embedItems items) = items
  | [] => rfl
  | item :: rest => by
      simp [Value.embedItems, plainItems, plain_embed item, plainItems_embedItems rest]

theorem plainEntries_embedEntries : ∀ entries : List (Key × Value),
    plainEntries (Value.embedEntries entries) = entries
  | [] => rfl
  | (key, item) :: rest => by
      simp [Value.embedEntries, plainEntries, plain_embed item, plainEntries_embedEntries rest]

end

mutual

def copyable : Draft → Bool
  | .list items | .tuple items => copyableItems items
  | .dict entries => copyableEntries entries
  | .part part => part.copyable
  | _ => true

def copyableItems : List Draft → Bool
  | [] => true
  | item :: rest => copyable item && copyableItems rest

def copyableEntries : List (Key × Draft) → Bool
  | [] => true
  | (_, item) :: rest => copyable item && copyableEntries rest

end

end Draft

end RecordCheck
