import RecordCheck.Value.Kind

/-!
Two ways to compare values. `same` is the equality that rules use: numbers are compared by value
whatever their kind, NaN equals nothing, and mappings are compared whatever their order.
`identical` is equality of the values as they are written.
-/

namespace RecordCheck.Value

mutual

def same : Value → Value → Bool
  | .null, .null => true
  | .absent, .absent => true
  | .text left, .text right => left == right
  | .bytes left, .bytes right => left == right
  | .list left, .list right => sameItems left right
  | .tuple left, .tuple right => sameItems left right
  | .dict left, .dict right => left.length == right.length && sameEntries left right
  | left, right =>
      match left.number?, right.number? with
      | some first, some second => first.same second
      | _, _ => false

def sameItems : List Value → List Value → Bool
  | [], [] => true
  | left :: lefts, right :: rights => same left right && sameItems lefts rights
  | _, _ => false

def sameEntries : List (Key × Value) → List (Key × Value) → Bool
  | [], _ => true
  | (key, left) :: rest, entries =>
      match Entries.find? Key.same key entries with
      | some right => same left right && sameEntries rest entries
      | none => false

end

variable {Part : Type} [DecidableEq Part]

mutual

def identical : Value Part → Value Part → Bool
  | .null, .null => true
  | .absent, .absent => true
  | .bool left, .bool right => left == right
  | .int left, .int right => left == right
  | .float left, .float right => left == right
  | .text left, .text right => left == right
  | .bytes left, .bytes right => left == right
  | .list left, .list right => identicalItems left right
  | .tuple left, .tuple right => identicalItems left right
  | .dict left, .dict right => identicalEntries left right
  | .part left, .part right => left == right
  | _, _ => false

def identicalItems : List (Value Part) → List (Value Part) → Bool
  | [], [] => true
  | left :: lefts, right :: rights => identical left right && identicalItems lefts rights
  | _, _ => false

def identicalEntries : List (Key × Value Part) → List (Key × Value Part) → Bool
  | [], [] => true
  | (leftKey, left) :: lefts, (rightKey, right) :: rights =>
      leftKey == rightKey && identical left right && identicalEntries lefts rights
  | _, _ => false

end

mutual

theorem identical_iff : ∀ left right : Value Part, identical left right = true ↔ left = right
  | .null, right => by cases right <;> simp [identical]
  | .absent, right => by cases right <;> simp [identical]
  | .bool _, right => by cases right <;> simp [identical]
  | .int _, right => by cases right <;> simp [identical]
  | .float _, right => by cases right <;> simp [identical]
  | .text _, right => by cases right <;> simp [identical]
  | .bytes _, right => by cases right <;> simp [identical]
  | .list items, right => by cases right <;> simp [identical, identicalItems_iff items]
  | .tuple items, right => by cases right <;> simp [identical, identicalItems_iff items]
  | .dict entries, right => by cases right <;> simp [identical, identicalEntries_iff entries]
  | .part _, right => by cases right <;> simp [identical]

theorem identicalItems_iff : ∀ left right : List (Value Part),
    identicalItems left right = true ↔ left = right
  | [], right => by cases right <;> simp [identicalItems]
  | item :: rest, right => by
      cases right with
      | nil => simp [identicalItems]
      | cons other later =>
          simp [identicalItems, identical_iff item other, identicalItems_iff rest later]

theorem identicalEntries_iff : ∀ left right : List (Key × Value Part),
    identicalEntries left right = true ↔ left = right
  | [], right => by cases right <;> simp [identicalEntries]
  | (key, item) :: rest, right => by
      cases right with
      | nil => simp [identicalEntries]
      | cons other later =>
          obtain ⟨otherKey, otherItem⟩ := other
          simp [identicalEntries, identical_iff item otherItem, identicalEntries_iff rest later]

end

instance : DecidableEq (Value Part) := fun left right =>
  decidable_of_iff (identical left right = true) (identical_iff left right)

end RecordCheck.Value
