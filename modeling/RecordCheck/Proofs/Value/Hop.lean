import RecordCheck.Path
import RecordCheck.Value.Literal

/-!
Ways into a value by its own keys and positions. Unlike a path, which is made of names, a list of
hops leads to one place only.
-/

namespace RecordCheck

inductive Hop
  | entry (key : Key)
  | item (position : Nat)
deriving DecidableEq

namespace Hop

def segment : Hop → Segment
  | entry key => .name key.spelled
  | item position => .index position

def enter : Hop → Value → Option Value
  | entry key, .dict entries => entries.lookup key
  | item position, .list items => items[position]?
  | item position, .tuple items => items[position]?
  | _, _ => none

end Hop

def Value.at? : List Hop → Value → Option Value
  | [], value => some value
  | hop :: later, value => (hop.enter value).bind (Value.at? later)

/-- A mapping at the same place in two values that has a key in the first and not in the second. -/
def Value.LosesKey (before after : Value) (hops : List Hop) (key : Key) : Prop :=
  ∃ kept left, before.at? hops = some (.dict kept) ∧ after.at? hops = some (.dict left) ∧
    (kept.lookup key).isSome ∧ left.lookup key = none

namespace Value

variable {before after : Value} {hops : List Hop} {key : Key}

theorem losesKey_cons {hop : Hop} : before.LosesKey after (hop :: hops) key ↔
    ∃ inner innerAfter, hop.enter before = some inner ∧ hop.enter after = some innerAfter ∧
      inner.LosesKey innerAfter hops key := by
  simp only [LosesKey, at?, Option.bind_eq_some_iff]
  constructor
  · rintro ⟨kept, left, ⟨inner, enters, inside⟩, ⟨innerAfter, entersAfter, insideAfter⟩, loses⟩
    exact ⟨inner, innerAfter, enters, entersAfter, kept, left, inside, insideAfter, loses⟩
  · rintro ⟨inner, innerAfter, enters, entersAfter, kept, left, inside, insideAfter, loses⟩
    exact ⟨kept, left, ⟨inner, enters, inside⟩, ⟨innerAfter, entersAfter, insideAfter⟩, loses⟩

theorem losesKey_nil {kept left : List (Key × Value)} :
    LosesKey (.dict kept) (.dict left) [] key ↔
      (kept.lookup key).isSome ∧ left.lookup key = none := by
  constructor
  · rintro ⟨_, _, before, after, loses⟩
    cases before
    cases after
    exact loses
  · intro loses
    exact ⟨kept, left, rfl, rfl, loses⟩

theorem not_losesKey_self (value : Value) : ¬value.LosesKey value hops key := by
  rintro ⟨kept, left, before, after, there, gone⟩
  rw [before] at after
  cases after
  rw [gone] at there
  cases there

end Value

end RecordCheck
