import Mathlib.Data.List.Forall2
import Mathlib.Data.List.Perm.Basic
import Mathlib.Data.Option.Basic
import RecordCheck.Proofs.Entries
import RecordCheck.Proofs.Value.Tree

/-!
Values that are equal but for the order of the entries of their mappings.
-/

namespace RecordCheck.Value

/-- Equal, whatever the order of the entries of a mapping at any level. -/
inductive Alike : Value → Value → Prop
  | same (value : Value) : Alike value value
  | list {left right : List Value} : List.Forall₂ Alike left right →
      Alike (.list left) (.list right)
  | dict {left right : List (Key × Value)} : (left.map Prod.fst).Perm (right.map Prod.fst) →
      (∀ key, Option.Rel Alike (left.lookup key) (right.lookup key)) →
      Alike (.dict left) (.dict right)

theorem Alike.ne_absent {left right : Value} (alike : Alike left right)
    (present : right ≠ .absent) : left ≠ .absent := by
  cases alike with
  | same => exact present
  | list _ => simp
  | dict _ _ => simp

theorem alike_field (field : Option Value) : Option.Rel Alike field field := by
  cases field with
  | none => exact .none
  | some value => exact .some (.same value)

theorem alike_of_lookup {left right : List (Key × Value)}
    (leftKeys : (left.map Prod.fst).Nodup) (rightKeys : (right.map Prod.fst).Nodup)
    (fields : ∀ key, Option.Rel Alike (left.lookup key) (right.lookup key)) :
    Alike (.dict left) (.dict right) := by
  refine .dict ((List.perm_ext_iff_of_nodup leftKeys rightKeys).mpr fun key => ?_) fields
  rw [Entries.mem_keys_iff, Entries.mem_keys_iff]
  have field := fields key
  generalize left.lookup key = one, right.lookup key = other at field
  cases field <;> simp

/-- No tuple and no absent marker is inside a value. -/
inductive Untupled : Value → Prop
  | node {value : Value} : value ≠ .absent → (∀ items, value ≠ .tuple items) →
      (∀ child ∈ value.children, Untupled child) → Untupled value

namespace Untupled

variable {value : Value}

theorem present (untupled : value.Untupled) : value ≠ .absent := by
  cases untupled with
  | node present _ _ => exact present

theorem inside (untupled : value.Untupled) {child : Value} (member : child ∈ value.children) :
    child.Untupled := by
  cases untupled with
  | node _ _ children => exact children child member

theorem list_of_isSequence (untupled : value.Untupled) (sequence : value.isSequence = true) :
    ∃ items, value = .list items := by
  cases untupled with
  | node _ noTuple _ =>
      cases value with
      | list items => exact ⟨items, rfl⟩
      | tuple items => exact absurd rfl (noTuple items)
      | _ => cases sequence

end Untupled

end RecordCheck.Value
