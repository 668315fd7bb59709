import RecordCheck.Text.Pattern

/-!
Character classes of patterns. What holds of every class of a pattern holds of the texts that it
describes: they consist of the characters that the classes accept, and characters may be exchanged
for others that the same classes accept.
-/

namespace RecordCheck.Text.Pattern

/-- Every character class of a pattern has a property. -/
def EachClass (holds : (Char → Bool) → Prop) : Pattern → Prop
  | empty => True
  | one accepts => holds accepts
  | seq first second | either first second => EachClass holds first ∧ EachClass holds second

section Combined

variable {holds : (Char → Bool) → Prop} {pattern first : Pattern} {patterns : List Pattern}

theorem eachClass_maybe : pattern.maybe.EachClass holds ↔ pattern.EachClass holds := by
  simp [maybe, EachClass]

theorem eachClass_all :
    (all patterns).EachClass holds ↔ ∀ pattern ∈ patterns, pattern.EachClass holds := by
  induction patterns with
  | nil => simp [all, EachClass]
  | cons pattern later ih => simp [all, EachClass, ih]

theorem eachClass_anyOf : (anyOf first patterns).EachClass holds ↔
    first.EachClass holds ∧ ∀ pattern ∈ patterns, pattern.EachClass holds := by
  induction patterns generalizing first with
  | nil => simp [anyOf]
  | cons pattern later ih => simp [anyOf, EachClass, ih]

theorem EachClass.mono {weaker : (Char → Bool) → Prop} (each : pattern.EachClass holds)
    (imply : ∀ accepts, holds accepts → weaker accepts) : pattern.EachClass weaker := by
  induction pattern with
  | empty => trivial
  | one accepts => exact imply accepts each
  | seq first second firstIh secondIh => exact ⟨firstIh each.1, secondIh each.2⟩
  | either first second firstIh secondIh => exact ⟨firstIh each.1, secondIh each.2⟩

theorem EachClass.times (each : pattern.EachClass holds) (count : Nat) :
    (pattern.times count).EachClass holds := by
  induction count with
  | zero => trivial
  | succ count ih => exact ⟨each, ih⟩

theorem EachClass.upTo (each : pattern.EachClass holds) (count : Nat) :
    (pattern.upTo count).EachClass holds := by
  induction count with
  | zero => trivial
  | succ count ih => exact ⟨⟨each, ih⟩, trivial⟩

end Combined

variable {pattern : Pattern} {text : List Char}

theorem Matches.all_append {first second : List Pattern} {left right : List Char}
    (front : Matches (all first) left) (back : Matches (all second) right) :
    Matches (all (first ++ second)) (left ++ right) := by
  induction first generalizing left with
  | nil =>
      cases front
      exact back
  | cons pattern later ih =>
      cases front with
      | seq head tail =>
          rw [List.append_assoc]
          exact .seq head (ih tail)

theorem matches_times {accepts : Char → Bool} {chars : List Char}
    (each : ∀ char ∈ chars, accepts char = true) :
    Matches ((one accepts).times chars.length) chars := by
  induction chars with
  | nil => exact .empty
  | cons char rest ih =>
      have own := each char List.mem_cons_self
      exact .seq (.one own) (ih fun other member => each other (List.mem_cons_of_mem _ member))

theorem Matches.forall_mem {holds : Char → Prop} (matched : Matches pattern text)
    (each : pattern.EachClass fun accepts => ∀ char, accepts char = true → holds char) :
    ∀ char ∈ text, holds char := by
  induction matched with
  | empty => nofun
  | one accepted => exact List.forall_mem_singleton.mpr (each _ accepted)
  | seq _ _ firstIh secondIh =>
      exact List.forall_mem_append.mpr ⟨firstIh each.1, secondIh each.2⟩
  | left _ ih => exact ih each.1
  | right _ ih => exact ih each.2

theorem Matches.map {change : Char → Char} (matched : Matches pattern text)
    (each : pattern.EachClass fun accepts =>
      ∀ char, accepts char = true → accepts (change char) = true) :
    Matches pattern (text.map change) := by
  induction matched with
  | empty => exact .empty
  | one accepted => exact .one (each _ accepted)
  | seq _ _ firstIh secondIh =>
      rw [List.map_append]
      exact .seq (firstIh each.1) (secondIh each.2)
  | left _ ih => exact .left (ih each.1)
  | right _ ih => exact .right (ih each.2)

end RecordCheck.Text.Pattern
