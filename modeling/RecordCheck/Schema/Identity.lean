import RecordCheck.Schema.Basic

/-!
Equality of compiled schemas can be decided: two properties are equal when their shapes, rules,
defaults and further keys are.
-/

namespace RecordCheck

namespace Property

mutual

def identical : Property → Property → Bool
  | ⟨.scalar left, rules, fallback, extras⟩, ⟨.scalar right, rules', fallback', extras'⟩ =>
      left == right && rules == rules' && fallback == fallback' && extras == extras'
  | ⟨.object none, rules, fallback, extras⟩, ⟨.object none, rules', fallback', extras'⟩ =>
      rules == rules' && fallback == fallback' && extras == extras'
  | ⟨.object (some left), rules, fallback, extras⟩,
    ⟨.object (some right), rules', fallback', extras'⟩ =>
      identicalMembers left right && rules == rules' && fallback == fallback' && extras == extras'
  | ⟨.array none, rules, fallback, extras⟩, ⟨.array none, rules', fallback', extras'⟩ =>
      rules == rules' && fallback == fallback' && extras == extras'
  | ⟨.array (some left), rules, fallback, extras⟩,
    ⟨.array (some right), rules', fallback', extras'⟩ =>
      identical left right && rules == rules' && fallback == fallback' && extras == extras'
  | _, _ => false

def identicalMembers : List (String × Property) → List (String × Property) → Bool
  | [], [] => true
  | (name, left) :: lefts, (otherName, right) :: rights =>
      name == otherName && identical left right && identicalMembers lefts rights
  | _, _ => false

end

mutual

theorem identical_iff : ∀ left right : Property, identical left right = true ↔ left = right
  | ⟨.scalar _, _, _, _⟩, ⟨shape, _, _, _⟩ => by
      rcases shape with _ | (_ | _) | (_ | _) <;> simp [identical, and_assoc]
  | ⟨.object none, _, _, _⟩, ⟨shape, _, _, _⟩ => by
      rcases shape with _ | (_ | _) | (_ | _) <;> simp [identical, and_assoc]
  | ⟨.object (some members), _, _, _⟩, ⟨shape, _, _, _⟩ => by
      rcases shape with _ | (_ | _) | (_ | _) <;>
        simp [identical, and_assoc, identicalMembers_iff members]
  | ⟨.array none, _, _, _⟩, ⟨shape, _, _, _⟩ => by
      rcases shape with _ | (_ | _) | (_ | _) <;> simp [identical, and_assoc]
  | ⟨.array (some item), _, _, _⟩, ⟨shape, _, _, _⟩ => by
      rcases shape with _ | (_ | _) | (_ | _) <;>
        simp [identical, and_assoc, identical_iff item]

theorem identicalMembers_iff : ∀ left right : List (String × Property),
    identicalMembers left right = true ↔ left = right
  | [], right => by cases right <;> simp [identicalMembers]
  | (name, property) :: rest, right => by
      cases right with
      | nil => simp [identicalMembers]
      | cons other later =>
          obtain ⟨otherName, otherProperty⟩ := other
          simp [identicalMembers, identical_iff property otherProperty,
            identicalMembers_iff rest later]

end

instance : DecidableEq Property := fun left right =>
  decidable_of_iff (identical left right = true) (identical_iff left right)

end Property

deriving instance DecidableEq for Schema

end RecordCheck
