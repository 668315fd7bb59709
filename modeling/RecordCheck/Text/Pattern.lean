/-!
Finite patterns: character classes put in sequence, in alternatives and in bounded repetition. A
pattern has a language, `Matches`, and a matcher, `rests`, that lists what is left after each way to
read the pattern at the start of a text.
-/

namespace RecordCheck.Text

inductive Pattern
  | empty
  | one (accepts : Char → Bool)
  | seq (first second : Pattern)
  | either (first second : Pattern)

namespace Pattern

def char (expected : Char) : Pattern := one (· == expected)

def maybe (pattern : Pattern) : Pattern := either pattern empty

def all : List Pattern → Pattern
  | [] => empty
  | pattern :: later => seq pattern (all later)

def anyOf (first : Pattern) : List Pattern → Pattern
  | [] => first
  | second :: later => either first (anyOf second later)

def times : Nat → Pattern → Pattern
  | 0, _ => empty
  | count + 1, pattern => seq pattern (times count pattern)

def upTo : Nat → Pattern → Pattern
  | 0, _ => empty
  | count + 1, pattern => maybe (seq pattern (upTo count pattern))

inductive Matches : Pattern → List Char → Prop
  | empty : Matches empty []
  | one {accepts char} : accepts char = true → Matches (one accepts) [char]
  | seq {first second left right} : Matches first left → Matches second right →
      Matches (seq first second) (left ++ right)
  | left {first second text} : Matches first text → Matches (either first second) text
  | right {first second text} : Matches second text → Matches (either first second) text

/-- What is left of a text after each way to read the pattern at its start. -/
def rests : Pattern → List Char → List (List Char)
  | empty, text => [text]
  | one _, [] => []
  | one accepts, char :: text => if accepts char then [text] else []
  | seq first second, text => (first.rests text).flatMap second.rests
  | either first second, text => first.rests text ++ second.rests text

def accepts (pattern : Pattern) (text : List Char) : Bool := (pattern.rests text).contains []

theorem mem_rests_iff (pattern : Pattern) (text rest : List Char) :
    rest ∈ pattern.rests text ↔ ∃ read, Matches pattern read ∧ text = read ++ rest := by
  induction pattern generalizing text rest with
  | empty =>
      constructor
      · intro found
        simp only [rests, List.mem_singleton] at found
        exact ⟨[], .empty, by simp [found]⟩
      · rintro ⟨read, matched, same⟩
        cases matched
        simp [rests, same]
  | one accepts =>
      constructor
      · intro found
        cases text with
        | nil => simp [rests] at found
        | cons char later =>
            simp only [rests] at found
            split at found
            · rename_i accepted
              simp only [List.mem_singleton] at found
              exact ⟨[char], .one accepted, by simp [found]⟩
            · simp at found
      · rintro ⟨read, matched, same⟩
        cases matched with
        | one accepted => simp [rests, same, accepted]
  | seq first second firstIh secondIh =>
      simp only [rests, List.mem_flatMap]
      constructor
      · rintro ⟨middle, firstFound, secondFound⟩
        obtain ⟨left, leftMatched, leftSame⟩ := (firstIh text middle).mp firstFound
        obtain ⟨right, rightMatched, rightSame⟩ := (secondIh middle rest).mp secondFound
        exact ⟨left ++ right, .seq leftMatched rightMatched, by simp [leftSame, rightSame]⟩
      · rintro ⟨read, matched, same⟩
        cases matched with
        | @seq _ _ left right leftMatched rightMatched =>
            refine ⟨right ++ rest, (firstIh _ _).mpr ⟨left, leftMatched, ?_⟩,
              (secondIh _ _).mpr ⟨right, rightMatched, rfl⟩⟩
            rw [same, List.append_assoc]
  | either first second firstIh secondIh =>
      simp only [rests, List.mem_append, firstIh, secondIh]
      constructor
      · rintro (⟨read, matched, same⟩ | ⟨read, matched, same⟩)
        · exact ⟨read, .left matched, same⟩
        · exact ⟨read, .right matched, same⟩
      · rintro ⟨read, matched, same⟩
        cases matched with
        | left matched => exact Or.inl ⟨read, matched, same⟩
        | right matched => exact Or.inr ⟨read, matched, same⟩

theorem accepts_iff (pattern : Pattern) (text : List Char) :
    pattern.accepts text = true ↔ Matches pattern text := by
  simp only [accepts, List.contains_iff_mem, mem_rests_iff, List.append_nil]
  constructor
  · rintro ⟨read, matched, same⟩
    rw [same]
    exact matched
  · intro matched
    exact ⟨text, matched, rfl⟩

end Pattern

end RecordCheck.Text
