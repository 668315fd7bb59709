import RecordCheck.Path
import RecordCheck.Proofs.Text.Cut
import Std.Data.String.ToInt

/-!
Written paths. Names without dots and opening brackets are told apart from what follows them, so a
path of such names and of positions can be read off its text. Main statement: two such paths are
written alike only if they are the same.
-/

namespace RecordCheck

/-- A name that ends where the next step of a written path begins. -/
def PlainName (name : String) : Prop :=
  name ≠ "" ∧ ∀ char ∈ name.toList, char ≠ '.' ∧ char ≠ '['

instance (name : String) : Decidable (PlainName name) :=
  decidable_of_iff (name ≠ "" ∧ name.toList.all (fun char => char != '.' && char != '[') = true)
    (by simp [PlainName])

def Segment.Plain : Segment → Prop
  | .name text => PlainName text
  | .index position => 0 ≤ position
  | .flag _ => False

/-- A plain name, or a position whatever it is. -/
def Segment.Legible : Segment → Prop
  | .name text => PlainName text
  | .index _ | .flag _ => True

instance : (segment : Segment) → Decidable segment.Legible
  | .name text => inferInstanceAs (Decidable (PlainName text))
  | .index _ | .flag _ => inferInstanceAs (Decidable True)

theorem Segment.Plain.legible {segment : Segment} (plain : segment.Plain) : segment.Legible := by
  cases segment with
  | name text => exact plain
  | index position => trivial
  | flag position => trivial

namespace Path

def beginsStep (char : Char) : Prop := char = '.' ∨ char = '['

theorem flatMap_step_head (path : Path) (char : Char)
    (head : (path.flatMap step).head? = some char) : beginsStep char := by
  cases path with
  | nil => cases head
  | cons segment rest =>
      cases segment with
      | name name =>
          cases head
          exact Or.inl rfl
      | index position =>
          cases head
          exact Or.inr rfl
      | flag position =>
          cases head
          exact Or.inr rfl

theorem goes_of_free {name : String} (free : ∀ char ∈ name.toList, char ≠ '.' ∧ char ≠ '[') :
    ∀ char ∈ name.toList, ¬beginsStep char := by
  intro char member begins
  have differs := free char member
  rcases begins with dot | bracket
  · exact differs.1 dot
  · exact differs.2 bracket

theorem plainName_goes {name : String} (plain : PlainName name) :
    ∀ char ∈ name.toList, ¬beginsStep char := goes_of_free plain.2

theorem digit_of_mem_position {position : Int} {char : Char}
    (member : char ∈ (toString position).toList) : char = '-' ∨ char.isDigit = true := by
  have digit : ∀ number : Nat, char ∈ number.repr.toList → char.isDigit = true := by
    intro number inside
    rw [Nat.toList_repr] at inside
    exact Nat.isDigit_of_mem_toDigits (by omega) (by omega) inside
  cases position with
  | ofNat number => exact Or.inr (digit number member)
  | negSucc number =>
      have written : (toString (Int.negSucc number)).toList =
          '-' :: (number + 1).repr.toList := by
        rw [show toString (Int.negSucc number) = "-" ++ (number + 1).repr from rfl,
          String.toList_append]
        rfl
      rw [written] at member
      exact (List.mem_cons.mp member).imp_right (digit (number + 1))

def bracketed : Segment → List Char
  | .name _ => []
  | .index position => (toString position).toList
  | .flag position => (if position then "True" else "False").toList

theorem name_or_bracketed (segment : Segment) : (∃ name, segment = .name name) ∨
    (∀ name, segment ≠ .name name) ∧ step segment = '[' :: (bracketed segment ++ [']']) := by
  cases segment with
  | name name => exact Or.inl ⟨name, rfl⟩
  | index position => exact Or.inr ⟨nofun, rfl⟩
  | flag position => exact Or.inr ⟨nofun, rfl⟩

theorem bracketed_goes (segment : Segment) : ∀ char ∈ bracketed segment, char ≠ ']' := by
  intro char member
  cases segment with
  | name name => cases member
  | index position =>
      rintro rfl
      exact (digit_of_mem_position member).elim (by decide) (by decide)
  | flag position =>
      rintro rfl
      cases position with
      | false => exact absurd member (by decide)
      | true => exact absurd member (by decide)

theorem index_ne_flag (position : Int) (flag : Bool) :
    bracketed (.index position) ≠ bracketed (.flag flag) := by
  intro same
  obtain ⟨letter, inside, apart⟩ : ∃ letter ∈ bracketed (.flag flag),
      ¬(letter = '-' ∨ letter.isDigit = true) := by
    cases flag with
    | false => exact ⟨'F', by decide, by decide⟩
    | true => exact ⟨'T', by decide, by decide⟩
  rw [← same] at inside
  exact apart (digit_of_mem_position inside)

theorem bracketed_injective {left right : Segment} (leftPosition : ∀ name, left ≠ .name name)
    (rightPosition : ∀ name, right ≠ .name name) (same : bracketed left = bracketed right) :
    left = right := by
  cases left with
  | name name => exact absurd rfl (leftPosition name)
  | index position =>
      cases right with
      | name name => exact absurd rfl (rightPosition name)
      | index other => exact congrArg _ (Int.repr_injective (String.toList_injective same))
      | flag other => exact absurd same (index_ne_flag position other)
  | flag position =>
      cases right with
      | name name => exact absurd rfl (rightPosition name)
      | index other => exact absurd same.symm (index_ne_flag other position)
      | flag other => cases position <;> cases other <;> first | rfl | cases same

theorem bracket_unique {left right : Segment} {leftRest rightRest : List Char}
    (same : bracketed left ++ ']' :: leftRest = bracketed right ++ ']' :: rightRest) :
    bracketed left = bracketed right ∧ leftRest = rightRest := by
  obtain ⟨inner, rests⟩ := Text.cut_unique (· = ']') (bracketed_goes left) (bracketed_goes right)
    (by simp) (by simp) same
  exact ⟨inner, by simpa using rests⟩

theorem step_unique {left right : Segment} {leftRest rightRest : Path}
    (leftLegible : left.Legible) (rightLegible : right.Legible)
    (same : step left ++ leftRest.flatMap step = step right ++ rightRest.flatMap step) :
    left = right ∧ leftRest.flatMap step = rightRest.flatMap step := by
  rcases name_or_bracketed left with ⟨name, rfl⟩ | ⟨leftPosition, leftStep⟩
  · rcases name_or_bracketed right with ⟨other, rfl⟩ | ⟨rightPosition, rightStep⟩
    · -- what follows a name is empty or begins the next step, so both names end there
      simp only [step, List.cons_append, List.cons.injEq, true_and] at same
      obtain ⟨names, rests⟩ := Text.cut_unique beginsStep (plainName_goes leftLegible)
        (plainName_goes rightLegible) (flatMap_step_head leftRest) (flatMap_step_head rightRest) same
      exact ⟨congrArg _ (String.toList_injective names), rests⟩
    · rw [rightStep] at same
      simp [step] at same
  · rcases name_or_bracketed right with ⟨other, rfl⟩ | ⟨rightPosition, rightStep⟩
    · rw [leftStep] at same
      simp [step] at same
    · rw [leftStep, rightStep] at same
      simp only [List.cons_append, List.append_assoc, List.cons.injEq, true_and,
        List.nil_append] at same
      obtain ⟨inner, rests⟩ := bracket_unique same
      exact ⟨bracketed_injective leftPosition rightPosition inner, rests⟩

theorem step_ne_nil (segment : Segment) (rest : List Char) : step segment ++ rest ≠ [] := by
  cases segment <;> simp [step]

theorem flatMap_step_injective {left right : Path} (leftLegible : ∀ segment ∈ left, segment.Legible)
    (rightLegible : ∀ segment ∈ right, segment.Legible)
    (same : left.flatMap step = right.flatMap step) : left = right := by
  induction left generalizing right with
  | nil =>
      cases right with
      | nil => rfl
      | cons segment rest => exact absurd same.symm (step_ne_nil segment _)
  | cons segment rest ih =>
      cases right with
      | nil => exact absurd same (step_ne_nil segment _)
      | cons other later =>
          obtain ⟨rfl, rests⟩ := step_unique (leftLegible segment List.mem_cons_self)
            (rightLegible other List.mem_cons_self) same
          rw [ih (fun next member => leftLegible next (List.mem_cons_of_mem _ member))
            (fun next member => rightLegible next (List.mem_cons_of_mem _ member)) rests]

theorem plainName_not_step {name : String} (plain : PlainName name) (rest : List Char)
    (path : Path) : name.toList ++ rest ≠ path.flatMap step := by
  intro same
  cases chars : name.toList with
  | nil => exact plain.1 (String.toList_injective (by rw [chars]; rfl))
  | cons char later =>
      have begins := flatMap_step_head path char (by rw [← same, chars]; rfl)
      exact plainName_goes plain char (by simp [chars]) begins

theorem chars_of_name (name : String) (rest : Path) :
    chars (.name name :: rest) = name.toList ++ rest.flatMap step := rfl

theorem chars_of_other {path : Path} (other : ∀ name rest, path ≠ .name name :: rest) :
    chars path = path.flatMap step := by
  cases path with
  | nil => rfl
  | cons segment rest =>
      cases segment with
      | name name => exact absurd rfl (other name rest)
      | index position => rfl
      | flag position => rfl

/-- A path as it is written after other steps. -/
def continuation (path : Path) : String := String.ofList (path.flatMap step)

theorem render_append {base path : Path}
    (goesOn : base ≠ [] ∨ ∀ name rest, path ≠ .name name :: rest) :
    (base ++ path).render = base.render ++ path.continuation := by
  have chars : chars (base ++ path) = chars base ++ path.flatMap step := by
    cases base with
    | nil => exact chars_of_other (goesOn.resolve_left fun some => some rfl)
    | cons segment rest =>
        cases segment with
        | name name => simp only [List.cons_append, Path.chars, List.flatMap_append,
            List.append_assoc]
        | index position => simp only [List.cons_append, Path.chars, ← List.flatMap_append]
        | flag position => simp only [List.cons_append, Path.chars, ← List.flatMap_append]
  rw [render, chars, String.ofList_append, render, continuation]

theorem render_append_index (base : Path) (position : Int) (rest : Path) :
    (base ++ .index position :: rest).render =
      base.render ++ continuation (.index position :: rest) :=
  render_append (Or.inr fun _ _ same => by cases same)

theorem index_of_render (base : Path) {left right : Nat} {leftRest rightRest : Path}
    (same : (base ++ .index left :: leftRest).render =
      (base ++ .index right :: rightRest).render) : left = right := by
  rw [render_append_index, render_append_index, String.append_right_inj] at same
  have chars := String.ofList_injective same
  have leftLegible : (Segment.index left).Legible := trivial
  have rightLegible : (Segment.index right).Legible := trivial
  have positions := (step_unique leftLegible rightLegible (by simpa using chars)).1
  exact Int.ofNat_inj.mp (Segment.index.inj positions)

theorem render_index_ne (base : Path) (position : Int) (rest : Path) :
    (base ++ .index position :: rest).render ≠ base.render := by
  intro same
  rw [render_append_index] at same
  have chars := congrArg String.toList same
  simp [continuation, step] at chars

theorem chars_injective {left right : Path} (leftLegible : ∀ segment ∈ left, segment.Legible)
    (rightLegible : ∀ segment ∈ right, segment.Legible) (same : left.chars = right.chars) :
    left = right := by
  by_cases leftName : ∃ name rest, left = .name name :: rest
  · obtain ⟨name, rest, rfl⟩ := leftName
    have plain : PlainName name := leftLegible _ List.mem_cons_self
    by_cases rightName : ∃ name rest, right = .name name :: rest
    · obtain ⟨next, later, rfl⟩ := rightName
      -- with the dot that the first name goes without, both are written as after other steps
      have dotted : ('.' :: chars (.name name :: rest)) = '.' :: chars (.name next :: later) := by
        rw [same]
      exact flatMap_step_injective leftLegible rightLegible dotted
    · rw [chars_of_name, chars_of_other (by simpa using rightName)] at same
      exact absurd same (plainName_not_step plain _ right)
  · rw [chars_of_other (by simpa using leftName)] at same
    by_cases rightName : ∃ name rest, right = .name name :: rest
    · obtain ⟨next, later, rfl⟩ := rightName
      exact absurd same.symm (plainName_not_step (rightLegible _ List.mem_cons_self) _ left)
    · rw [chars_of_other (by simpa using rightName)] at same
      exact flatMap_step_injective leftLegible rightLegible same

theorem render_injective {left right : Path} (leftPlain : ∀ segment ∈ left, segment.Plain)
    (rightPlain : ∀ segment ∈ right, segment.Plain) (same : left.render = right.render) :
    left = right :=
  chars_injective (fun segment member => (leftPlain segment member).legible)
    (fun segment member => (rightPlain segment member).legible) (String.ofList_injective same)

/-- Paths of which the names are not empty and hold neither a dot nor an opening bracket are
written alike only if they are the same, whatever their positions are. -/
theorem legible_paths_written_apart (left right : Path)
    (leftLegible : ∀ segment ∈ left, segment.Legible)
    (rightLegible : ∀ segment ∈ right, segment.Legible) :
    left.render = right.render ↔ left = right :=
  ⟨fun same => chars_injective leftLegible rightLegible (String.ofList_injective same),
    congrArg render⟩

/-- A closing bracket or a digit in a name is not taken for a position. -/
theorem bracketed_names_written_apart :
    (∀ segment ∈ ([.name "a", .index 0, .name "0]"] : Path), segment.Legible) ∧
    (∀ segment ∈ ([.name "a", .index 0, .index 0] : Path), segment.Legible) ∧
    render [.name "a", .index 0, .name "0]"] ≠ render [.name "a", .index 0, .index 0] := by
  have leftLegible : ∀ segment ∈ ([.name "a", .index 0, .name "0]"] : Path), segment.Legible := by
    decide
  have rightLegible : ∀ segment ∈ ([.name "a", .index 0, .index 0] : Path), segment.Legible := by
    decide
  refine ⟨leftLegible, rightLegible, fun same => ?_⟩
  exact absurd ((legible_paths_written_apart _ _ leftLegible rightLegible).mp same) (by decide)

theorem eq_of_render {name other : String} {rest : Path}
    (goes : ∀ char ∈ name.toList, ¬beginsStep char)
    (same : render (.name other :: rest) = name) : rest = [] ∧ other = name := by
  have chars : other.toList ++ rest.flatMap step = name.toList := by
    rw [← same, render, chars_of_name, String.toList_ofList]
  cases rest with
  | nil => exact ⟨rfl, String.toList_injective (by simpa using chars)⟩
  | cons segment later =>
      obtain ⟨char, head⟩ : ∃ char, ((segment :: later).flatMap step).head? = some char := by
        cases segment <;> exact ⟨_, rfl⟩
      have inside : char ∈ name.toList := by
        rw [← chars]
        exact List.mem_append_right _ (List.mem_of_head? head)
      exact absurd (flatMap_step_head _ char head) (goes char inside)

end Path

end RecordCheck
