import RecordCheck.Text.Blank

/-!
Cutting texts. A text is cut at the first character of a kind, in one way only. Trimming takes the
blanks at both ends away and nothing else: what stays has no blank at its ends, and blanks put
around a text make no difference to it.
-/

namespace RecordCheck.Text

/-- Characters that pass a test are cut from what follows at the first one that fails it. -/
theorem cut_at_stop (test : Char → Bool) {chars rest : List Char}
    (goes : ∀ char ∈ chars, test char = true)
    (stops : ∀ char, rest.head? = some char → test char = false) :
    (chars ++ rest).takeWhile test = chars ∧ (chars ++ rest).dropWhile test = rest := by
  rw [List.takeWhile_append_of_pos goes, List.dropWhile_append_of_pos goes]
  cases rest with
  | nil => simp
  | cons char later => simp [stops char rfl]

/-- A text that ends at the first character of a kind is cut from what follows in one way only. -/
theorem cut_unique (stops : Char → Prop) {left right leftRest rightRest : List Char}
    (leftGoes : ∀ char ∈ left, ¬stops char) (rightGoes : ∀ char ∈ right, ¬stops char)
    (leftStops : ∀ char, leftRest.head? = some char → stops char)
    (rightStops : ∀ char, rightRest.head? = some char → stops char)
    (same : left ++ leftRest = right ++ rightRest) : left = right ∧ leftRest = rightRest := by
  induction left generalizing right with
  | nil =>
      cases right with
      | nil => exact ⟨rfl, same⟩
      | cons char rest =>
          have stop := leftStops char (by rw [← List.nil_append leftRest, same]; rfl)
          exact absurd stop (rightGoes char List.mem_cons_self)
  | cons char rest ih =>
      cases right with
      | nil =>
          have stop := rightStops char (by rw [← List.nil_append rightRest, ← same]; rfl)
          exact absurd stop (leftGoes char List.mem_cons_self)
      | cons other later =>
          simp only [List.cons_append, List.cons.injEq] at same
          obtain ⟨equal, rests⟩ := ih (fun char member => leftGoes char (List.mem_cons_of_mem _ member))
            (fun char member => rightGoes char (List.mem_cons_of_mem _ member)) same.2
          exact ⟨by rw [same.1, equal], rests⟩

def Avoids (banned chars : List Char) : Prop := ∀ char ∈ chars, char ∉ banned

instance (banned chars : List Char) : Decidable (Avoids banned chars) :=
  inferInstanceAs (Decidable (∀ char ∈ chars, char ∉ banned))

section Avoids

variable {banned wider chars : List Char}

@[simp] theorem avoids_nil : Avoids banned [] := nofun

@[simp] theorem avoids_cons {char : Char} :
    Avoids banned (char :: chars) ↔ char ∉ banned ∧ Avoids banned chars := List.forall_mem_cons

@[simp] theorem avoids_append {later : List Char} :
    Avoids banned (chars ++ later) ↔ Avoids banned chars ∧ Avoids banned later :=
  List.forall_mem_append

theorem Avoids.mono (avoids : Avoids wider chars) {inner : List Char} (inside : inner ⊆ chars)
    (fewer : banned ⊆ wider) : Avoids banned inner :=
  fun char member listed => avoids char (inside member) (fewer listed)

theorem Avoids.also (avoids : Avoids banned chars) {char : Char} (free : char ∉ chars) :
    Avoids (banned ++ [char]) chars := by
  intro other member listed
  rcases List.mem_append.mp listed with inBanned | last
  · exact avoids other member inBanned
  · rw [List.mem_singleton.mp last] at member
    exact free member

theorem Avoids.intercalate {parts : List (List Char)} (each : ∀ part ∈ parts, Avoids banned part)
    {separator : Char} (apart : separator ∉ banned) :
    Avoids banned ([separator].intercalate parts) := by
  induction parts with
  | nil => exact avoids_nil
  | cons part rest ih =>
      have first := each part List.mem_cons_self
      have later := ih fun other member => each other (List.mem_cons_of_mem _ member)
      cases rest with
      | nil => rwa [List.intercalate_singleton]
      | cons next last =>
          rw [List.intercalate_cons_cons]
          simp only [avoids_append, avoids_cons]
          exact ⟨⟨first, apart, avoids_nil⟩, later⟩

end Avoids

theorem intercalate_cons (separator : Char) (first : List Char) (later : List (List Char)) :
    [separator].intercalate (first :: later) = first ++ later.flatMap (separator :: ·) := by
  induction later generalizing first with
  | nil => rw [List.intercalate_singleton, List.flatMap_nil, List.append_nil]
  | cons next rest ih =>
      rw [List.intercalate_cons_cons, ih, List.flatMap_cons, List.append_assoc,
        List.singleton_append, List.cons_append]

theorem subset_intercalate {parts : List (List Char)} {part : List Char} (member : part ∈ parts)
    (separator : Char) : part ⊆ [separator].intercalate parts := by
  induction parts with
  | nil => cases member
  | cons first rest ih =>
      cases rest with
      | nil =>
          rw [List.mem_singleton.mp member, List.intercalate_singleton]
          exact List.Subset.refl first
      | cons next later =>
          rw [List.intercalate_cons_cons, List.append_assoc]
          rcases List.mem_cons.mp member with rfl | inRest
          · exact List.subset_append_left _ _
          · exact fun char inside =>
              List.mem_append_right _ (List.mem_append_right _ (ih inRest inside))

theorem allBlank_append (first second : List Char) :
    allBlank (first ++ second) = (allBlank first && allBlank second) := List.all_append

theorem dropWhile_append_of_allBlank {lead : List Char} (blank : allBlank lead = true)
    (chars : List Char) : (lead ++ chars).dropWhile isBlank = chars.dropWhile isBlank :=
  List.dropWhile_append_of_pos (List.all_eq_true.mp blank)

theorem dropWhile_append_of_solid {lead : List Char} (solid : allBlank lead = false)
    (chars : List Char) :
    (lead ++ chars).dropWhile isBlank = lead.dropWhile isBlank ++ chars := by
  have some : lead.dropWhile isBlank ≠ [] := by
    rw [Ne, dropWhile_isBlank_eq_nil_iff, solid]
    exact Bool.false_ne_true
  rw [List.dropWhile_append, if_neg (by simpa using some)]

theorem trimEnd_append_of_allBlank (chars : List Char) {trail : List Char}
    (blank : allBlank trail = true) : trimEnd (chars ++ trail) = trimEnd chars := by
  have reversed : allBlank trail.reverse = true := by simpa [allBlank] using blank
  rw [trimEnd, List.reverse_append, dropWhile_append_of_allBlank reversed, trimEnd]

theorem trimEnd_append_solid (chars : List Char) {last : Char} (solid : isBlank last = false) :
    trimEnd (chars ++ [last]) = chars ++ [last] := by
  simp [trimEnd, solid]

theorem trim_append {lead trail : List Char} (leadBlank : allBlank lead = true)
    (trailBlank : allBlank trail = true) (chars : List Char) :
    trim (lead ++ chars ++ trail) = trim chars := by
  rw [List.append_assoc, trim, dropWhile_append_of_allBlank leadBlank, trim]
  cases blank : allBlank chars with
  | true =>
      rw [dropWhile_append_of_allBlank blank, (dropWhile_isBlank_eq_nil_iff chars).mpr blank,
        (dropWhile_isBlank_eq_nil_iff trail).mpr trailBlank]
  | false => rw [dropWhile_append_of_solid blank, trimEnd_append_of_allBlank _ trailBlank]

theorem dropWhile_eq_trim_append (chars : List Char) :
    ∃ trail, allBlank trail = true ∧ chars.dropWhile isBlank = trim chars ++ trail := by
  refine ⟨((chars.dropWhile isBlank).reverse.takeWhile isBlank).reverse, ?_, ?_⟩
  · simp [allBlank, List.all_takeWhile]
  · rw [trim, trimEnd, ← List.reverse_append, List.takeWhile_append_dropWhile,
      List.reverse_reverse]

theorem eq_append_trim_append (chars : List Char) : ∃ lead trail,
    allBlank lead = true ∧ allBlank trail = true ∧ chars = lead ++ trim chars ++ trail := by
  obtain ⟨trail, trailBlank, rest⟩ := dropWhile_eq_trim_append chars
  refine ⟨chars.takeWhile isBlank, trail, List.all_takeWhile, trailBlank, ?_⟩
  rw [List.append_assoc, ← rest, List.takeWhile_append_dropWhile]

theorem trim_subset (chars : List Char) : trim chars ⊆ chars := by
  obtain ⟨lead, trail, _, _, whole⟩ := eq_append_trim_append chars
  intro char member
  rw [whole]
  exact List.mem_append_left _ (List.mem_append_right _ member)

theorem trim_trim (chars : List Char) : trim (trim chars) = trim chars := by
  obtain ⟨lead, trail, leadBlank, trailBlank, whole⟩ := eq_append_trim_append chars
  have again := trim_append leadBlank trailBlank (trim chars)
  rwa [← whole, eq_comm] at again

theorem trim_dropWhile (chars : List Char) : trim (chars.dropWhile isBlank) = trim chars := by
  have blank : allBlank (chars.takeWhile isBlank) = true := List.all_takeWhile
  have whole := trim_append blank (show allBlank [] = true from rfl) (chars.dropWhile isBlank)
  rwa [List.append_nil, List.takeWhile_append_dropWhile, eq_comm] at whole

theorem isBlank_of_head_trim {chars : List Char} {first : Char}
    (head : (trim chars).head? = some first) : isBlank first = false := by
  obtain ⟨trail, _, rest⟩ := dropWhile_eq_trim_append chars
  have solid := List.head?_dropWhile_not isBlank chars
  rw [rest, List.head?_append, head] at solid
  simpa using solid

theorem mem_trim_of_solid {chars : List Char} {char : Char} (member : char ∈ chars)
    (solid : isBlank char = false) : char ∈ trim chars := by
  obtain ⟨lead, trail, leadBlank, trailBlank, whole⟩ := eq_append_trim_append chars
  have apart : ∀ {piece : List Char}, allBlank piece = true → char ∉ piece := by
    intro piece blank inside
    rw [List.all_eq_true.mp blank char inside] at solid
    cases solid
  rw [whole, List.mem_append, List.mem_append] at member
  rcases member with (inLead | inside) | inTrail
  · exact absurd inLead (apart leadBlank)
  · exact inside
  · exact absurd inTrail (apart trailBlank)

theorem trim_of_solid {chars : List Char} (solid : ∀ char ∈ chars, isBlank char = false) :
    trim chars = chars := by
  have stays : ∀ {piece : List Char}, (∀ char ∈ piece, isBlank char = false) →
      piece.dropWhile isBlank = piece := by
    intro piece each
    cases piece with
    | nil => rfl
    | cons char rest => rw [List.dropWhile_cons, each char List.mem_cons_self]; rfl
  have reversed : ∀ char ∈ chars.reverse, isBlank char = false :=
    fun char member => solid char (List.mem_reverse.mp member)
  rw [trim, stays solid, trimEnd, stays reversed, List.reverse_reverse]

theorem trim_map {change : Char → Char} (blanks : ∀ char, isBlank (change char) = isBlank char)
    (chars : List Char) : trim (chars.map change) = (trim chars).map change := by
  have test : isBlank ∘ change = isBlank := funext blanks
  simp only [trim, trimEnd, List.dropWhile_map, test, ← List.map_reverse]

theorem trim_append_solid {head : List Char} (named : allBlank head = false) (middle : List Char)
    {last : Char} (solid : isBlank last = false) :
    trim (head ++ (middle ++ [last])) = head.dropWhile isBlank ++ (middle ++ [last]) := by
  rw [trim, dropWhile_append_of_solid named, ← List.append_assoc, trimEnd_append_solid _ solid]

end RecordCheck.Text
