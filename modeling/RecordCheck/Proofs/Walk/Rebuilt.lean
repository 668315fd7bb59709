import Mathlib.Data.List.Nodup
import RecordCheck.Proofs.Entries
import RecordCheck.Proofs.Walk.Passes

/-!
The mapping that a walk makes of an object: the declared fields in their order, then the undeclared
ones that the mode keeps. Its look-ups say all that later results need of it.
-/

namespace RecordCheck.Walk

variable {setting : Setting} {members : List (String × Property)}

abbrev rebuilt (setting : Setting) (members : List (String × Property))
    (entries : List (Key × Value)) : List (Key × Value) :=
  normalMembers setting members entries ++ kept setting members entries

theorem normalMembers_nil
    (each : ∀ member ∈ members, normal setting member.2 .absent = .absent) :
    normalMembers setting members [] = [] := by
  induction members with
  | nil => rfl
  | cons member rest ih =>
      obtain ⟨name, child⟩ := member
      have own : normal setting child (fieldValue name []) = .absent :=
        each (name, child) List.mem_cons_self
      rw [normalMembers, own, placed]
      exact ih fun other inside => each other (List.mem_cons_of_mem _ inside)

theorem normal_of_absent (property : Property) (unfilled : property.Unfilled) :
    normal setting property .absent = .absent := by
  induction property with
  | node shape rules fallback extras ih =>
      have none : fallback = none := unfilled.here
      subst none
      simp only [normal, if_true]
      rcases shape with type | (_ | members) | (_ | item)
      · rfl
      · rfl
      · have empty : normalMembers setting members [] = [] :=
          normalMembers_nil fun member inside => ih member.2 (List.mem_map_of_mem inside)
            (unfilled.member inside)
        simp [normalAbsent, empty]
      · rfl
      · rfl

theorem placed_eq (name : String) (value : Value) (rest : List (Key × Value)) :
    placed name value rest = if value = .absent then rest else (.text name, value) :: rest := by
  cases value <;> simp [placed]

theorem lookup_placed_self {name : String} {value : Value} (present : value ≠ .absent)
    (rest : List (Key × Value)) :
    (placed name value rest).lookup (.text name) = some value := by
  rw [placed_eq, if_neg present, List.lookup_cons_self]

theorem lookup_placed_of_ne {name : String} {key : Key} (apart : key ≠ .text name) (value : Value)
    (rest : List (Key × Value)) : (placed name value rest).lookup key = rest.lookup key := by
  rw [placed_eq]
  split
  · rfl
  · exact Entries.lookup_cons_of_ne apart value rest

theorem lookup_normalMembers (names : (members.map Prod.fst).Nodup)
    {entries : List (Key × Value)} {key : Key} {result : Value} : (normalMembers setting members entries).lookup key = some result ↔
      result ≠ .absent ∧ ∃ name child, (name, child) ∈ members ∧ key = .text name ∧
        normal setting child (fieldValue name entries) = result := by
  induction members with
  | nil => simp [normalMembers]
  | cons member rest ih =>
      obtain ⟨name, child⟩ := member
      obtain ⟨fresh, names⟩ := List.nodup_cons.mp names
      rw [normalMembers]
      constructor
      · intro found
        by_cases same : key = .text name
        · subst same
          by_cases absent : normal setting child (fieldValue name entries) = .absent
          · rw [placed_eq, if_pos absent] at found
            obtain ⟨_, _, property, declared, equal, _⟩ := (ih names).mp found
            cases equal
            exact absurd (List.mem_map_of_mem (f := Prod.fst) declared) fresh
          · rw [lookup_placed_self absent] at found
            cases found
            exact ⟨absent, name, child, List.mem_cons_self, rfl, rfl⟩
        · rw [lookup_placed_of_ne same] at found
          obtain ⟨present, other, property, declared, there⟩ := (ih names).mp found
          exact ⟨present, other, property, List.mem_cons_of_mem _ declared, there⟩
      · rintro ⟨present, other, property, declared, rfl, rfl⟩
        rcases List.mem_cons.mp declared with first | later
        · cases first
          exact lookup_placed_self present _
        · have known := List.mem_map_of_mem (f := Prod.fst) later
          have apart : Key.text other ≠ .text name := by
            intro same
            cases same
            exact fresh known
          rw [lookup_placed_of_ne apart]
          exact (ih names).mpr ⟨present, other, property, later, rfl, rfl⟩

theorem isDeclared_iff {key : Key} :
    isDeclared members key = true ↔ ∃ name child, key = .text name ∧ (name, child) ∈ members := by
  cases key with
  | text name =>
      rw [isDeclared]
      constructor
      · intro declared
        obtain ⟨child, found⟩ := Option.isSome_iff_exists.mp declared
        exact ⟨name, child, rfl, Entries.mem_of_lookup found⟩
      · rintro ⟨other, child, same, declared⟩
        cases same
        exact Entries.lookup_isSome_of_mem declared
  | _ => simp [isDeclared]

theorem kept_eq (entries : List (Key × Value)) : kept setting members entries =
    if setting.mode = .loose then undeclared members entries else [] := by
  rw [kept]
  cases setting.mode <;> rfl

theorem not_isDeclared_of_mem_kept {entries : List (Key × Value)} {entry : Key × Value}
    (member : entry ∈ kept setting members entries) : isDeclared members entry.1 = false := by
  rw [kept_eq] at member
  split at member
  · simpa using (List.mem_filter.mp member).2
  · cases member

theorem normalMembers_keys (members : List (String × Property)) (entries : List (Key × Value)) :
    ((normalMembers setting members entries).map Prod.fst).Sublist
      (members.map fun member => Key.text member.1) := by
  induction members with
  | nil => exact List.Sublist.refl _
  | cons member rest ih =>
      obtain ⟨name, child⟩ := member
      rw [normalMembers, placed_eq]
      split
      · exact ih.cons (Key.text name)
      · exact ih.cons_cons (Key.text name)

theorem isDeclared_of_mem_normalMembers {entries : List (Key × Value)} {entry : Key × Value}
    (member : entry ∈ normalMembers setting members entries) :
    isDeclared members entry.1 = true := by
  have key := (normalMembers_keys members entries).subset (List.mem_map_of_mem member)
  obtain ⟨⟨name, child⟩, declared, same⟩ := List.mem_map.mp key
  exact isDeclared_iff.mpr ⟨name, child, same.symm, declared⟩

theorem undeclared_rebuilt (entries : List (Key × Value)) :
    undeclared members (rebuilt setting members entries) = kept setting members entries := by
  have declared : undeclared members (normalMembers setting members entries) = [] := by
    rw [undeclared, List.filter_eq_nil_iff]
    intro entry member
    simp [isDeclared_of_mem_normalMembers member]
  have others : undeclared members (kept setting members entries) =
      kept setting members entries := by
    rw [undeclared, List.filter_eq_self]
    intro entry member
    simp [not_isDeclared_of_mem_kept member]
  rw [rebuilt, undeclared, List.filter_append]
  rw [undeclared] at declared others
  rw [declared, others, List.nil_append]

theorem kept_rebuilt (entries : List (Key × Value)) :
    kept setting members (rebuilt setting members entries) = kept setting members entries := by
  rw [kept_eq, undeclared_rebuilt, kept_eq]
  split <;> rfl

theorem lookup_kept_declared {name : String} {child : Property}
    (declared : (name, child) ∈ members) (entries : List (Key × Value)) :
    (kept setting members entries).lookup (.text name) = none := by
  rw [List.lookup_eq_none_iff]
  intro entry member
  have undeclared := not_isDeclared_of_mem_kept member
  have apart : Key.text name ≠ entry.1 := by
    intro same
    rw [← same, isDeclared_iff.mpr ⟨name, child, rfl, declared⟩] at undeclared
    cases undeclared
  simpa using apart

theorem lookup_rebuilt_declared (names : (members.map Prod.fst).Nodup) {name : String}
    {child : Property} (declared : (name, child) ∈ members) (entries : List (Key × Value)) :
    (rebuilt setting members entries).lookup (.text name) =
      if normal setting child (fieldValue name entries) = .absent then none
      else some (normal setting child (fieldValue name entries)) := by
  rw [rebuilt, List.lookup_append, lookup_kept_declared declared, Option.or_none]
  split
  · rename_i absent
    by_contra some
    obtain ⟨result, found⟩ := Option.ne_none_iff_exists'.mp some
    obtain ⟨present, other, property, there, same, rfl⟩ := (lookup_normalMembers names).mp found
    cases same
    have one := List.inj_on_of_nodup_map names declared there rfl
    cases one
    exact present absent
  · rename_i present
    exact (lookup_normalMembers names).mpr ⟨present, name, child, declared, rfl, rfl⟩

theorem fieldValue_rebuilt (names : (members.map Prod.fst).Nodup) {name : String}
    {child : Property} (declared : (name, child) ∈ members) (entries : List (Key × Value)) :
    fieldValue name (rebuilt setting members entries) =
      normal setting child (fieldValue name entries) := by
  rw [fieldValue, lookup_rebuilt_declared names declared]
  split
  · rename_i absent
    rw [absent]
    rfl
  · rfl

theorem lookup_normalMembers_undeclared {key : Key} (undeclared : isDeclared members key = false)
    (entries : List (Key × Value)) : (normalMembers setting members entries).lookup key = none := by
  rw [List.lookup_eq_none_iff]
  intro entry member
  have declared := isDeclared_of_mem_normalMembers member
  have apart : key ≠ entry.1 := by
    rintro rfl
    rw [declared] at undeclared
    cases undeclared
  simpa using apart

theorem lookup_rebuilt_undeclared {key : Key} (undeclared : isDeclared members key = false)
    (entries : List (Key × Value)) : (rebuilt setting members entries).lookup key =
      if setting.mode = .loose then entries.lookup key else none := by
  rw [rebuilt, List.lookup_append, lookup_normalMembers_undeclared undeclared, Option.none_or,
    kept_eq]
  split
  · rw [Walk.undeclared, Entries.lookup_filter fun key => !isDeclared members key, undeclared]
    rfl
  · rfl

theorem rebuilt_nodup (names : (members.map Prod.fst).Nodup) {entries : List (Key × Value)}
    (distinct : (entries.map Prod.fst).Nodup) :
    ((rebuilt setting members entries).map Prod.fst).Nodup := by
  have declared : ((normalMembers setting members entries).map Prod.fst).Nodup := by
    refine List.Nodup.sublist (normalMembers_keys members entries) ?_
    have texts := names.map (f := Key.text) fun left right same => Key.text.inj same
    rw [List.map_map] at texts
    exact texts
  have others : ((kept setting members entries).map Prod.fst).Nodup := by
    rw [kept_eq]
    split
    · exact distinct.sublist (List.filter_sublist.map Prod.fst)
    · exact List.nodup_nil
  rw [rebuilt, List.map_append]
  refine List.nodup_append.mpr ⟨declared, others, ?_⟩
  intro left leftMember right rightMember same
  obtain ⟨entry, normal, rfl⟩ := List.mem_map.mp leftMember
  obtain ⟨other, kept, rfl⟩ := List.mem_map.mp rightMember
  have known := isDeclared_of_mem_normalMembers normal
  rw [same, not_isDeclared_of_mem_kept kept] at known
  cases known

end RecordCheck.Walk
