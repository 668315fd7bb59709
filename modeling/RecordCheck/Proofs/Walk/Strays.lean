import Mathlib.Data.List.Nodup
import RecordCheck.Proofs.Entries
import RecordCheck.Proofs.Value.Tree
import RecordCheck.Proofs.Walk.Modes

/-!
The undeclared keys that a walk meets. Each of them is listed once. Main statement: the loose mode
keeps them and the filter mode drops them, and they are the only keys that the two normalised values
do not share.
-/

namespace RecordCheck.Walk

namespace Stray

variable {hop other : Hop} {hops : List Hop} {key : Key} {found : List Stray}

theorem mem_inside : (hop :: hops, key) ∈ found.map (Stray.inside other) ↔
    hop = other ∧ (hops, key) ∈ found := by
  constructor
  · intro member
    obtain ⟨⟨inner, own⟩, inside, same⟩ := List.mem_map.mp member
    cases same
    exact ⟨rfl, inside⟩
  · rintro ⟨rfl, inside⟩
    exact List.mem_map.mpr ⟨(hops, key), inside, rfl⟩

theorem inside_nodup (distinct : found.Nodup) (hop : Hop) :
    (found.map (Stray.inside hop)).Nodup := by
  refine distinct.map ?_
  rintro ⟨hops, key⟩ ⟨others, other⟩ same
  cases same
  rfl

theorem head_of_mem_inside {stray : Stray} (member : stray ∈ found.map (Stray.inside hop)) :
    stray.1.head? = some hop := by
  obtain ⟨inner, _, rfl⟩ := List.mem_map.mp member
  rfl

end Stray

section Members

variable {members : List (String × Property)} {entries : List (Key × Value)}

theorem mem_memberStrays {hop : Hop} {hops : List Hop} {key : Key} :
    (hop :: hops, key) ∈ memberStrays members entries ↔ ∃ name child, (name, child) ∈ members ∧
      hop = .entry (.text name) ∧ (hops, key) ∈ strays child (fieldValue name entries) := by
  induction members with
  | nil => simp [memberStrays]
  | cons member rest ih =>
      obtain ⟨name, child⟩ := member
      rw [memberStrays, List.mem_append, Stray.mem_inside, ih]
      constructor
      · rintro (⟨same, inside⟩ | ⟨other, property, declared, same, inside⟩)
        · exact ⟨name, child, List.mem_cons_self, same, inside⟩
        · exact ⟨other, property, List.mem_cons_of_mem _ declared, same, inside⟩
      · rintro ⟨other, property, declared, same, inside⟩
        rcases List.mem_cons.mp declared with equal | later
        · cases equal
          exact Or.inl ⟨same, inside⟩
        · exact Or.inr ⟨other, property, later, same, inside⟩

theorem head_of_mem_memberStrays {stray : Stray} (member : stray ∈ memberStrays members entries) :
    ∃ name ∈ members.map Prod.fst, stray.1.head? = some (.entry (.text name)) := by
  induction members with
  | nil => simp [memberStrays] at member
  | cons first rest ih =>
      rw [memberStrays, List.mem_append] at member
      rcases member with first | later
      · exact ⟨_, List.mem_cons_self, Stray.head_of_mem_inside first⟩
      · obtain ⟨name, declared, head⟩ := ih later
        exact ⟨name, List.mem_cons_of_mem _ declared, head⟩

theorem memberStrays_nodup (names : (members.map Prod.fst).Nodup)
    (each : ∀ member ∈ members, (strays member.2 (fieldValue member.1 entries)).Nodup) :
    (memberStrays members entries).Nodup := by
  induction members with
  | nil => simp [memberStrays]
  | cons first rest ih =>
      obtain ⟨fresh, names⟩ := List.nodup_cons.mp names
      have own := Stray.inside_nodup (each first List.mem_cons_self) (.entry (.text first.1))
      have later := ih names fun other inside => each other (List.mem_cons_of_mem _ inside)
      rw [memberStrays]
      refine List.nodup_append.mpr ⟨own, later, ?_⟩
      intro left leftMember right rightMember same
      have leftHead := Stray.head_of_mem_inside leftMember
      obtain ⟨name, declared, rightHead⟩ := head_of_mem_memberStrays rightMember
      rw [same, rightHead] at leftHead
      cases leftHead
      exact fresh declared

end Members

section Items

variable {straysOf : Value → List Stray} {position : Nat} {items : List Value}

theorem mem_itemStrays {hop : Hop} {hops : List Hop} {key : Key} :
    (hop :: hops, key) ∈ itemStrays straysOf position items ↔ ∃ index item,
      items[index]? = some item ∧ hop = .item (position + index) ∧ (hops, key) ∈ straysOf item := by
  induction items generalizing position with
  | nil => simp [itemStrays]
  | cons item rest ih =>
      rw [itemStrays, List.mem_append, Stray.mem_inside, ih]
      constructor
      · rintro (⟨same, inside⟩ | ⟨index, other, found, same, inside⟩)
        · exact ⟨0, item, rfl, same, inside⟩
        · exact ⟨index + 1, other, found, by rw [same, Nat.add_right_comm, Nat.add_assoc], inside⟩
      · rintro ⟨index, other, found, same, inside⟩
        cases index with
        | zero =>
            cases found
            exact Or.inl ⟨same, inside⟩
        | succ index =>
            exact Or.inr ⟨index, other, found, by rw [same, Nat.add_right_comm, Nat.add_assoc],
              inside⟩

theorem head_of_mem_itemStrays {stray : Stray} (member : stray ∈ itemStrays straysOf position items) :
    ∃ index, position ≤ index ∧ stray.1.head? = some (.item index) := by
  induction items generalizing position with
  | nil => simp [itemStrays] at member
  | cons item rest ih =>
      rw [itemStrays, List.mem_append] at member
      rcases member with first | later
      · exact ⟨position, Nat.le_refl _, Stray.head_of_mem_inside first⟩
      · obtain ⟨index, lower, head⟩ := ih later
        exact ⟨index, by omega, head⟩

theorem itemStrays_nodup (each : ∀ item ∈ items, (straysOf item).Nodup) :
    (itemStrays straysOf position items).Nodup := by
  induction items generalizing position with
  | nil => simp [itemStrays]
  | cons item rest ih =>
      have own := Stray.inside_nodup (each item List.mem_cons_self) (.item position)
      have later : (itemStrays straysOf (position + 1) rest).Nodup :=
        ih fun other inside => each other (List.mem_cons_of_mem _ inside)
      rw [itemStrays]
      refine List.nodup_append.mpr ⟨own, later, ?_⟩
      intro left leftMember right rightMember same
      have leftHead := Stray.head_of_mem_inside leftMember
      obtain ⟨index, lower, rightHead⟩ := head_of_mem_itemStrays rightMember
      rw [same, rightHead] at leftHead
      cases leftHead
      omega

end Items

theorem fieldValue_distinctKeys {entries : List (Key × Value)}
    (distinct : Value.DistinctKeys (.dict entries)) (name : String) :
    (fieldValue name entries).DistinctKeys := by
  rw [fieldValue]
  cases found : entries.lookup (.text name) with
  | none => exact .node List.nodup_nil (by simp [Value.children])
  | some item =>
      exact distinct.inside (List.mem_map_of_mem (f := Prod.snd) (Entries.mem_of_lookup found))

theorem itemsOf_children {value : Value} (sequence : value.isSequence = true) :
    value.children = itemsOf value := by
  cases value <;> first | rfl | cases sequence

theorem undeclared_nodup {entries : List (Key × Value)} (distinct : (entries.map Prod.fst).Nodup)
    (members : List (String × Property)) :
    ((undeclared members entries).map fun entry => (([], entry.1) : Stray)).Nodup := by
  have keys : ((undeclared members entries).map Prod.fst).Nodup :=
    distinct.sublist (List.filter_sublist.map Prod.fst)
  have strays := keys.map (f := fun key => (([], key) : Stray)) fun left right same =>
    congrArg Prod.snd same
  rw [List.map_map] at strays
  exact strays

theorem strays_nodup (property : Property) (names : property.DistinctNames) : ∀ value : Value,
    value.DistinctKeys → (strays property value).Nodup := by
  induction property with
  | node shape rules fallback extras ih =>
      intro value distinct
      rw [strays]
      split
      · exact List.nodup_nil
      · split
        · rename_i admitted
          rcases shape with type | (_ | members) | (_ | item)
          · exact List.nodup_nil
          · exact List.nodup_nil
          · cases value with
            | dict entries =>
                have declared := memberStrays_nodup names.here fun member inside =>
                  ih member.2 (List.mem_map_of_mem (f := Prod.snd) inside) (names.member inside)
                    (fieldValue member.1 entries) (fieldValue_distinctKeys distinct member.1)
                refine List.nodup_append.mpr
                  ⟨declared, undeclared_nodup distinct.here members, ?_⟩
                intro left leftMember right rightMember same
                obtain ⟨name, _, head⟩ := head_of_mem_memberStrays leftMember
                obtain ⟨entry, _, rfl⟩ := List.mem_map.mp rightMember
                rw [same] at head
                cases head
            | _ => cases admitted
          · exact List.nodup_nil
          · refine itemStrays_nodup fun element inside => ?_
            rw [← itemsOf_children admitted] at inside
            exact ih item (by simp) names.item element (distinct.inside inside)
        · exact List.nodup_nil

theorem normal_of_strays {property : Property} {value : Value} (met : strays property value ≠ []) :
    (∃ members entries, property.shape = .object (some members) ∧ value = .dict entries ∧
      (∀ setting, normal setting property value = .dict (normalMembers setting members entries ++
        kept setting members entries)) ∧
      strays property value = memberStrays members entries ++
        (undeclared members entries).map fun entry => (([], entry.1) : Stray)) ∨
    ∃ item, property.shape = .array (some item) ∧
      (∀ setting, normal setting property value =
        .list ((itemsOf value).map (normal setting item))) ∧
      strays property value = itemStrays (strays item) 0 (itemsOf value) := by
  obtain ⟨shape, rules, fallback, extras⟩ := property
  rw [strays] at met ⊢
  split at met
  · exact absurd rfl met
  · rename_i present
    split at met
    · rename_i admitted
      rw [if_neg present, if_pos admitted]
      rcases shape with type | (_ | members) | (_ | item)
      · exact absurd rfl met
      · exact absurd rfl met
      · cases value with
        | dict entries =>
            refine Or.inl ⟨members, entries, rfl, rfl, fun setting => ?_, rfl⟩
            have cast : castLeaf setting .object (.dict entries) = .ok (some (.dict entries)) :=
              castLeaf_container setting rfl (.dict entries)
            simp [normal, Shape.type, cast, FieldType.admits, Value.isMapping, normalInside,
              entriesOf]
        | _ => cases admitted
      · exact absurd rfl met
      · refine Or.inr ⟨item, rfl, fun setting => ?_, rfl⟩
        have cast : castLeaf setting .array value = .ok (some value) :=
          castLeaf_container setting rfl value
        simp only [Shape.type] at admitted
        simp [normal, Shape.type, cast, present, admitted, normalInside]
    · exact absurd rfl met

theorem normal_present_of_strays (setting : Setting) {property : Property} {value : Value}
    (met : strays property value ≠ []) : normal setting property value ≠ .absent := by
  rcases normal_of_strays met with ⟨members, entries, _, _, equal, _⟩ | ⟨item, _, equal, _⟩
  · rw [equal]
    simp
  · rw [equal]
    simp

theorem normal_absent_inMode (setting : Setting) (mode : Mode) (property : Property)
    (value : Value) : normal (setting.inMode mode) property value = .absent ↔
      normal setting property value = .absent := by
  by_cases none : strays property value = []
  · rw [(same_inMode property value (none ▸ unnoticed_nil)).1]
  · exact iff_of_false (normal_present_of_strays _ none) (normal_present_of_strays _ none)

section Lost

variable (setting : Setting)

theorem lookup_filtered {members : List (String × Property)} (names : (members.map Prod.fst).Nodup)
    {entries : List (Key × Value)} {key : Key}
    (gone : (normalMembers (setting.inMode .filter) members entries).lookup key = none) :
    (normalMembers (setting.inMode .loose) members entries).lookup key = none := by
  by_contra some
  obtain ⟨result, found⟩ := Option.ne_none_iff_exists'.mp some
  obtain ⟨present, name, child, declared, same, rfl⟩ := (lookup_normalMembers names).mp found
  rw [Ne, normal_absent_inMode, ← normal_absent_inMode setting .filter] at present
  have filtered := (lookup_normalMembers names).mpr ⟨present, name, child, declared, same, rfl⟩
  rw [gone] at filtered
  cases filtered

theorem losesKey_own {members : List (String × Property)} (names : (members.map Prod.fst).Nodup)
    (entries : List (Key × Value)) (key : Key) :
    Value.LosesKey
        (.dict (normalMembers (setting.inMode .loose) members entries ++
          undeclared members entries))
        (.dict (normalMembers (setting.inMode .filter) members entries)) [] key ↔
      ∃ entry ∈ undeclared members entries, entry.1 = key := by
  rw [Value.losesKey_nil]
  constructor
  · rintro ⟨there, gone⟩
    rw [List.lookup_append, lookup_filtered setting names gone, Option.none_or] at there
    obtain ⟨item, found⟩ := Option.isSome_iff_exists.mp there
    exact ⟨(key, item), Entries.mem_of_lookup found, rfl⟩
  · rintro ⟨entry, member, rfl⟩
    have unknown : isDeclared members entry.1 = false := by
      simpa using (List.mem_filter.mp member).2
    refine ⟨?_, lookup_normalMembers_undeclared unknown entries⟩
    rw [List.lookup_append, lookup_normalMembers_undeclared unknown, Option.none_or]
    exact Entries.lookup_isSome_of_mem member

theorem losesKey_inside {members : List (String × Property)}
    (names : (members.map Prod.fst).Nodup) (entries : List (Key × Value)) (hop : Hop)
    (later : List Hop) (key : Key) :
    Value.LosesKey
        (.dict (normalMembers (setting.inMode .loose) members entries ++
          undeclared members entries))
        (.dict (normalMembers (setting.inMode .filter) members entries)) (hop :: later) key ↔
      ∃ name child, (name, child) ∈ members ∧ hop = .entry (.text name) ∧
        normal setting child (fieldValue name entries) ≠ .absent ∧
          Value.LosesKey (normal (setting.inMode .loose) child (fieldValue name entries))
            (normal (setting.inMode .filter) child (fieldValue name entries)) later key := by
  rw [Value.losesKey_cons]
  constructor
  · rintro ⟨inner, innerAfter, enters, entersAfter, loses⟩
    cases hop with
    | item position => cases enters
    | entry name =>
        obtain ⟨present, name, child, declared, rfl, rfl⟩ :=
          (lookup_normalMembers names).mp entersAfter
        rw [Ne, normal_absent_inMode, ← normal_absent_inMode setting .loose] at present
        have kept := (lookup_normalMembers names).mpr ⟨present, name, child, declared, rfl, rfl⟩
        simp only [Hop.enter, List.lookup_append, kept, Option.some_or] at enters
        cases enters
        rw [normal_absent_inMode] at present
        exact ⟨name, child, declared, rfl, present, loses⟩
  · rintro ⟨name, child, declared, rfl, present, loses⟩
    have found : ∀ mode, (normalMembers (setting.inMode mode) members entries).lookup
        (.text name) = some (normal (setting.inMode mode) child (fieldValue name entries)) := by
      intro mode
      rw [Ne, ← normal_absent_inMode setting mode] at present
      exact (lookup_normalMembers names).mpr ⟨present, name, child, declared, rfl, rfl⟩
    refine ⟨_, _, ?_, found .filter, loses⟩
    simp only [Hop.enter, List.lookup_append, found .loose, Option.some_or]

theorem losesKey_object {members : List (String × Property)}
    (names : (members.map Prod.fst).Nodup) (entries : List (Key × Value))
    (each : ∀ member ∈ members, ∀ hops key,
      Value.LosesKey (normal (setting.inMode .loose) member.2 (fieldValue member.1 entries))
          (normal (setting.inMode .filter) member.2 (fieldValue member.1 entries)) hops key ↔
        (hops, key) ∈ strays member.2 (fieldValue member.1 entries)) (hops : List Hop) (key : Key) :
    Value.LosesKey
        (.dict (normalMembers (setting.inMode .loose) members entries ++
          undeclared members entries))
        (.dict (normalMembers (setting.inMode .filter) members entries)) hops key ↔
      (hops, key) ∈ memberStrays members entries ++
        (undeclared members entries).map fun entry => (([], entry.1) : Stray) := by
  rw [List.mem_append]
  cases hops with
  | nil =>
      rw [losesKey_own setting names]
      constructor
      · rintro ⟨entry, member, rfl⟩
        exact Or.inr (List.mem_map.mpr ⟨entry, member, rfl⟩)
      · rintro (declared | dropped)
        · obtain ⟨name, _, head⟩ := head_of_mem_memberStrays declared
          cases head
        · obtain ⟨entry, member, same⟩ := List.mem_map.mp dropped
          cases same
          exact ⟨entry, member, rfl⟩
  | cons hop later =>
      rw [losesKey_inside setting names, mem_memberStrays]
      constructor
      · rintro ⟨name, child, declared, rfl, _, loses⟩
        exact Or.inl ⟨name, child, declared, rfl, (each _ declared later key).mp loses⟩
      · rintro (⟨name, child, declared, rfl, inside⟩ | dropped)
        · have met : strays child (fieldValue name entries) ≠ [] := List.ne_nil_of_mem inside
          exact ⟨name, child, declared, rfl, normal_present_of_strays setting met,
            (each _ declared later key).mpr inside⟩
        · obtain ⟨entry, _, same⟩ := List.mem_map.mp dropped
          cases same

theorem losesKey_array {item : Property} {items : List Value}
    (each : ∀ value ∈ items, ∀ hops key,
      Value.LosesKey (normal (setting.inMode .loose) item value)
        (normal (setting.inMode .filter) item value) hops key ↔
          (hops, key) ∈ strays item value) (hops : List Hop) (key : Key) :
    Value.LosesKey (.list (items.map (normal (setting.inMode .loose) item)))
        (.list (items.map (normal (setting.inMode .filter) item))) hops key ↔
      (hops, key) ∈ itemStrays (strays item) 0 items := by
  cases hops with
  | nil =>
      constructor
      · rintro ⟨_, _, before, _⟩
        cases before
      · intro member
        obtain ⟨index, _, head⟩ := head_of_mem_itemStrays member
        cases head
  | cons hop later =>
      rw [Value.losesKey_cons, mem_itemStrays]
      constructor
      · rintro ⟨inner, innerAfter, enters, entersAfter, loses⟩
        cases hop with
        | entry name => cases enters
        | item position =>
            simp only [Hop.enter, List.getElem?_map, Option.map_eq_some_iff] at enters entersAfter
            obtain ⟨value, found, rfl⟩ := enters
            obtain ⟨other, foundAgain, rfl⟩ := entersAfter
            rw [found] at foundAgain
            cases foundAgain
            exact ⟨position, value, found, by rw [Nat.zero_add],
              (each value (List.mem_of_getElem? found) later key).mp loses⟩
      · rintro ⟨position, value, found, rfl, inside⟩
        refine ⟨normal (setting.inMode .loose) item value, normal (setting.inMode .filter) item value,
          ?_, ?_, (each value (List.mem_of_getElem? found) later key).mpr inside⟩
        · simp [Hop.enter, found]
        · simp [Hop.enter, found]

/-- The undeclared keys are those that the loose mode keeps and the filter mode drops. -/
theorem losesKey_iff (property : Property) (names : property.DistinctNames) :
    ∀ value hops key, Value.LosesKey (normal (setting.inMode .loose) property value)
        (normal (setting.inMode .filter) property value) hops key ↔
      (hops, key) ∈ strays property value := by
  induction property with
  | node shape rules fallback extras ih =>
      intro value hops key
      -- without undeclared keys the modes do not differ; with some, the field is a container
      by_cases none : strays ⟨shape, rules, fallback, extras⟩ value = []
      · have same : ∀ mode, normal (setting.inMode mode) ⟨shape, rules, fallback, extras⟩ value =
            normal setting ⟨shape, rules, fallback, extras⟩ value :=
          fun mode => (same_inMode _ value (none ▸ unnoticed_nil)).1
        rw [same, same, none]
        exact iff_of_false (Value.not_losesKey_self _) (by simp)
      · rcases normal_of_strays none with
          ⟨members, entries, declares, _, normalEq, straysEq⟩ | ⟨item, declares, normalEq, straysEq⟩
        · rw [normalEq, normalEq, straysEq]
          cases declares
          have lost := losesKey_object setting names.here entries
            (fun member inside => ih member.2 (List.mem_map_of_mem (f := Prod.snd) inside)
              (names.member inside) (fieldValue member.1 entries)) hops key
          simpa [kept, Setting.inMode] using lost
        · rw [normalEq, normalEq, straysEq]
          cases declares
          exact losesKey_array setting (fun element _ => ih item (by simp) names.item element) hops key

end Lost

end RecordCheck.Walk
