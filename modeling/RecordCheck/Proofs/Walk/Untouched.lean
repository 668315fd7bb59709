import RecordCheck.Proofs.Value.Alike
import RecordCheck.Proofs.Walk.Locations
import RecordCheck.Proofs.Walk.Rebuilt

/-!
Walks without casts and defaults. Main statement: what such a walk makes of a value is the value,
whatever it complains about; where the mode does not keep undeclared keys, they are gone.
-/

namespace RecordCheck

namespace Property

def ofKey? (members : List (String × Property)) : Key → Option Property
  | .text name => members.lookup name
  | _ => none

mutual

/-- A value without the keys that are not declared, at every level that is reached through
containers of the declared types. A mapping for which no fields are declared keeps all its keys. -/
def pruned (property : Property) : Value → Value
  | .list items =>
      match property.shape with
      | .array (some item) => .list (prunedItems item items)
      | _ => .list items
  | .dict entries =>
      match property.shape with
      | .object (some members) => .dict (prunedEntries members entries)
      | _ => .dict entries
  | value => value

def prunedItems (item : Property) : List Value → List Value
  | [] => []
  | value :: rest => pruned item value :: prunedItems item rest

def prunedEntries (members : List (String × Property)) :
    List (Key × Value) → List (Key × Value)
  | [] => []
  | (key, value) :: rest =>
      match ofKey? members key with
      | some child => (key, pruned child value) :: prunedEntries members rest
      | none => prunedEntries members rest

end

theorem prunedItems_eq (item : Property) (items : List Value) :
    prunedItems item items = items.map (pruned item) := by
  induction items with
  | nil => rfl
  | cons value rest ih => rw [prunedItems, ih, List.map_cons]

theorem lookup_prunedEntries (members : List (String × Property)) (key : Key)
    (entries : List (Key × Value)) : (prunedEntries members entries).lookup key =
      (ofKey? members key).bind fun child => (entries.lookup key).map (pruned child) := by
  induction entries with
  | nil => cases ofKey? members key <;> rfl
  | cons entry rest ih =>
      obtain ⟨known, value⟩ := entry
      rw [prunedEntries]
      by_cases same : key = known
      · subst same
        cases found : ofKey? members key with
        | none =>
            rw [found] at ih
            exact ih
        | some child => simp
      · rw [Entries.lookup_cons_of_ne same]
        split
        · rw [Entries.lookup_cons_of_ne same, ih]
        · exact ih

theorem prunedEntries_keys (members : List (String × Property)) (entries : List (Key × Value)) :
    ((prunedEntries members entries).map Prod.fst).Sublist (entries.map Prod.fst) := by
  induction entries with
  | nil => exact List.Sublist.refl _
  | cons entry rest ih =>
      obtain ⟨key, value⟩ := entry
      rw [prunedEntries]
      split
      · exact ih.cons_cons key
      · exact ih.cons key

theorem pruned_of_open (property : Property)
    (noMembers : ∀ members, property.shape ≠ .object (some members))
    (noItem : ∀ item, property.shape ≠ .array (some item)) (value : Value) :
    property.pruned value = value := by
  obtain ⟨shape, rules, fallback, extras⟩ := property
  rcases shape with type | (_ | members) | (_ | item)
  · cases value <;> rfl
  · cases value <;> rfl
  · exact absurd rfl (noMembers members)
  · cases value <;> rfl
  · exact absurd rfl (noItem item)

theorem pruned_of_not_admits {property : Property} {value : Value}
    (refused : property.shape.type.admits value = false) : property.pruned value = value := by
  obtain ⟨shape, rules, fallback, extras⟩ := property
  rcases shape with type | (_ | members) | (_ | item)
  · exact pruned_of_open ⟨.scalar type, rules, fallback, extras⟩ nofun nofun value
  · exact pruned_of_open ⟨.object none, rules, fallback, extras⟩ nofun nofun value
  · cases value with
    | dict entries => cases refused
    | _ => rfl
  · exact pruned_of_open ⟨.array none, rules, fallback, extras⟩ nofun nofun value
  · cases value with
    | list items => cases refused
    | _ => rfl

theorem pruned_ne_absent (property : Property) {value : Value} (present : value ≠ .absent) :
    property.pruned value ≠ .absent := by
  cases value with
  | absent => exact absurd rfl present
  | list items =>
      rw [pruned]
      split <;> simp
  | dict entries =>
      rw [pruned]
      split <;> simp
  | _ => simp [pruned]

end Property

/-- What a mode leaves of a value: the loose one all of it, the others what is declared. -/
def Mode.leaves (mode : Mode) (property : Property) (value : Value) : Value :=
  if mode = .loose then value else property.pruned value

theorem Mode.leaves_of_not_admits (mode : Mode) {property : Property} {value : Value}
    (refused : property.shape.type.admits value = false) : mode.leaves property value = value := by
  rw [leaves, Property.pruned_of_not_admits refused, ite_self]

theorem Mode.leaves_of_open (mode : Mode) (property : Property)
    (noMembers : ∀ members, property.shape ≠ .object (some members))
    (noItem : ∀ item, property.shape ≠ .array (some item)) (value : Value) :
    mode.leaves property value = value := by
  rw [leaves, property.pruned_of_open noMembers noItem, ite_self]

theorem Mode.leaves_ne_absent (mode : Mode) (property : Property) {value : Value}
    (present : value ≠ .absent) : mode.leaves property value ≠ .absent := by
  rw [leaves]
  split
  · exact present
  · exact property.pruned_ne_absent present

namespace Walk

open Property

variable {setting : Setting}

theorem isDeclared_eq (members : List (String × Property)) (key : Key) :
    isDeclared members key = (ofKey? members key).isSome := by
  cases key <;> rfl

theorem ofKey?_eq_some {members : List (String × Property)} {key : Key} {child : Property}
    (found : ofKey? members key = some child) :
    ∃ name, key = .text name ∧ (name, child) ∈ members := by
  cases key with
  | text name => exact ⟨name, rfl, Entries.mem_of_lookup found⟩
  | _ => cases found

def entriesLeft (mode : Mode) (members : List (String × Property)) (entries : List (Key × Value)) :
    List (Key × Value) :=
  if mode = .loose then entries else prunedEntries members entries

theorem lookup_entriesLeft_declared (mode : Mode) {members : List (String × Property)} {key : Key}
    {child : Property} (found : ofKey? members key = some child) (entries : List (Key × Value)) :
    (entriesLeft mode members entries).lookup key =
      (entries.lookup key).map (mode.leaves child) := by
  unfold entriesLeft Mode.leaves
  split
  · simp
  · rw [lookup_prunedEntries, found]
    rfl

theorem lookup_entriesLeft_undeclared (mode : Mode) {members : List (String × Property)} {key : Key}
    (found : ofKey? members key = none) (entries : List (Key × Value)) :
    (entriesLeft mode members entries).lookup key =
      if mode = .loose then entries.lookup key else none := by
  unfold entriesLeft
  split
  · rfl
  · rw [lookup_prunedEntries, found]
    rfl

theorem entriesLeft_nodup (mode : Mode) (members : List (String × Property))
    {entries : List (Key × Value)} (distinct : (entries.map Prod.fst).Nodup) :
    ((entriesLeft mode members entries).map Prod.fst).Nodup := by
  unfold entriesLeft
  split
  · exact distinct
  · exact distinct.sublist (prunedEntries_keys members entries)

def Untouched (setting : Setting) (property : Property) (value : Value) : Prop :=
  (normal setting property value).Alike (setting.mode.leaves property value)

theorem untouched_field {name : String} {child : Property} {entries : List (Key × Value)}
    (missing : normal setting child .absent = .absent)
    (present : ∀ entry ∈ entries, entry.2 ≠ .absent)
    (each : ∀ entry ∈ entries, Untouched setting child entry.2) :
    Option.Rel Value.Alike
      (if normal setting child (fieldValue name entries) = .absent then none
        else some (normal setting child (fieldValue name entries)))
      ((entries.lookup (.text name)).map (setting.mode.leaves child)) := by
  rw [fieldValue]
  cases held : entries.lookup (.text name) with
  | none =>
      rw [Option.getD_none, if_pos missing]
      exact .none
  | some value =>
      have inside := Entries.mem_of_lookup held
      have alike : (normal setting child value).Alike (setting.mode.leaves child value) :=
        each _ inside
      have there : normal setting child value ≠ .absent :=
        alike.ne_absent (setting.mode.leaves_ne_absent child (present _ inside))
      rw [Option.getD_some, if_neg there]
      exact .some alike

theorem untouched_entries {members : List (String × Property)}
    (names : (members.map Prod.fst).Nodup) {entries : List (Key × Value)}
    (distinct : (entries.map Prod.fst).Nodup)
    (missing : ∀ member ∈ members, normal setting member.2 .absent = .absent)
    (present : ∀ entry ∈ entries, entry.2 ≠ .absent)
    (each : ∀ member ∈ members, ∀ entry ∈ entries, Untouched setting member.2 entry.2) :
    (Value.dict (rebuilt setting members entries)).Alike
      (.dict (entriesLeft setting.mode members entries)) := by
  refine Value.alike_of_lookup (rebuilt_nodup names distinct)
    (entriesLeft_nodup _ members distinct) fun key => ?_
  -- a declared key has what is made of its field, another one only what the mode keeps of it
  cases found : ofKey? members key with
  | none =>
      have undeclared : isDeclared members key = false := by simp [isDeclared_eq, found]
      rw [lookup_rebuilt_undeclared undeclared, lookup_entriesLeft_undeclared _ found]
      exact Value.alike_field _
  | some child =>
      obtain ⟨name, rfl, declared⟩ := ofKey?_eq_some found
      rw [lookup_rebuilt_declared names declared, lookup_entriesLeft_declared _ found]
      exact untouched_field (missing _ declared) present (each _ declared)

theorem untouched_items {item : Property} {items : List Value}
    (each : ∀ value ∈ items, Untouched setting item value) :
    (Value.list (items.map (normal setting item))).Alike
      (.list (items.map (setting.mode.leaves item))) := by
  refine .list ?_
  rw [List.forall₂_map_left_iff, List.forall₂_map_right_iff, List.forall₂_same]
  exact each

theorem leaves_object (mode : Mode) (members : List (String × Property)) (rules : List Directive)
    (fallback : Option Value) (extras entries : List (Key × Value)) :
    mode.leaves ⟨.object (some members), rules, fallback, extras⟩ (.dict entries) =
      .dict (entriesLeft mode members entries) := by
  unfold Mode.leaves entriesLeft
  split <;> rfl

theorem leaves_array (mode : Mode) (item : Property) (rules : List Directive)
    (fallback : Option Value) (extras : List (Key × Value)) (items : List Value) :
    mode.leaves ⟨.array (some item), rules, fallback, extras⟩ (.list items) =
      .list (items.map (mode.leaves item)) := by
  unfold Mode.leaves
  split
  · rw [List.map_id']
  · rw [← prunedItems_eq]
    rfl

theorem untouched_inside {shape : Shape Property} {value : Value} (names : shape.names.Nodup)
    (missing : ∀ child ∈ shape.children, normal setting child .absent = .absent)
    (untupled : value.Untupled) (distinct : value.keys.Nodup)
    (admitted : shape.type.admits value = true)
    (each : ∀ child ∈ shape.children, ∀ inner ∈ value.children, Untouched setting child inner)
    (rules : List Directive) (fallback : Option Value) (extras : List (Key × Value)) :
    (normalInside setting shape value).Alike
      (setting.mode.leaves ⟨shape, rules, fallback, extras⟩ value) := by
  rcases shape with type | (_ | members) | (_ | item)
  · rw [setting.mode.leaves_of_open ⟨.scalar type, rules, fallback, extras⟩ nofun nofun]
    exact .same value
  · rw [setting.mode.leaves_of_open ⟨.object none, rules, fallback, extras⟩ nofun nofun]
    exact .same value
  · cases value with
    | dict entries =>
        rw [leaves_object]
        refine untouched_entries names distinct ?_ ?_ ?_
        · exact fun member declared => missing member.2 (List.mem_map_of_mem declared)
        · exact fun entry inside => (untupled.inside (List.mem_map_of_mem inside)).present
        · exact fun member declared entry inside =>
            each member.2 (List.mem_map_of_mem declared) entry.2 (List.mem_map_of_mem inside)
    | _ => cases admitted
  · obtain ⟨items, rfl⟩ := untupled.list_of_isSequence admitted
    rw [setting.mode.leaves_of_open ⟨.array none, rules, fallback, extras⟩ nofun nofun]
    exact .same (.list items)
  · obtain ⟨items, rfl⟩ := untupled.list_of_isSequence admitted
    rw [leaves_array]
    exact untouched_items fun inner inside => each item (by simp) inner inside

/-- A walk that neither casts nor fills fields leaves a value as it is, but for the keys that its
mode drops. -/
theorem untouched (uncast : setting.cast = false) (property : Property)
    (names : property.DistinctNames) (unfilled : property.Unfilled) : ∀ value : Value,
    value.Untupled → value.DistinctKeys → Untouched setting property value := by
  induction property with
  | node shape rules fallback extras ih =>
      intro value untupled distinct
      have cast : castLeaf setting shape.type value = .ok (some value) := by
        simp [castLeaf, uncast]
      by_cases admitted : shape.type.admits value = true
      · have missing : ∀ child ∈ shape.children, normal setting child .absent = .absent :=
          fun child member => normal_of_absent child (unfilled.inside member)
        have each : ∀ child ∈ shape.children, ∀ inner ∈ value.children,
            Untouched setting child inner := fun child member inner inside =>
          ih child member (names.inside member) (unfilled.inside member) inner
            (untupled.inside inside) (distinct.inside inside)
        rw [Untouched, normal_of_admitted ⟨shape, rules, fallback, extras⟩ untupled.present cast
          admitted]
        exact untouched_inside names.here missing untupled distinct.here admitted each rules
          fallback extras
      · -- a value of another type is handed on as it came
        have refused : shape.type.admits value = false := by simpa using admitted
        have same : normal setting ⟨shape, rules, fallback, extras⟩ value = value := by
          simp [normal, untupled.present, cast, refused]
        rw [Untouched, same, setting.mode.leaves_of_not_admits refused]
        exact .same value

end Walk

end RecordCheck
