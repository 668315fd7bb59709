import RecordCheck.Proofs.Entries
import RecordCheck.Rule.Registry

/-!
Registries as tables. Rules are put under their own names only, so in every registry each key is the
name of its rule and stands once. That is what makes a copy, which puts the rules anew, the same
registry.
-/

namespace RecordCheck.Registry

/-- Each rule stands under its own name, and no name is there twice. -/
structure Sound (registry : Registry) : Prop where
  named : ∀ entry ∈ registry.rules, entry.2.name = entry.1
  distinct : (registry.rules.map Prod.fst).Nodup

variable {registry : Registry}

theorem sound_empty : Sound empty := ⟨nofun, List.nodup_nil⟩

theorem Sound.add (sound : registry.Sound) (rule : Rule) : (registry.add rule).Sound := by
  refine ⟨fun entry member => ?_, Entries.put_nodup sound.distinct rule.name rule⟩
  rcases Entries.mem_of_mem_put member with rfl | old
  · rfl
  · exact sound.named entry old

theorem Sound.foldl_add (sound : registry.Sound) (rules : List Rule) :
    (rules.foldl Registry.add registry).Sound := by
  induction rules generalizing registry with
  | nil => exact sound
  | cons rule rest ih => exact ih (sound.add rule)

theorem sound_ofRules (rules : List Rule) : (ofRules rules).Sound := sound_empty.foldl_add rules

theorem foldl_add_eq {entries : List (String × Rule)}
    (named : ∀ entry ∈ entries, entry.2.name = entry.1) (start : Registry) :
    (entries.map Prod.snd).foldl add start =
      ⟨entries.foldl (fun entries pair => Entries.put (· == ·) pair.1 pair.2 entries)
        start.rules⟩ := by
  induction entries generalizing start with
  | nil => rfl
  | cons entry rest ih =>
      have later := ih fun other member => named other (List.mem_cons_of_mem _ member)
      rw [List.map_cons, List.foldl_cons, List.foldl_cons, later, add,
        named entry List.mem_cons_self]

theorem Sound.copy_eq (sound : registry.Sound) : registry.copy = registry := by
  have kept : registry.rules.foldl (fun entries pair =>
      Entries.put (· == ·) pair.1 pair.2 entries) [] = registry.rules :=
    Entries.foldl_put_of_nodup sound.distinct
  rw [copy, ofRules, foldl_add_eq sound.named, empty, kept]

theorem find?_add (registry : Registry) (rule : Rule) (name : String) :
    (registry.add rule).find? name =
      if rule.name = name then some rule else registry.find? name := by
  by_cases same : rule.name = name
  · rw [if_pos same, ← same]
    exact Entries.lookup_put_same rule.name rule registry.rules
  · rw [if_neg same]
    exact Entries.lookup_put_of_ne (Ne.symm same) rule registry.rules

theorem length_names (registry : Registry) : registry.names.length = registry.size := by
  rw [names, List.length_mergeSort, List.length_map, size]

theorem mem_names_iff {name : String} :
    name ∈ registry.names ↔ (registry.find? name).isSome = true := by
  rw [names, (List.mergeSort_perm _ _).mem_iff]
  exact Entries.mem_keys_iff

theorem Sound.pairwise_names (sound : registry.Sound) : registry.names.Pairwise (· < ·) := by
  have ascending : registry.names.Pairwise (· ≤ ·) := by
    have sorted : registry.names.Pairwise fun left right => decide (left ≤ right) = true := by
      refine List.pairwise_mergeSort ?_ ?_ _
      · intro low middle high below above
        exact decide_eq_true (String.le_trans (of_decide_eq_true below) (of_decide_eq_true above))
      · intro left right
        simpa using String.le_total left right
    exact sorted.imp of_decide_eq_true
  have distinct : registry.names.Nodup :=
    (List.mergeSort_perm _ _).nodup_iff.mpr sound.distinct
  -- a list that ascends and has no repetition ascends strictly
  refine (ascending.and distinct).imp fun {left right} both => ?_
  exact String.not_le.mp fun above => both.2 (String.le_antisymm both.1 above)

theorem contains_eq (registry : Registry) (name : String) :
    registry.contains name = (registry.find? name).isSome := rfl

theorem get_eq (registry : Registry) (name : String) :
    registry.get name = (registry.find? name).elim (.error (.unknownRule name)) .ok := by
  rw [get]
  cases registry.find? name <;> rfl

theorem evaluate_eq (registry : Registry) (name : String) (value : Value)
    (arguments : List Argument) (record : Value) :
    registry.evaluate name value arguments record =
      (registry.find? name).elim (.error (.unknownRule name)) fun rule =>
        rule.evaluate value arguments record := by
  rw [evaluate, get]
  cases registry.find? name <;> rfl

theorem evaluate_of_error {registry : Registry} {name : String} {rule : Rule}
    (known : registry.find? name = some rule) {value record : Value} {arguments : List Argument}
    {error : RuleError} (failed : rule.predicate value arguments record = .error error) :
    registry.evaluate name value arguments record = .error error := by
  rw [evaluate_eq, known, Option.elim, Rule.evaluate, failed]
  rfl

theorem evaluate_of_answer {registry : Registry} {name : String} {rule : Rule}
    (known : registry.find? name = some rule) {value record : Value} {arguments : List Argument}
    {holds : Bool} {message : String} (asked : rule.predicate value arguments record = .ok holds)
    (written : rule.message arguments = .ok message) :
    registry.evaluate name value arguments record =
      .ok (if holds then .valid else .invalid rule.errorId message) := by
  rw [evaluate_eq, known, Option.elim, Rule.evaluate, asked, written]
  cases holds <;> rfl

end RecordCheck.Registry
