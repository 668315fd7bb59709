import Mathlib.Data.List.Induction
import RecordCheck.Proofs.Outcome
import RecordCheck.Proofs.Rule.Registry
import RecordCheck.Rule.Standard

/-!
Histories of registries. Main statement: after any run of changes a registry holds under a name what
looking back over its own history finds: the last registration of the name since the registry was
made, or what the registry that it is a copy of held at that moment. Nothing else in the history
matters, and every registry stays a table of rules under their own names.
-/

namespace RecordCheck

namespace CatalogueStep

def target : CatalogueStep → String
  | .create target | .copy _ target | .register target .. => target

def made? : CatalogueStep → Option String
  | .create target | .copy _ target => some target
  | .register .. => none

end CatalogueStep

namespace Catalogue

def ofRules (registries : List (String × List Rule)) : Catalogue :=
  registries.map fun entry => (entry.1, Registry.ofRules entry.2)

def rule? (catalogue : Catalogue) (target name : String) : Option Rule :=
  (catalogue.lookup target).bind fun registry => registry.find? name

/-- The changes of a run that are carried out, in order. -/
def performed (catalogue : Catalogue) : List CatalogueStep → List CatalogueStep
  | [] => []
  | step :: rest =>
      match catalogue.apply step with
      | .ok changed => step :: performed changed rest
      | .error _ => performed catalogue rest

/-- What a registry holds under a name, found by looking back over the changes that were carried
out, the latest one first. At the moment of a copy the search goes on in the source. -/
def held (start : Catalogue) : List CatalogueStep → String → String → Option Rule
  | [], target, name => start.rule? target name
  | .create made :: earlier, target, name =>
      if made = target then none else held start earlier target name
  | .copy source made :: earlier, target, name =>
      held start earlier (if made = target then source else target) name
  | .register changed written predicate template errorId checkMissing :: earlier, target, name =>
      if changed = target ∧ written = .text name then
        some (.make name predicate template errorId checkMissing)
      else held start earlier target name

def lookBack (start : Catalogue) (steps : List CatalogueStep) (target name : String) :
    Option Rule :=
  held start (start.performed steps).reverse target name

/-- What a change does when it is carried out. -/
inductive Performs (catalogue : Catalogue) : CatalogueStep → Catalogue → Prop
  | create (target : String) : Performs catalogue (.create target) (catalogue.store target .empty)
  | copy {source : String} (target : String) {registry : Registry} :
      catalogue.lookup source = some registry →
      Performs catalogue (.copy source target) (catalogue.store target registry.copy)
  | register {target content : String} {registry : Registry} (predicate : Predicate)
      (template : String) (errorId : Option String) (checkMissing : Bool) :
      catalogue.lookup target = some registry → content ≠ "" →
      Performs catalogue (.register target (.text content) predicate template errorId checkMissing)
        (catalogue.store target
          (registry.add (.make content predicate template errorId checkMissing)))

variable {catalogue changed : Catalogue} {step : CatalogueStep}

theorem find_ok_iff {name : String} {registry : Registry} :
    catalogue.find name = .ok registry ↔ catalogue.lookup name = some registry := by
  rw [find]
  cases catalogue.lookup name <;> simp

theorem performs_of_apply (accepted : catalogue.apply step = .ok changed) :
    catalogue.Performs step changed := by
  cases step with
  | create target =>
      cases accepted
      exact .create target
  | copy source target =>
      obtain ⟨registry, found, rfl⟩ := map_ok_iff.mp accepted
      exact .copy target (find_ok_iff.mp found)
  | register target name predicate template errorId checkMissing =>
      obtain ⟨registry, found, accepted⟩ := bind_ok_iff.mp accepted
      cases name with
      | text content =>
          by_cases blank : content = ""
          · simp [Registry.register, blank] at accepted
          · simp only [Registry.register, blank, if_false] at accepted
            cases accepted
            exact .register predicate template errorId checkMissing (find_ok_iff.mp found) blank
      | _ => cases accepted

theorem lookup_store (catalogue : Catalogue) (name target : String) (registry : Registry) :
    (catalogue.store name registry).lookup target =
      if name = target then some registry else catalogue.lookup target := by
  by_cases same : name = target
  · rw [if_pos same, ← same]
    exact Entries.lookup_put_same name registry catalogue
  · rw [if_neg same]
    exact Entries.lookup_put_of_ne (Ne.symm same) registry catalogue

theorem rule?_store (catalogue : Catalogue) (made target name : String) (registry : Registry) :
    (catalogue.store made registry).rule? target name =
      if made = target then registry.find? name else catalogue.rule? target name := by
  rw [rule?, lookup_store]
  split <;> rfl

theorem rule?_of_lookup {target : String} {registry : Registry}
    (there : catalogue.lookup target = some registry) (name : String) :
    catalogue.rule? target name = registry.find? name := by
  rw [rule?, there]
  rfl

def Sound (catalogue : Catalogue) : Prop :=
  ∀ target registry, catalogue.lookup target = some registry → registry.Sound

theorem sound_ofRules (registries : List (String × List Rule)) : (ofRules registries).Sound := by
  intro target registry found
  obtain ⟨entry, _, same⟩ := List.mem_map.mp (Entries.mem_of_lookup found)
  cases same
  exact Registry.sound_ofRules entry.2

theorem Sound.store (sound : catalogue.Sound) {registry : Registry} (table : registry.Sound)
    (name : String) : (catalogue.store name registry).Sound := by
  intro target other found
  rw [lookup_store] at found
  split at found
  · cases found
    exact table
  · exact sound target other found

theorem Sound.performs (sound : catalogue.Sound) (performs : catalogue.Performs step changed) :
    changed.Sound := by
  cases performs with
  | create target => exact sound.store Registry.sound_empty target
  | copy target found =>
      have table := sound _ _ found
      exact sound.store (table.copy_eq.symm ▸ table) target
  | register predicate template errorId checkMissing found _ =>
      exact sound.store ((sound _ _ found).add _) _

theorem Sound.run (sound : catalogue.Sound) (steps : List CatalogueStep) :
    (catalogue.run steps).Sound := by
  induction steps generalizing catalogue with
  | nil => exact sound
  | cons step rest ih =>
      rw [Catalogue.run]
      split
      · rename_i changed accepted
        exact ih (sound.performs (performs_of_apply accepted))
      · exact ih sound

theorem run_of_accepted (accepted : catalogue.apply step = .ok changed)
    (later : List CatalogueStep) : catalogue.run (step :: later) = changed.run later := by
  rw [run, accepted]

theorem run_of_refused {error : CatalogueError} (refused : catalogue.apply step = .error error)
    (later : List CatalogueStep) : catalogue.run (step :: later) = catalogue.run later := by
  rw [run, refused]

theorem performed_of_accepted (accepted : catalogue.apply step = .ok changed)
    (later : List CatalogueStep) :
    catalogue.performed (step :: later) = step :: changed.performed later := by
  rw [performed, accepted]

theorem performed_of_refused {error : CatalogueError}
    (refused : catalogue.apply step = .error error) (later : List CatalogueStep) :
    catalogue.performed (step :: later) = catalogue.performed later := by
  rw [performed, refused]

theorem run_append (catalogue : Catalogue) (before after : List CatalogueStep) :
    catalogue.run (before ++ after) = (catalogue.run before).run after := by
  induction before generalizing catalogue with
  | nil => rfl
  | cons step rest ih =>
      cases outcome : catalogue.apply step with
      | ok changed => rw [List.cons_append, run_of_accepted outcome, run_of_accepted outcome, ih]
      | error error => rw [List.cons_append, run_of_refused outcome, run_of_refused outcome, ih]

theorem performed_append (catalogue : Catalogue) (before after : List CatalogueStep) :
    catalogue.performed (before ++ after) =
      catalogue.performed before ++ (catalogue.run before).performed after := by
  induction before generalizing catalogue with
  | nil => rfl
  | cons step rest ih =>
      cases outcome : catalogue.apply step with
      | ok changed =>
          rw [List.cons_append, performed_of_accepted outcome, performed_of_accepted outcome,
            run_of_accepted outcome, ih, List.cons_append]
      | error error =>
          rw [List.cons_append, performed_of_refused outcome, performed_of_refused outcome,
            run_of_refused outcome, ih]

theorem rule?_performs (sound : catalogue.Sound) (performs : catalogue.Performs step changed)
    {start : Catalogue} {earlier : List CatalogueStep}
    (before : ∀ target name, catalogue.rule? target name = held start earlier target name)
    (target name : String) :
    changed.rule? target name = held start (step :: earlier) target name := by
  cases performs with
  | create made =>
      rw [rule?_store, held, before]
      rfl
  | copy made found =>
      rw [rule?_store, held, (sound _ _ found).copy_eq, ← rule?_of_lookup found, before, before]
      split <;> rfl
  | @register made content registry predicate template errorId checkMissing found _ =>
      rw [rule?_store, held, Registry.find?_add, ← rule?_of_lookup found, before, before]
      by_cases here : made = target
      · by_cases same : content = name
        · simp [here, same, Rule.make]
        · simp [here, same, Rule.make]
      · simp [here]

theorem rule?_run {start : Catalogue} (sound : start.Sound) (steps : List CatalogueStep)
    (target name : String) :
    (start.run steps).rule? target name = start.lookBack steps target name := by
  unfold lookBack
  induction steps using List.reverseRecOn generalizing target name with
  | nil => rfl
  | append_singleton before step ih =>
      -- a refused change is not among those carried out, and leaves the catalogue as it was
      rw [run_append, performed_append, List.reverse_append]
      cases outcome : (start.run before).apply step with
      | error error =>
          rw [run_of_refused outcome, performed_of_refused outcome]
          exact ih target name
      | ok changed =>
          rw [run_of_accepted outcome, performed_of_accepted outcome]
          exact rule?_performs (sound.run before) (performs_of_apply outcome) ih target name

theorem lookup_run_elsewhere {target : String} (elsewhere : step.target ≠ target) :
    (catalogue.run [step]).lookup target = catalogue.lookup target := by
  cases outcome : catalogue.apply step with
  | error error =>
      rw [run_of_refused outcome]
      rfl
  | ok changed =>
      rw [run_of_accepted outcome, run]
      cases performs_of_apply outcome <;> exact (lookup_store ..).trans (if_neg elsewhere)

section Kept

variable {first second : Catalogue} {target : String}
  (same : first.lookup target = second.lookup target)

include same

theorem lookup_register_congr (name : Value) (predicate : Predicate) (template : String)
    (errorId : Option String) (checkMissing : Bool) :
    (first.run [.register target name predicate template errorId checkMissing]).lookup target =
      (second.run [.register target name predicate template errorId checkMissing]).lookup
        target := by
  cases there : second.lookup target with
  | none => simp [run, apply, find, same, there, Except.bind]
  | some registry =>
      cases outcome : registry.register name predicate template errorId checkMissing with
      | error error => simp [run, apply, find, same, there, outcome, Except.bind]
      | ok result => simp [run, apply, find, same, there, outcome, Except.bind, lookup_store]

theorem lookup_run_congr {steps : List CatalogueStep}
    (kept : ∀ step ∈ steps, step.made? ≠ some target) :
    (first.run steps).lookup target = (second.run steps).lookup target := by
  induction steps generalizing first second with
  | nil => exact same
  | cons step rest ih =>
      have later := fun other member => kept other (List.mem_cons_of_mem step member)
      rw [← List.singleton_append, run_append, run_append]
      refine ih ?_ later
      by_cases elsewhere : step.target ≠ target
      · rw [lookup_run_elsewhere elsewhere, lookup_run_elsewhere elsewhere, same]
      · have here : step.target = target := not_not.mp elsewhere
        -- the registry is not made anew, so the change is a registration on it
        cases step with
        | create made => exact absurd (congrArg some here) (kept _ List.mem_cons_self)
        | copy source made => exact absurd (congrArg some here) (kept _ List.mem_cons_self)
        | register changed name predicate template errorId checkMissing =>
            cases here
            exact lookup_register_congr same name predicate template errorId checkMissing

end Kept

theorem refused_of_bad_name {name : Value} (bad : ∀ content, name = .text content → content = "")
    (catalogue : Catalogue) (target : String) (predicate : Predicate) (template : String)
    (errorId : Option String) (checkMissing : Bool) : ∃ error,
    catalogue.apply (.register target name predicate template errorId checkMissing) =
      .error error := by
  cases outcome : catalogue.apply
      (.register target name predicate template errorId checkMissing) with
  | error error => exact ⟨error, rfl⟩
  | ok changed =>
      cases performs_of_apply outcome with
      | register _ _ _ _ _ proper => exact absurd (bad _ rfl) proper

/-- In every registry that a history leaves behind each key is the name of its rule, and the names
are listed in ascending order, each once. Under every name the registry holds what looking back
finds, and that is all that asking it shows. A refused change leaves no trace, a registration
without a proper name is refused, and a registration on another registry leaves no trace in one
that is not made anew afterwards. -/
theorem registries_independent (registries : List (String × List Rule)) :
    (∀ steps target registry, ((ofRules registries).run steps).lookup target = some registry →
      (∀ entry ∈ registry.rules, entry.2.name = entry.1) ∧
      registry.names.Pairwise (· < ·) ∧ registry.names.length = registry.size ∧
      ∀ name rule?, (ofRules registries).lookBack steps target name = rule? →
        (name ∈ registry.names ↔ rule?.isSome = true) ∧
        registry.contains name = rule?.isSome ∧
        registry.get name = rule?.elim (.error (.unknownRule name)) .ok ∧
        ∀ value arguments record, registry.evaluate name value arguments record =
          rule?.elim (.error (.unknownRule name)) fun rule =>
            rule.evaluate value arguments record) ∧
    (∀ before step later error, ((ofRules registries).run before).apply step = .error error →
      (ofRules registries).run (before ++ step :: later) =
        (ofRules registries).run (before ++ later)) ∧
    (∀ steps target name predicate template errorId checkMissing,
      (∀ content, name = .text content → content = "") →
        ∃ error, ((ofRules registries).run steps).apply
          (.register target name predicate template errorId checkMissing) = .error error) ∧
    ∀ before other name predicate template errorId checkMissing later target, other ≠ target →
      (∀ step ∈ later, step.made? ≠ some target) →
        ((ofRules registries).run (before ++
          .register other name predicate template errorId checkMissing :: later)).lookup target =
          ((ofRules registries).run (before ++ later)).lookup target := by
  have sound := sound_ofRules registries
  refine ⟨?_, ?_, ?_, ?_⟩
  · intro steps target registry there
    have table := sound.run steps target registry there
    refine ⟨table.named, table.pairwise_names, registry.length_names, ?_⟩
    rintro name rule? rfl
    have found : registry.find? name = (ofRules registries).lookBack steps target name := by
      rw [← rule?_of_lookup there, rule?_run sound]
    rw [Registry.mem_names_iff, Registry.contains_eq, Registry.get_eq, found]
    refine ⟨Iff.rfl, rfl, rfl, fun value arguments record => ?_⟩
    rw [Registry.evaluate_eq, found]
  · intro before step later error refused
    rw [run_append, run_append, run_of_refused refused]
  · intro steps target name predicate template errorId checkMissing bad
    exact refused_of_bad_name bad _ target predicate template errorId checkMissing
  · intro before other name predicate template errorId checkMissing later target apart kept
    have elsewhere : (CatalogueStep.register other name predicate template errorId
      checkMissing).target ≠ target := apart
    rw [run_append, run_append, ← List.singleton_append, run_append]
    exact lookup_run_congr (lookup_run_elsewhere elsewhere) kept

def always : Predicate := fun _ _ _ => .ok true

def never : Predicate := fun _ _ _ => .ok false

def branching : List CatalogueStep :=
  [.copy "default" "own", .register "own" (.text "email") always "" none false,
    .register "default" (.text "") never "" none false, .copy "own" "branch",
    .register "own" (.text "email") never "Closed" (some "CLOSED") false,
    .register "default" (.text "phoneUS") never "" none true, .create "blank"]

theorem branching_keeps_source : ∃ registry,
    ((ofRules [("default", Standard.rules)]).run branching).lookup "branch" = some registry ∧
      registry.names.length = registry.size ∧
      registry.evaluate "email" (.int 1) [] .null = .ok .valid ∧
      registry.evaluate "phoneUS" (.text "2025550123") [] .null = .ok .valid ∧
      registry.contains "" = false := by
  obtain ⟨_, _, size, answers⟩ :=
    (registries_independent [("default", Standard.rules)]).1 branching "branch" _ rfl
  exact ⟨_, rfl, size, (answers "email" _ rfl).2.2.2 _ _ _,
    (answers "phoneUS" _ rfl).2.2.2 _ _ _, (answers "" _ rfl).2.1⟩

end Catalogue

end RecordCheck
