import Mathlib.Data.List.Forall2
import RecordCheck.Proofs.Schema.Compiled

/-!
Rules that are given in their compiled form. A directive can be spelled by itself or by a mapping
that lists its arguments, and an argument under a key by itself or by a mapping again; whichever way
it is spelled, it is read back.
-/

namespace RecordCheck

/-- The ways to write an argument among those of a directive. -/
inductive Argument.Spells : Argument → Draft → Prop
  | positional (value : Value) : Spells (.positional value) value.embed
  | compiled (key text : String) : Spells (.keyed key text) (.part (.argument key text))
  | mapping {entries : List (Key × Draft)} {key text : String} :
      entries.lookup (.text "key") = some (.text key) →
      entries.lookup (.text "value") = some (.text text) → Spells (.keyed key text) (.dict entries)

/-- The ways to write a directive among the rules of a property. -/
inductive Directive.Spells : Directive → Draft → Prop
  | compiled (directive : Directive) : Spells directive (.part (.directive directive))
  | mapping {directive : Directive} {entries : List (Key × Draft)} {arguments : Draft}
      {items : List Draft} :
      entries.lookup (.text "name") = some (.text directive.name) →
      entries.lookup (.text "arguments") = some arguments →
      arguments = .list items ∨ arguments = .tuple items →
      List.Forall₂ Argument.Spells directive.arguments items → Spells directive (.dict entries)

theorem Argument.Spells.read {argument : Argument} {draft : Draft} (spells : argument.Spells draft)
    (bare : argument.Bare) : Argument.ofDraft draft = .ok argument := by
  cases spells with
  | compiled key text => rfl
  | mapping key text =>
      rw [Argument.ofDraft, Argument.entryText, Argument.entryText, key, text]
      rfl
  | positional value =>
      cases value with
      | dict entries => cases bare
      | part content => exact content.elim
      | _ => simp [Value.embed, Argument.ofDraft, Draft.plain, Draft.plainItems_embedItems]

namespace Directive

theorem argumentsOfDrafts_spelled {arguments : List Argument} {drafts : List Draft}
    (spelled : List.Forall₂ Argument.Spells arguments drafts)
    (bare : ∀ argument ∈ arguments, argument.Bare) :
    argumentsOfDrafts drafts = .ok arguments := by
  induction spelled with
  | nil => rfl
  | cons spells _ ih =>
      have first := spells.read (bare _ List.mem_cons_self)
      have later := ih fun other member => bare other (List.mem_cons_of_mem _ member)
      simp only [argumentsOfDrafts, first, later, Except.bind, Except.map]

theorem Spells.read {directive : Directive} {draft : Draft} (spells : directive.Spells draft)
    (wellFormed : directive.WellFormed) : ofDraft draft = .ok directive := by
  cases spells with
  | compiled => rfl
  | mapping name given sequence spelled =>
      have read := argumentsOfDrafts_spelled spelled wellFormed
      rw [ofDraft, name, given, Option.getD_some]
      rcases sequence with rfl | rfl
      · simp only [listedArguments_list, Except.bind, read]
        rfl
      · simp only [listedArguments_tuple, Except.bind, read]
        rfl

end Directive

namespace Draft

theorem rulesOfItem_spelled (path : Path) {directive : Directive} {draft : Draft}
    (spells : directive.Spells draft) (wellFormed : directive.WellFormed) :
    rulesOfItem path draft = .ok [directive] := by
  have read := spells.read wellFormed
  cases spells with
  | compiled => rfl
  | mapping => simp only [rulesOfItem, read]

theorem rulesOfItems_spelled (path : Path) {rules : List Directive} {drafts : List Draft}
    (spelled : List.Forall₂ Directive.Spells rules drafts)
    (wellFormed : ∀ directive ∈ rules, directive.WellFormed) :
    rulesOfItems path drafts = .ok rules := by
  induction spelled with
  | nil => rfl
  | cons spells _ ih =>
      have first := rulesOfItem_spelled path spells (wellFormed _ List.mem_cons_self)
      have later := ih fun other member => wellFormed other (List.mem_cons_of_mem _ member)
      simp only [rulesOfItems, first, later, Except.bind, Except.map, List.cons_append,
        List.nil_append]

end Draft

theorem Argument.spells_render (argument : Argument) : argument.Spells argument.render.embed := by
  cases argument with
  | positional value => exact .positional value
  | keyed key text => exact .mapping rfl rfl

theorem forall₂_render {kind : Type} {spells : kind → Draft → Prop} {render : kind → Value}
    (each : ∀ item, spells item (render item).embed) (items : List kind) :
    List.Forall₂ spells items (Value.embedItems (items.map render)) := by
  rw [Value.embedItems_eq, List.map_map]
  exact List.forall₂_map_right_iff.mpr (List.forall₂_same.mpr fun item _ => each item)

theorem Directive.spells_render (directive : Directive) :
    directive.Spells directive.render.embed :=
  .mapping rfl rfl (Or.inl rfl) (forall₂_render Argument.spells_render directive.arguments)

end RecordCheck
