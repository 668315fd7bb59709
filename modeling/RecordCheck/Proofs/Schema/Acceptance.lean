import RecordCheck.Proofs.Number.Written
import RecordCheck.Proofs.Schema.Definitions

/-!
Which drafts compile, and what comes of the others. Main statement: a draft compiles exactly when it
has what a schema needs, and for any other the compiler gives an error that rests on the draft.
-/

namespace RecordCheck

/-- A text that stands somewhere inside a draft. -/
inductive Draft.HasText (content : String) : Draft → Prop
  | here : HasText content (.text content)
  | inside {draft child : Draft} : child ∈ draft.children → HasText content child →
      HasText content draft

/-- What an error rests on. A fault in the notation of rules is what the reader says about a text in
the draft; data that cannot be copied has a compiled property or schema in it, and a draft that
cannot be written an integer that is too long. The other errors are about the definitions. -/
def SchemaError.Founded (draft : Draft) : SchemaError → Prop
  | .rules error => draft.HasText error.text ∧ Directive.read error.text = .error error
  | .uncopied => ∃ part : Part, part.In draft ∧ part.copyable = false
  | .integer fault => fault = .unwritable ∧ draft.writable = false
  | _ => True

namespace Draft

section Faults

theorem unwritable_of_child {draft child : Draft} (member : child ∈ draft.children)
    (long : child.writable = false) : draft.writable = false :=
  Bool.eq_false_iff.mpr fun whole => Bool.eq_false_iff.mp long (Value.writable_child member whole)

theorem founded_inside {draft child : Draft} (member : child ∈ draft.children) {error : SchemaError}
    (founded : error.Founded child) : error.Founded draft := by
  cases error with
  | rules error =>
      obtain ⟨holds, refused⟩ := founded
      exact ⟨.inside member holds, refused⟩
  | uncopied =>
      obtain ⟨part, held, fixed⟩ := founded
      exact ⟨part, .inside member held, fixed⟩
  | integer fault =>
      obtain ⟨same, long⟩ := founded
      exact ⟨same, unwritable_of_child member long⟩
  | _ => trivial

def Faults {result : Type} (draft : Draft) (outcome : Except SchemaError result) : Prop :=
  ∀ error, outcome = .error error → error.Founded draft

namespace Faults

variable {first second : Type} {draft : Draft}

theorem ok (result : first) : Faults draft (.ok result) := nofun

theorem of_founded {error : SchemaError} (founded : error.Founded draft) :
    Faults draft (.error error : Except SchemaError first) := by
  rintro _ ⟨⟩
  exact founded

theorem bind {start : Except SchemaError first} {next : first → Except SchemaError second}
    (starts : Faults draft start) (goes : ∀ value, Faults draft (next value)) :
    Faults draft (start.bind next) := by
  intro error failed
  rcases bind_error_iff.mp failed with failed | ⟨value, _, failed⟩
  · exact starts error failed
  · exact goes value error failed

theorem map {start : Except SchemaError first} {change : first → second}
    (starts : Faults draft start) : Faults draft (start.map change) :=
  fun error failed => starts error (map_error_iff.mp failed)

theorem inside {child : Draft} (member : child ∈ draft.children)
    {outcome : Except SchemaError first} (faults : Faults child outcome) : Faults draft outcome :=
  fun error failed => founded_inside member (faults error failed)

theorem entry {entries : List (Key × Draft)} (key : Key) {compiler : Draft → Except SchemaError first}
    (null : Faults (.dict entries) (compiler .null))
    (each : ∀ child ∈ Value.children (.dict entries), Faults child (compiler child)) :
    Faults (.dict entries) (compiler ((entries.lookup key).getD .null)) := by
  cases found : entries.lookup key with
  | none => exact null
  | some child => exact (each child (child_of_lookup found)).inside (child_of_lookup found)

end Faults

/-- An error that names a draft rests on it also when the draft cannot be written. -/
theorem naming_founded {error : String → SchemaError} {draft : Draft}
    (named : ∀ literal, (error literal).Founded draft) :
    (SchemaError.naming error draft).Founded draft := by
  rw [SchemaError.naming, Value.literal]
  cases writable : draft.writable with
  | true => exact named _
  | false => exact ⟨rfl, writable⟩

theorem read_faults (content : String) :
    Faults (.text content) ((Directive.read content).mapError .rules) := by
  intro error failed
  obtain ⟨fault, refused, rfl⟩ := mapError_error_iff.mp failed
  obtain ⟨cause, _, rfl⟩ := mapError_error_iff.mp refused
  exact ⟨.here, refused⟩

theorem display_integer {draft : Draft} {error : DirectiveDraftError}
    (failed : draft.display.mapError .integer = .error error) :
    error = .integer .unwritable ∧ draft.writable = false := by
  obtain ⟨fault, refused, rfl⟩ := mapError_error_iff.mp failed
  obtain ⟨long, rfl⟩ := Whole.ifWritable_error_iff.mp refused
  exact ⟨rfl, long⟩

theorem entryText_integer {name : String} {entries : List (Key × Draft)} {fault : Whole.Fault}
    (failed : Argument.entryText name entries = .error (.integer fault)) :
    fault = .unwritable ∧ Value.writable (.dict entries) = false := by
  rw [Argument.entryText] at failed
  split at failed
  · rename_i found
    obtain ⟨same, long⟩ := display_integer failed
    cases same
    exact ⟨rfl, unwritable_of_child (child_of_lookup found) long⟩
  · cases failed

theorem argument_integer {draft : Draft} {fault : Whole.Fault}
    (failed : Argument.ofDraft draft = .error (.integer fault)) :
    fault = .unwritable ∧ draft.writable = false := by
  cases draft with
  | dict entries =>
      rw [Argument.ofDraft] at failed
      rcases bind_error_iff.mp failed with failed | ⟨_, _, failed⟩
      · exact entryText_integer failed
      · exact entryText_integer (map_error_iff.mp failed)
  | part content => cases content <;> cases failed
  | _ => cases failed

theorem arguments_integer {drafts : List Draft} {fault : Whole.Fault}
    (failed : Directive.argumentsOfDrafts drafts = .error (.integer fault)) :
    fault = .unwritable ∧ ∃ draft ∈ drafts, draft.writable = false := by
  induction drafts with
  | nil => cases failed
  | cons draft rest ih =>
      rcases bind_error_iff.mp failed with failed | ⟨_, _, failed⟩
      · obtain ⟨rfl, long⟩ := argument_integer failed
        exact ⟨rfl, draft, List.mem_cons_self, long⟩
      · obtain ⟨rfl, item, member, long⟩ := ih (map_error_iff.mp failed)
        exact ⟨rfl, item, List.mem_cons_of_mem _ member, long⟩

theorem listed_not_integer (draft : Draft) (fault : Whole.Fault) :
    Directive.listedArguments draft ≠ .error (.integer fault) := by
  unfold Directive.listedArguments
  split
  · exact nofun
  · split <;> exact nofun

theorem byte_writable (byte : UInt8) : (Value.int byte.toNat : Draft).writable = true := by
  have small : byte.toNat < 10 ^ 3 := Nat.lt_trans byte.toNat_lt (by decide)
  have digits : (Nat.toDigits 10 byte.toNat).length ≤ 3 :=
    (Nat.length_toDigits_le_iff (by decide) (by decide)).mpr small
  exact decide_eq_true (Nat.le_trans digits (by decide))

theorem listed_unwritable {draft item : Draft} {drafts : List Draft}
    (listed : Directive.listedArguments draft = .ok drafts) (member : item ∈ drafts)
    (long : item.writable = false) : draft.writable = false := by
  unfold Directive.listedArguments at listed
  split at listed
  · cases listed
    cases member
  · split at listed
    · cases listed
      exact unwritable_of_child member long
    · cases listed
      exact unwritable_of_child member long
    · cases listed
      obtain ⟨char, _, rfl⟩ := List.mem_map.mp member
      cases long
    · cases listed
      obtain ⟨byte, _, rfl⟩ := List.mem_map.mp member
      rw [byte_writable] at long
      cases long
    · cases listed
      obtain ⟨entry, inside, rfl⟩ := List.mem_map.mp member
      refine Bool.eq_false_iff.mpr fun whole => Bool.eq_false_iff.mp long ?_
      have written := (Value.writableEntries_iff.mp whole entry inside).1
      rw [← written]
      cases entry.1 <;> rfl
    · cases listed

theorem notDirective_integer {draft : Draft} {fault : Whole.Fault}
    (failed : Directive.notDirective draft = .integer fault) :
    fault = .unwritable ∧ draft.writable = false := by
  rw [Directive.notDirective, Value.literal] at failed
  cases writable : draft.writable with
  | true =>
      rw [writable] at failed
      cases failed
  | false =>
      rw [writable] at failed
      cases failed
      exact ⟨rfl, rfl⟩

theorem directive_integer {draft : Draft} {fault : Whole.Fault}
    (failed : Directive.ofDraft draft = .error (.integer fault)) :
    fault = .unwritable ∧ draft.writable = false := by
  cases draft with
  | dict entries =>
      rw [Directive.ofDraft] at failed
      split at failed
      · rename_i name found
        rcases bind_error_iff.mp failed with failed | ⟨drafts, listed, failed⟩
        · exact absurd failed (listed_not_integer _ fault)
        rcases bind_error_iff.mp failed with failed | ⟨_, _, failed⟩
        · obtain ⟨rfl, item, member, long⟩ := arguments_integer failed
          have untold := listed_unwritable listed member long
          cases there : entries.lookup (.text "arguments") with
          | none =>
              rw [there] at untold
              cases untold
          | some arguments =>
              rw [there] at untold
              exact ⟨rfl, unwritable_of_child (child_of_lookup there) untold⟩
        · obtain ⟨same, long⟩ := display_integer (map_error_iff.mp failed)
          cases same
          exact ⟨rfl, unwritable_of_child (child_of_lookup found) long⟩
      · exact notDirective_integer (Except.error.inj failed)
  | part content =>
      cases content with
      | directive content => cases failed
      | _ => exact notDirective_integer (Except.error.inj failed)
  | _ => exact notDirective_integer (Except.error.inj failed)

theorem rulesOfItem_faults (path : Path) (draft : Draft) : Faults draft (rulesOfItem path draft) := by
  cases draft with
  | text content => exact read_faults content
  | _ =>
      rw [rulesOfItem]
      split
      · exact .ok _
      · rename_i failed
        exact .of_founded (directive_integer failed)
      · exact .of_founded (naming_founded fun _ => trivial)
      · rintro content ⟨⟩

theorem rulesOfItems_faults (path : Path) {whole : Draft} {items : List Draft}
    (inside : ∀ item ∈ items, item ∈ whole.children) :
    Faults whole (rulesOfItems path items) := by
  induction items with
  | nil => exact .ok []
  | cons item rest ih =>
      have first := inside item List.mem_cons_self
      have later := ih fun other member => inside other (List.mem_cons_of_mem _ member)
      exact .bind (.inside first (rulesOfItem_faults path item)) fun rules => .map later

theorem rulesOf_faults (path : Path) (draft : Draft) : Faults draft (rulesOf path draft) := by
  cases draft with
  | null => exact .ok []
  | text content => exact read_faults content
  | list items => exact rulesOfItems_faults path fun _ member => member
  | tuple items => exact rulesOfItems_faults path fun _ member => member
  | _ => exact .of_founded trivial

def CompilationFaults (draft : Draft) : Prop :=
  (∀ path, Faults draft (compileProperty path draft)) ∧
    ∀ path, Faults draft (compileMembers path draft)

theorem declaredType_faults (path : Path) (entries : List (Key × Draft)) :
    Faults (.dict entries) (declaredType path entries) := by
  rw [declaredType]
  split
  · rename_i draft found
    split
    · exact .ok _
    · exact .inside (child_of_lookup found) (.of_founded (naming_founded fun _ => trivial))
  · split
    · exact .ok _
    · exact .of_founded trivial

theorem uncopied_founded {entries : List (Key × Draft)}
    (fixed : ¬∀ entry ∈ entries, entry.2.Copied) : SchemaError.uncopied.Founded (.dict entries) := by
  by_contra unfounded
  refine fixed fun entry member part held => ?_
  by_contra stays
  have inside : entry.2 ∈ Value.children (.dict entries) := List.mem_map_of_mem member
  exact unfounded ⟨part, .inside inside held, Bool.eq_false_iff.mpr stays⟩

theorem compileEntries_faults {entries : List (Key × Draft)} {whole : List (Key × Draft)}
    (within : ∀ entry ∈ entries, entry ∈ whole)
    (inside : ∀ entry ∈ entries, CompilationFaults entry.2)
    (path : Path) : Faults (.dict whole) (compileEntries path entries) := by
  induction entries with
  | nil => exact .ok []
  | cons entry rest ih =>
      obtain ⟨own, within⟩ := List.forall_mem_cons.mp within
      obtain ⟨faults, inside⟩ := List.forall_mem_cons.mp inside
      have member : entry.2 ∈ Value.children (.dict whole) := List.mem_map_of_mem own
      refine .bind (fun error failed => ?_) fun name => ?_
      · obtain ⟨fault, refused, rfl⟩ := mapError_error_iff.mp failed
        obtain ⟨long, rfl⟩ := Whole.ifWritable_error_iff.mp refused
        refine ⟨rfl, Bool.eq_false_iff.mpr fun written => ?_⟩
        exact Bool.eq_false_iff.mp long (Value.writableEntries_iff.mp written entry own).1
      · exact .bind (.inside member (faults.1 _)) fun _ => .map (ih within inside)

section Mapping

variable {entries : List (Key × Draft)}
  (inside : ∀ child ∈ Value.children (.dict entries), CompilationFaults child)

include inside

theorem compileItem_faults (path : Path) : Faults (.dict entries) (compileItem path entries) := by
  rw [compileItem_eq]
  cases found : entries.lookup (.text "schema") with
  | none => exact .ok none
  | some item =>
      have member := child_of_lookup found
      dsimp only
      split
      · exact .ok none
      · exact .map (.inside member ((inside item member).1 path))

theorem compileMembersIn_faults (path : Path) :
    Faults (.dict entries) (compileMembersIn path entries) := by
  rw [compileMembersIn_eq]
  cases found : entries.lookup (.text "properties") with
  | none => exact .ok none
  | some fields =>
      have member := child_of_lookup found
      exact .map (.inside member ((inside fields member).2 path))

theorem property_faults (path : Path) :
    Faults (.dict entries) (compileProperty path (.dict entries)) := by
  rw [compileProperty]
  refine .bind (declaredType_faults path entries) fun type => ?_
  split
  · rename_i fixed
    refine .of_founded (uncopied_founded fun copied => ?_)
    have kept : Kept isPropertyKey entries :=
      ⟨fun entry member _ => copied entry member,
        fun default found => copied (_, default) (Entries.mem_of_lookup found)⟩
    rw [keepable_iff.mpr kept] at fixed
    cases fixed
  refine .bind (.entry _ (.ok []) fun child _ => rulesOf_faults path child) fun rules => ?_
  cases type with
  | scalar type => exact .ok _
  | object => exact .map (compileMembersIn_faults inside path)
  | array =>
      dsimp only
      split
      · exact .of_founded trivial
      · exact .map (compileItem_faults inside path)

end Mapping

theorem compilation_faults (draft : Draft) : CompilationFaults draft := by
  induction draft using Value.byChildren with
  | node draft inside =>
      constructor
      · intro path
        cases draft with
        | dict entries => exact property_faults inside path
        | part content =>
            cases content with
            | property content => exact .ok content
            | _ => exact .of_founded trivial
        | _ => exact .of_founded trivial
      · intro path
        cases draft with
        | null => exact .ok []
        | dict entries =>
            refine .map (compileEntries_faults (fun _ member => member) (fun entry member => ?_) path)
            exact inside entry.2 (List.mem_map_of_mem (f := Prod.snd) member)
        | _ => exact .of_founded trivial

theorem modeOf_faults (draft : Draft) : Faults draft (modeOf draft) := by
  unfold modeOf
  split
  · exact .ok _
  · split
    · split
      · exact .ok _
      · exact .of_founded (naming_founded fun _ => trivial)
    · exact .of_founded (naming_founded fun _ => trivial)

theorem compile_faults (draft : Draft) : Faults draft (compile draft) := by
  cases draft with
  | dict entries =>
      refine .bind (.entry _ (.ok _) fun child _ => modeOf_faults child) fun mode => ?_
      refine .bind (.entry _ (.ok []) fun child _ => (compilation_faults child).2 []) fun members => ?_
      split
      · exact .ok _
      · rename_i fixed
        refine .of_founded (uncopied_founded fun copied => fixed ?_)
        exact copyableEntries_iff.mpr fun entry member =>
          copyable_iff.mpr (copied entry (List.mem_of_mem_filter member))
  | part content =>
      cases content with
      | schema content => exact .ok content
      | _ => exact .of_founded trivial
  | _ => exact .of_founded trivial

end Faults

/-- A draft compiles exactly when it is a whole schema. Any other is refused with an error, and the
error rests on the draft. -/
theorem compiles_exactly_definitions (draft : Draft) :
    ((∃ schema, compile draft = .ok schema) ↔ draft.DefinesSchema) ∧
      ((∃ error, compile draft = .error error) ↔ ¬draft.DefinesSchema) ∧
      ∀ error, compile draft = .error error → error.Founded draft := by
  refine ⟨compile_returns draft, ?_, compile_faults draft⟩
  rw [← compile_returns draft, not_returns_iff]

/-- Not every error is about the definitions: a mode can be an integer that no error can name. -/
theorem errors_beyond_definitions : ¬∀ (draft : Draft) (error : SchemaError),
    compile draft = .error error → error ≠ .uncopied ∧ ∀ fault, error ≠ .integer fault := by
  intro claimed
  obtain ⟨integer, long⟩ := Whole.exists_unwritable
  have truthy : (.int integer : Draft).truthy = true := by
    rw [Value.truthy, bne_iff_ne]
    rintro rfl
    cases long
  have unnamed : compile (.dict [(.text "mode", .int integer)]) =
      .error (.integer .unwritable) := by
    simp [compile, modeOf, truthy, SchemaError.naming, Value.literal, Value.writable, long,
      Whole.ifWritable, Except.bind]
  exact (claimed _ _ unnamed).2 _ rfl

end Draft

end RecordCheck
