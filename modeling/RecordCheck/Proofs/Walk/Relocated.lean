import RecordCheck.Proofs.Entries
import RecordCheck.Proofs.Rendering
import RecordCheck.Proofs.Walk.Locations
import RecordCheck.Proofs.Walk.Passes
import RecordCheck.Proofs.Walk.Sequence
import RecordCheck.Proofs.Walk.Trace

/-!
Walks of one field at different places. A walk that stands elsewhere comes to the same and finds the
same, at paths with another beginning; what is written of a path after its beginning does not depend
on the beginning, so neither do the ledgers. Main statement: this, and that the items of an array
leave in a ledger what each of them leaves alone at its position.
-/

namespace RecordCheck

namespace Findings

theorem under_under (base path : Path) (found : Findings) :
    (found.under path).under base = found.under (base ++ path) := by
  simp [under, Function.comp_def, List.append_assoc]

end Findings

namespace Walk

namespace Trace

variable {first second : Type}

def under (base : Path) (trace : Trace first) : Trace first :=
  ⟨trace.outcome, trace.found.under base⟩

theorem under_ofStep (base : Path) (step : Step first) :
    (ofStep step).under base =
      ofStep (step.map fun result => (result.1, result.2.under base)) := by
  cases step <;> rfl

theorem under_andThen (base : Path) (trace : Trace first) (next : first → Trace second) :
    (trace.andThen next).under base =
      (trace.under base).andThen fun value => (next value).under base := by
  obtain ⟨outcome, found⟩ := trace
  cases outcome with
  | error error => rfl
  | ok value => simp only [andThen, under, Findings.under_append]

theorem under_map (base : Path) (change : first → second) (trace : Trace first) :
    (trace.map change).under base = (trace.under base).map change := rfl

theorem under_asking (base : Path) (trace : Trace first)
    (ask : first → Except WalkError Findings) :
    (trace.asking ask).under base =
      (trace.under base).asking fun result => (ask result).map (Findings.under base) := by
  rw [asking, under_andThen, asking]
  congr 1
  funext result
  rw [under_ofStep]
  cases ask result <;> rfl

end Trace

section Relocation

variable {setting : Setting}

theorem applyRules_under (base path : Path) (value : Value) (rules : List Directive) :
    applyRules setting value (base ++ path) rules =
      (applyRules setting value path rules).map (Findings.under base) := by
  rw [applyRules_eq _ _ (base ++ path), applyRules_eq _ _ path]
  cases applyRules setting value [] rules with
  | error error => rfl
  | ok found => simp only [Except.map, Findings.under_under]

theorem applyMissingRules_under (base path : Path) (rules : List Directive) :
    applyMissingRules setting (base ++ path) rules =
      (applyMissingRules setting path rules).map (Findings.under base) := by
  rw [applyMissingRules_eq _ (base ++ path), applyMissingRules_eq _ path]
  cases applyMissingRules setting [] rules with
  | error error => rfl
  | ok found => simp only [Except.map, Findings.under_under]

theorem tracePaths_under (base path : Path) (keys : List Key) :
    tracePaths (base ++ path) keys = (tracePaths path keys).under base := by
  induction keys with
  | nil => rfl
  | cons key rest ih =>
      simp only [tracePaths, ih, List.append_assoc, Trace.under_andThen, Trace.under_ofStep]
      cases key.name <;> rfl

theorem traceForbidden_under (base path : Path) (members : List (String × Property))
    (entries : List (Key × Value)) :
    traceForbidden setting members entries (base ++ path) =
      (traceForbidden setting members entries path).under base := by
  obtain ⟨mode, cast, registry, record⟩ := setting
  cases mode with
  | strict => exact tracePaths_under base path _
  | loose => rfl
  | filter => rfl

/-- Wherever a field stands, its trace is the same but for the beginnings of the paths. -/
abbrev Relocates (setting : Setting) (property : Property) : Prop :=
  ∀ base path value,
    trace setting property (base ++ path) value = (trace setting property path value).under base

theorem traceItems_under {item : Property} (relocates : Relocates setting item)
    (base path : Path) (position : Nat) (items : List Value) :
    traceItems (trace setting item) (base ++ path) position items =
      (traceItems (trace setting item) path position items).under base := by
  induction items generalizing position with
  | nil => rfl
  | cons first rest ih =>
      simp only [traceItems, List.append_assoc, relocates, ih, Trace.under_andThen,
        Trace.under_map]

theorem traceMembers_under {members : List (String × Property)}
    (relocates : ∀ member ∈ members, Relocates setting member.2) (base path : Path)
    (entries : List (Key × Value)) :
    traceMembers setting members (base ++ path) entries =
      (traceMembers setting members path entries).under base := by
  induction members with
  | nil => simp only [traceMembers]; rfl
  | cons first rest ih =>
      obtain ⟨name, property⟩ := first
      have own := relocates (name, property) List.mem_cons_self
      have later := ih fun member inside => relocates member (List.mem_cons_of_mem _ inside)
      dsimp only at own
      simp only [traceMembers, List.append_assoc, own, later, Trace.under_andThen, Trace.under_map]

section Children

variable {shape : Shape Property} (relocates : ∀ child ∈ shape.children, Relocates setting child)

include relocates

theorem traceAbsent_under (base path : Path) :
    traceAbsent setting shape (base ++ path) = (traceAbsent setting shape path).under base := by
  rcases shape with type | (_ | members) | (_ | item)
  · simp only [traceAbsent]; rfl
  · simp only [traceAbsent]; rfl
  · have declared := traceMembers_under (fun member inside =>
      relocates member.2 (List.mem_map_of_mem inside)) base path []
    simp only [traceAbsent, declared, Trace.under_map]
  · simp only [traceAbsent]; rfl
  · simp only [traceAbsent]; rfl

theorem traceInside_under (base path : Path) (value : Value) :
    traceInside setting shape (base ++ path) value =
      (traceInside setting shape path value).under base := by
  rcases shape with type | (_ | members) | (_ | item)
  · simp only [traceInside]; rfl
  · simp only [traceInside]; rfl
  · have declared := traceMembers_under (fun member inside =>
      relocates member.2 (List.mem_map_of_mem inside)) base path (entriesOf value)
    simp only [traceInside, declared, traceForbidden_under, Trace.under_andThen, Trace.under_map]
  · simp only [traceInside]; rfl
  · have each := traceItems_under (relocates item (by simp)) base path 0 (itemsOf value)
    simp only [traceInside, each, Trace.under_map]

end Children

theorem trace_under (property : Property) : Relocates setting property := by
  induction property with
  | node shape rules fallback extras ih =>
      intro base path value
      by_cases absent : value = .absent
      · subst absent
        cases fallback with
        | some default => simp only [trace, if_true]; rfl
        | none =>
            simp only [trace, if_true, traceAbsent_under ih, applyMissingRules_under,
              Trace.under_asking]
      · simp only [trace, absent, if_false]
        cases castLeaf setting shape.type value with
        | error error => rfl
        | ok outcome =>
            cases outcome with
            | none => rfl
            | some result =>
                by_cases admitted : shape.type.admits result = true
                · simp only [admitted, Bool.not_true, Bool.false_eq_true, if_false,
                    traceInside_under ih, applyRules_under, Trace.under_asking]
                · simp only [admitted, Bool.not_false, if_true]
                  rfl

theorem trace_at (property : Property) (path : Path) (value : Value) :
    trace setting property path value = (trace setting property [] value).under path := by
  rw [← trace_under, List.append_nil]

end Relocation

end Walk

namespace Ledger

def empty : Ledger := ⟨[], []⟩

instance : Append Ledger :=
  ⟨fun first second => ⟨first.complaints ++ second.complaints, first.orphans ++ second.orphans⟩⟩

theorem append_empty (ledger : Ledger) : ledger ++ empty = ledger := by
  obtain ⟨complaints, orphans⟩ := ledger
  exact congrArg₂ Ledger.mk (List.append_nil complaints) (List.append_nil orphans)

theorem append_assoc (first second third : Ledger) :
    first ++ second ++ third = first ++ (second ++ third) :=
  congrArg₂ Ledger.mk (List.append_assoc ..) (List.append_assoc ..)

def concat (ledgers : List Ledger) : Ledger := ledgers.foldr (· ++ ·) empty

theorem concat_append (first second : List Ledger) :
    concat (first ++ second) = concat first ++ concat second := by
  induction first with
  | nil => rfl
  | cons ledger rest ih => exact (congrArg (ledger ++ ·) ih).trans (append_assoc ..).symm

def ofFindings (found : Findings) : Ledger := empty.record found

theorem ofFindings_eq (found : Findings) : ofFindings found =
    ⟨Entries.firsts (found.complaints.map fun entry => (entry.1.render, entry.2)),
      found.orphans⟩ := record_empty [] found

theorem ofFindings_append {first second : Findings}
    (apart : ∀ one ∈ first.complaints, ∀ other ∈ second.complaints,
      one.1.render ≠ other.1.render) :
    ofFindings (first ++ second) = ofFindings first ++ ofFindings second := by
  obtain ⟨complaints, orphans⟩ := first
  obtain ⟨later, others⟩ := second
  have texts : ∀ one ∈ complaints.map (fun entry => (entry.1.render, entry.2)),
      ∀ other ∈ later.map (fun entry => (entry.1.render, entry.2)), one.1 ≠ other.1 := by
    intro one inFirst other inSecond
    obtain ⟨entry, member, rfl⟩ := List.mem_map.mp inFirst
    obtain ⟨next, nextMember, rfl⟩ := List.mem_map.mp inSecond
    exact apart entry member next nextMember
  rw [Findings.append_mk, ofFindings_eq, ofFindings_eq, ofFindings_eq, List.map_append,
    Entries.firsts_append texts]
  rfl

theorem ofFindings_under {base : Path} (ahead : base ≠ []) (found : Findings) :
    ofFindings (found.under base) =
      ⟨(Entries.firsts (found.complaints.map fun entry =>
          (entry.1.continuation, entry.2))).map fun entry => (base.render ++ entry.1, entry.2),
        found.orphans.map (base ++ ·)⟩ := by
  have injective : Function.Injective fun text => base.render ++ text :=
    fun _ _ same => by simpa using same
  rw [ofFindings_eq, ← Entries.firsts_map injective]
  simp only [Findings.under, List.map_map, Function.comp_def, Path.render_append (Or.inl ahead)]

end Ledger

namespace Walk

section Items

variable {setting : Setting} {item : Property} {path : Path} {position : Nat}

theorem exists_rest_of_mem_found {property : Property} {value : Value} {entry : Path × Complaint}
    (member : entry ∈ (trace setting property path value).found.complaints) :
    ∃ rest, entry.1 = path ++ rest := by
  rw [trace_at] at member
  obtain ⟨inner, _, rfl⟩ := List.mem_map.mp member
  exact ⟨inner.1, rfl⟩

theorem exists_index_of_mem_found {items : List Value} {entry : Path × Complaint}
    (member : entry ∈
      (traceItems (trace setting item) path position items).found.complaints) :
    ∃ index : Nat, ∃ rest, position ≤ index ∧ entry.1 = path ++ .index index :: rest := by
  induction items generalizing position with
  | nil => cases member
  | cons first rest ih =>
      have own : entry ∈ (trace setting item (path ++ [.index position]) first).found.complaints →
          ∃ index : Nat, ∃ rest, position ≤ index ∧ entry.1 = path ++ .index index :: rest := by
        intro inFirst
        obtain ⟨rest, same⟩ := exists_rest_of_mem_found inFirst
        exact ⟨position, rest, Nat.le_refl _, by simpa using same⟩
      rw [traceItems, Trace.andThen] at member
      split at member
      · rcases List.mem_append.mp member with inFirst | inRest
        · exact own inFirst
        · obtain ⟨index, others, later, same⟩ := ih inRest
          exact ⟨index, others, by omega, same⟩
      · exact own member

/-- An item and its position, walked by itself. -/
def alone (setting : Setting) (item : Property) (path : Path) (element : Value × Nat) :
    Except WalkError Value × Ledger :=
  run setting item (path ++ [.index element.2]) element.1 .empty

/-- Every item alone comes to the value that stands beside it. -/
def ComeTo (setting : Setting) (item : Property) (path : Path) (elements : List (Value × Nat))
    (values : List Value) : Prop :=
  elements.map (fun element => (alone setting item path element).1) = values.map .ok

/-- What the items alone write down, one after the other. -/
def written (setting : Setting) (item : Property) (path : Path) (elements : List (Value × Nat)) :
    Ledger :=
  .concat (elements.map fun element => (alone setting item path element).2)

theorem outcome_traceItems_cons (first : Value) (rest : List Value) :
    (traceItems (trace setting item) path position (first :: rest)).outcome =
      (alone setting item path (first, position)).1.bind fun value =>
        (traceItems (trace setting item) path (position + 1) rest).outcome.map (value :: ·) := by
  rw [traceItems, Trace.andThen, alone, run]
  cases (trace setting item (path ++ [.index position]) first).outcome <;> rfl

theorem ofFindings_traceItems_cons (first : Value) (rest : List Value) :
    Ledger.ofFindings (traceItems (trace setting item) path position (first :: rest)).found =
      (alone setting item path (first, position)).2 ++
        match (alone setting item path (first, position)).1 with
        | .ok _ =>
            .ofFindings (traceItems (trace setting item) path (position + 1) rest).found
        | .error _ => .empty := by
  rw [traceItems, Trace.andThen, alone, run]
  cases (trace setting item (path ++ [.index position]) first).outcome with
  | error error => exact (Ledger.append_empty _).symm
  | ok value =>
      refine Ledger.ofFindings_append fun one inFirst other inRest same => ?_
      obtain ⟨own, atFirst⟩ := exists_rest_of_mem_found inFirst
      obtain ⟨index, others, later, atRest⟩ := exists_index_of_mem_found inRest
      rw [atFirst, atRest, List.append_assoc, List.singleton_append] at same
      have equal := Path.index_of_render path same
      omega

theorem traceItems_append {before values : List Value}
    (ended : ComeTo setting item path (before.zipIdx position) values) (after : List Value) :
    (traceItems (trace setting item) path position (before ++ after)).outcome =
      (traceItems (trace setting item) path (position + before.length) after).outcome.map
        (values ++ ·) ∧
    Ledger.ofFindings
        (traceItems (trace setting item) path position (before ++ after)).found =
      written setting item path (before.zipIdx position) ++
        .ofFindings
          (traceItems (trace setting item) path (position + before.length) after).found := by
  induction before generalizing position values with
  | nil =>
      cases values with
      | cons value others => cases ended
      | nil =>
          refine ⟨?_, rfl⟩
          rw [List.nil_append, List.length_nil, Nat.add_zero]
          cases (traceItems (trace setting item) path position after).outcome <;> rfl
  | cons first rest ih =>
      cases values with
      | nil => cases ended
      | cons value others =>
          simp only [ComeTo, List.zipIdx_cons, List.map_cons, List.cons.injEq] at ended
          obtain ⟨outcome, ledger⟩ := ih ended.2
          rw [List.length_cons, Nat.add_comm rest.length, ← Nat.add_assoc, List.cons_append]
          constructor
          · rw [outcome_traceItems_cons, ended.1, outcome]
            cases (traceItems (trace setting item) path (position + 1 + rest.length)
              after).outcome <;> rfl
          · rw [ofFindings_traceItems_cons, ended.1, ledger]
            exact (Ledger.append_assoc ..).symm

section Array

variable {rules : List Directive} {fallback : Option Value} {extras : List (Key × Value)}
  {value : Value}

theorem trace_array (sequence : value.isSequence = true) :
    trace setting ⟨.array (some item), rules, fallback, extras⟩ path value =
      ((traceItems (trace setting item) path 0 (itemsOf value)).map .list).asking
        fun result => applyRules setting result path rules := by
  have present : value ≠ .absent := by
    rintro rfl
    cases sequence
  have uncast := castLeaf_container setting (show FieldType.array.isScalar = false from rfl) value
  have admitted : FieldType.array.admits value = true := sequence
  simp only [trace, present, if_false, Shape.type, uncast, admitted, Bool.not_true,
    Bool.false_eq_true, traceInside]

theorem trace_plainArray (items : List Value) :
    trace setting ⟨.array none, rules, fallback, extras⟩ path (.list items) =
      (Trace.ofStep (.ok (.list items, .none))).asking
        fun result => applyRules setting result path rules := by
  have uncast := castLeaf_container setting (show FieldType.array.isScalar = false from rfl)
    (.list items)
  have admitted : FieldType.array.admits (.list items) = true := rfl
  simp only [trace, reduceCtorEq, if_false, Shape.type, uncast, admitted, Bool.not_true,
    Bool.false_eq_true, traceInside, itemsOf]

theorem path_of_mem_asked {result : Value} {entry : Path × Complaint}
    (member : entry ∈
      (Trace.ofStep ((applyRules setting result path rules).map (result, ·))).found.complaints) :
    entry.1 = path := by
  rw [applyRules_eq] at member
  cases answers : applyRules setting result [] rules with
  | error error =>
      rw [answers] at member
      cases member
  | ok own =>
      rw [answers] at member
      obtain ⟨inner, inOwn, rfl⟩ := List.mem_map.mp member
      have atField := (((applyRules_own answers).mem_iff inner.1 inner.2).mp inOwn).1
      simp [atField]

theorem ofFindings_traceItems_append {items : List Value} {own : Findings}
    (atArray : ∀ entry ∈ own.complaints, entry.1 = path) :
    Ledger.ofFindings ((traceItems (trace setting item) path position items).found ++ own) =
      .ofFindings (traceItems (trace setting item) path position items).found ++
        .ofFindings own := by
  refine Ledger.ofFindings_append fun one inItems other inOwn same => ?_
  obtain ⟨index, rest, _, atItem⟩ := exists_index_of_mem_found inItems
  rw [atItem, atArray other inOwn] at same
  exact Path.render_index_ne path index rest same

/-- An array whose items come to an end: first what they find, then what its own rules find. -/
theorem run_array_of_ended {values : List Value} (sequence : value.isSequence = true)
    (ended : ComeTo setting item path (itemsOf value).zipIdx values) :
    run setting ⟨.array (some item), rules, fallback, extras⟩ path value .empty =
      let plain := run setting ⟨.array none, rules, fallback, extras⟩ path (.list values) .empty
      (plain.1, written setting item path (itemsOf value).zipIdx ++ plain.2) := by
  obtain ⟨outcome, ledger⟩ := traceItems_append ended []
  rw [List.append_nil] at outcome ledger
  have normal : (traceItems (trace setting item) path 0 (itemsOf value)).outcome = .ok values := by
    rw [outcome]
    exact congrArg Except.ok (List.append_nil values)
  have found : Ledger.ofFindings (traceItems (trace setting item) path 0 (itemsOf value)).found =
      written setting item path (itemsOf value).zipIdx := by
    rw [ledger]
    exact Ledger.append_empty _
  rw [run, run, trace_array sequence, trace_plainArray]
  simp only [Trace.asking, Trace.andThen, Trace.map, normal, Except.map, Trace.ofStep]
  refine Prod.ext rfl ?_
  exact (ofFindings_traceItems_append fun _ => path_of_mem_asked).trans (congrArg (· ++ _) found)

/-- An array in which an item fails: what is found up to there. -/
theorem run_array_of_failed {values before after : List Value} {element : Value}
    {error : WalkError} (sequence : value.isSequence = true)
    (split : itemsOf value = before ++ element :: after)
    (ended : ComeTo setting item path before.zipIdx values)
    (failed : (alone setting item path (element, before.length)).1 = .error error) :
    run setting ⟨.array (some item), rules, fallback, extras⟩ path value .empty =
      (.error error, written setting item path (before ++ [element]).zipIdx) := by
  obtain ⟨outcome, ledger⟩ := traceItems_append ended (element :: after)
  rw [← split, Nat.zero_add] at outcome ledger
  rw [outcome_traceItems_cons, failed] at outcome
  rw [ofFindings_traceItems_cons, failed] at ledger
  have stopped : (traceItems (trace setting item) path 0 (itemsOf value)).outcome =
      .error error := outcome
  rw [run, trace_array sequence]
  simp only [Trace.asking, Trace.andThen, Trace.map, stopped, Except.map]
  refine Prod.ext rfl ?_
  rw [written, List.zipIdx_append, List.map_append, Ledger.concat_append, Nat.zero_add]
  exact ledger

end Array

end Items

/-- Below any place but the root the walk of a value comes to the same, and in what it writes down
the same texts follow the place. -/
def WalksAlike (setting : Setting) (property : Property) (value : Value) : Prop :=
  ∃ (outcome : Except WalkError Value) (complaints : List (String × Complaint))
    (orphans : List String), ∀ path : Path, path ≠ [] →
      (visit setting property path value).map Prod.fst = outcome ∧
      (run setting property path value .empty).1 = outcome ∧
      (run setting property path value .empty).2.complaints =
        complaints.map (fun entry => (path.render ++ entry.1, entry.2)) ∧
      (run setting property path value .empty).2.orphans.map Path.render =
        orphans.map (path.render ++ ·)

theorem walksAlike (setting : Setting) (property : Property) (value : Value) :
    WalksAlike setting property value := by
  let root := trace setting property [] value
  refine ⟨root.outcome, Entries.firsts (root.found.complaints.map fun entry =>
    (entry.1.continuation, entry.2)), root.found.orphans.map Path.continuation,
    fun path inside => ?_⟩
  have moved : trace setting property path value = root.under path := trace_at property path value
  have ledger := Ledger.ofFindings_under inside root.found
  refine ⟨?_, ?_, ?_, ?_⟩
  · rw [← trace_step, moved, Trace.step, Trace.under]
    cases root.outcome <;> rfl
  · rw [run, moved]
    rfl
  · rw [run, moved]
    exact congrArg Ledger.complaints ledger
  · rw [run, moved]
    refine (congrArg (List.map Path.render ∘ Ledger.orphans) ledger).trans ?_
    simp [Path.render_append (Or.inl inside)]

/-- A field is walked alike wherever it stands. So if every item of an array comes to an end alone
at its position, the walk of the array writes down what these walks write down, one after the other,
and then what the rules of the array find in the array of the results; without rules nothing
follows. If an item fails, the walk fails with it, and has written down what the items up to that
one write down alone. -/
theorem walks_alike_everywhere (setting : Setting) (property item : Property) (value array : Value)
    (rules : List Directive) (fallback : Option Value) (extras : List (Key × Value)) (path : Path) :
    WalksAlike setting property value ∧
    (array.isSequence = true →
      (∀ values, ComeTo setting item path (itemsOf array).zipIdx values →
        let plain := run setting ⟨.array none, rules, fallback, extras⟩ path (.list values) .empty
        run setting ⟨.array (some item), rules, fallback, extras⟩ path array .empty =
          (plain.1, written setting item path (itemsOf array).zipIdx ++ plain.2) ∧
        run setting ⟨.array (some item), [], fallback, extras⟩ path array .empty =
          (.ok (.list values), written setting item path (itemsOf array).zipIdx)) ∧
      ∀ before element after values error, itemsOf array = before ++ element :: after →
        ComeTo setting item path before.zipIdx values →
        (alone setting item path (element, before.length)).1 = .error error →
        run setting ⟨.array (some item), rules, fallback, extras⟩ path array .empty =
          (.error error, written setting item path (before ++ [element]).zipIdx)) := by
  refine ⟨walksAlike setting property value, fun sequence => ⟨fun values ended =>
    ⟨run_array_of_ended sequence ended, ?_⟩, fun before element after values error split ended
      failed => run_array_of_failed sequence split ended failed⟩⟩
  have unruled : run setting ⟨.array none, [], fallback, extras⟩ path (.list values) .empty =
      (.ok (.list values), .empty) := by
    rw [run, trace_plainArray]
    rfl
  rw [run_array_of_ended sequence ended, unruled]
  exact congrArg _ (Ledger.append_empty _)

/-- A field for a list of codes. No rule is called stock. -/
def codes (rules : List Directive) : Property :=
  ⟨.array (some (code.withRules rules)), [⟨"stock", []⟩], none, []⟩

def threeCodes : List Value := [.text "abc", .text "abcde", .text "ab"]

/-- Two of three codes are too short, at the top of a record as inside of it. When codes of the
right length are held to the unfinished rule, the walk fails at the second. -/
theorem codes_walk_alike :
    (∃ complaints : List (String × Complaint),
      (run codeSetting (codes longEnough) [.name "codes"] (.list threeCodes)
        .empty).2.complaints = complaints.map (fun entry => ("codes" ++ entry.1, entry.2)) ∧
      (run codeSetting (codes longEnough) [.name "orders", .index 2, .name "codes"]
        (.list threeCodes) .empty).2.complaints =
          complaints.map (fun entry => ("orders[2].codes" ++ entry.1, entry.2))) ∧
    run codeSetting (codes longEnough) [.name "codes"] (.list threeCodes) .empty =
      (.ok (.list threeCodes), ⟨[("codes[0]", shortCode.2), ("codes[2]", shortCode.2),
        ("codes", ⟨"VALIDATION_UNKNOWN_RULE", "Unknown validation rule 'stock'"⟩)], []⟩) ∧
    run codeSetting (codes (longEnough ++ unfinished)) [.name "codes"] (.list threeCodes) .empty =
      (.error (.rule (.fieldNeeded "equals")), ⟨[("codes[0]", shortCode.2)], []⟩) := by
  have walked := walks_alike_everywhere codeSetting (codes longEnough)
    (code.withRules longEnough) (.list threeCodes) (.list threeCodes) [⟨"stock", []⟩] none []
    [.name "codes"]
  have failing := walks_alike_everywhere codeSetting (codes longEnough)
    (code.withRules (longEnough ++ unfinished)) (.list threeCodes) (.list threeCodes)
    [⟨"stock", []⟩] none [] [.name "codes"]
  refine ⟨?_, ?_, ?_⟩
  · obtain ⟨_, complaints, _, everywhere⟩ := walked.1
    obtain ⟨_, _, atTop, _⟩ := everywhere [.name "codes"] (by simp)
    obtain ⟨_, _, inside, _⟩ := everywhere [.name "orders", .index 2, .name "codes"] (by simp)
    exact ⟨complaints, atTop, inside⟩
  · rw [codes, ((walked.2 rfl).1 threeCodes (by unfold ComeTo; decide +kernel)).1]
    decide +kernel
  · rw [codes, (failing.2 rfl).2 [.text "abc"] (.text "abcde") [.text "ab"] [.text "abc"]
      (.rule (.fieldNeeded "equals")) rfl (by unfold ComeTo; decide +kernel) (by decide +kernel)]
    decide +kernel

end Walk

end RecordCheck
