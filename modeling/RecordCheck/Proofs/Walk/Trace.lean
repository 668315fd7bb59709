import RecordCheck.Proofs.Outcome
import RecordCheck.Proofs.Schema.Tree
import RecordCheck.Report

/-!
Walks that are watched. A trace of a walk keeps what was found also where the walk comes to no end,
and a ledger is what complaints and undeclared fields are written into on the way. Main statement:
what a walk gives is its trace, if that comes to an end.
-/

namespace RecordCheck

/-- The findings written down so far: for each path as it is written the first complaint. -/
structure Ledger where
  complaints : List (String × Complaint)
  orphans : List Path
deriving DecidableEq

namespace Ledger

/-- Writes a complaint down, unless there is one at its path already. -/
def note (known : List (String × Complaint)) (entry : Path × Complaint) :
    List (String × Complaint) :=
  if (known.lookup entry.1.render).isSome then known
  else known ++ [(entry.1.render, entry.2)]

def record (ledger : Ledger) (found : Findings) : Ledger :=
  ⟨found.complaints.foldl note ledger.complaints, ledger.orphans ++ found.orphans⟩

theorem note_foldl (known : List (String × Complaint)) (entries : List (Path × Complaint)) :
    entries.foldl note known = known ++
      (Entries.firsts (entries.map fun entry => (entry.1.render, entry.2))).filter
        fun entry => !(known.lookup entry.1).isSome := by
  induction entries generalizing known with
  | nil => simp [Entries.firsts]
  | cons entry rest ih =>
      rw [List.foldl_cons, ih, List.map_cons, Entries.firsts, note]
      cases there : (known.lookup entry.1.render).isSome with
      | true =>
          rw [if_pos rfl, List.filter_cons, there, List.filter_filter]
          congr 1
          -- entries at a path that is known are left out anyway
          refine List.filter_congr fun other _ => ?_
          by_cases same : other.1 = entry.1.render
          · simp [same, there]
          · simp [same]
      | false =>
          rw [if_neg Bool.false_ne_true, List.filter_cons, there, Bool.not_false, if_pos rfl,
            List.filter_filter, List.append_assoc, List.singleton_append]
          congr 2
          -- and those at the path of this entry come too late
          refine List.filter_congr fun other _ => ?_
          by_cases same : other.1 = entry.1.render
          · simp [same, List.lookup_append]
          · have differs : (other.1 == entry.1.render) = false := by simpa using same
            simp [same, List.lookup_append, List.lookup_cons, differs]

theorem record_empty (data : List (Key × Value)) (found : Findings) :
    Ledger.record ⟨[], []⟩ found =
      ⟨(Report.ofFindings data found).complaints, found.orphans⟩ := by
  rw [record, note_foldl]
  simp [Report.ofFindings]

end Ledger

namespace Walk

structure Trace (value : Type) where
  outcome : Except WalkError value
  found : Findings

namespace Trace

variable {first second : Type}

def ofStep : Step first → Trace first
  | .ok (value, found) => ⟨.ok value, found⟩
  | .error error => ⟨.error error, .none⟩

/-- One walk after another; the second starts only if the first comes to an end. -/
def andThen (trace : Trace first) (next : first → Trace second) : Trace second :=
  match trace.outcome with
  | .ok value => ⟨(next value).outcome, trace.found ++ (next value).found⟩
  | .error error => ⟨.error error, trace.found⟩

def map (change : first → second) (trace : Trace first) : Trace second :=
  ⟨trace.outcome.map change, trace.found⟩

/-- A walk after which rules are asked about what it came to. -/
def asking (trace : Trace first) (ask : first → Except WalkError Findings) : Trace first :=
  trace.andThen fun result => .ofStep ((ask result).map (result, ·))

/-- What is left of a trace in the result of a walk: nothing of it where there is no end. -/
def step (trace : Trace first) : Step first :=
  trace.outcome.map fun value => (value, trace.found)

@[simp] theorem step_ofStep (step : Step first) : (ofStep step).step = step := by
  cases step <;> rfl

theorem step_andThen (trace : Trace first) (next : first → Trace second) :
    (trace.andThen next).step = trace.step.bind fun (value, found) =>
      (next value).step.map fun (result, later) => (result, found ++ later) := by
  obtain ⟨outcome, found⟩ := trace
  cases outcome with
  | error error => rfl
  | ok value =>
      simp only [andThen, step, Except.map, Except.bind]
      cases (next value).outcome <;> rfl

theorem step_map (change : first → second) (trace : Trace first) :
    (trace.map change).step = trace.step.map fun (value, found) => (change value, found) := by
  obtain ⟨outcome, found⟩ := trace
  cases outcome <;> rfl

theorem step_asking (trace : Trace first) (ask : first → Except WalkError Findings) :
    (trace.asking ask).step = trace.step.bind fun (result, found) =>
      (ask result).map fun later => (result, found ++ later) := by
  rw [asking, step_andThen]
  simp only [step_ofStep]
  congr 1
  funext ⟨result, found⟩
  cases ask result <;> rfl

end Trace

def traceItems (traceItem : Path → Value → Trace Value) (path : Path) :
    Nat → List Value → Trace (List Value)
  | _, [] => .ofStep (.ok ([], .none))
  | position, item :: rest =>
      (traceItem (path ++ [.index position]) item).andThen fun value =>
        (traceItems traceItem path (position + 1) rest).map (value :: ·)

/-- The paths of keys are found one after the other, up to a key that has no name. -/
def tracePaths (path : Path) : List Key → Trace Unit
  | [] => .ofStep (.ok ((), .none))
  | key :: rest =>
      (Trace.ofStep ((key.name.mapError .integer).map fun name =>
        ((), ⟨[], [path ++ [.name name]]⟩))).andThen fun _ => tracePaths path rest

def traceForbidden (setting : Setting) (members : List (String × Property))
    (entries : List (Key × Value)) (path : Path) : Trace Unit :=
  match setting.mode with
  | .strict => tracePaths path ((undeclared members entries).map Prod.fst)
  | _ => .ofStep (.ok ((), .none))

mutual

def trace (setting : Setting) (property : Property) (path : Path) (value : Value) : Trace Value :=
  match property with
  | ⟨shape, rules, fallback, _⟩ =>
      if value = .absent then
        match fallback with
        | some default => .ofStep (.ok (default, .none))
        | none =>
            (traceAbsent setting shape path).asking fun _ => applyMissingRules setting path rules
      else
        match castLeaf setting shape.type value with
        | .error error => .ofStep (.error error)
        | .ok none => .ofStep (.ok (value, .wrongType path shape.type))
        | .ok (some value) =>
            if !shape.type.admits value then .ofStep (.ok (value, .wrongType path shape.type))
            else
              (traceInside setting shape path value).asking fun result =>
                applyRules setting result path rules

def traceAbsent (setting : Setting) (shape : Shape Property) (path : Path) : Trace Value :=
  match shape with
  | .object (some members) =>
      (traceMembers setting members path []).map fun entries =>
        if entries.isEmpty then .absent else .dict entries
  | _ => .ofStep (.ok (.absent, .none))

def traceInside (setting : Setting) (shape : Shape Property) (path : Path) (value : Value) :
    Trace Value :=
  match shape with
  | .scalar _ => .ofStep (.ok (value, .none))
  | .array none => .ofStep (.ok (.list (itemsOf value), .none))
  | .array (some item) =>
      (traceItems (trace setting item) path 0 (itemsOf value)).map .list
  | .object none => .ofStep (.ok (value, .none))
  | .object (some members) =>
      (traceMembers setting members path (entriesOf value)).andThen fun entries =>
        (traceForbidden setting members (entriesOf value) path).map fun _ =>
          .dict (entries ++ kept setting members (entriesOf value))

def traceMembers (setting : Setting) (members : List (String × Property)) (path : Path)
    (entries : List (Key × Value)) : Trace (List (Key × Value)) :=
  match members with
  | [] => .ofStep (.ok ([], .none))
  | (name, property) :: rest =>
      (trace setting property (path ++ [.name name]) (fieldValue name entries)).andThen
        fun value => (traceMembers setting rest path entries).map (placed name value)

end

section Erasure

variable {setting : Setting}

abbrev Traced (setting : Setting) (property : Property) : Prop :=
  ∀ path value, (trace setting property path value).step = visit setting property path value

theorem traceItems_step {item : Property} (traced : Traced setting item) (path : Path)
    (position : Nat) (items : List Value) :
    (traceItems (trace setting item) path position items).step =
      visitItems (visit setting item) path position items := by
  induction items generalizing position with
  | nil => rfl
  | cons first rest ih =>
      simp only [traceItems, visitItems, Trace.step_andThen, Trace.step_map, traced, ih]
      cases visitItems (visit setting item) path (position + 1) rest <;> rfl

theorem traceMembers_step {members : List (String × Property)}
    (traced : ∀ member ∈ members, Traced setting member.2) (path : Path)
    (entries : List (Key × Value)) :
    (traceMembers setting members path entries).step =
      visitMembers setting members path entries := by
  induction members with
  | nil => simp only [traceMembers, visitMembers, Trace.step_ofStep]
  | cons first rest ih =>
      obtain ⟨name, property⟩ := first
      have own := traced (name, property) List.mem_cons_self
      have later := ih fun member inside => traced member (List.mem_cons_of_mem _ inside)
      simp only [traceMembers, visitMembers, Trace.step_andThen, Trace.step_map, own _ _, later]
      cases visitMembers setting rest path entries <;> rfl

theorem tracePaths_step (path : Path) (keys : List Key) :
    (tracePaths path keys).step =
      ((pathsOf path keys).mapError .integer).map fun paths => ((), ⟨[], paths⟩) := by
  induction keys with
  | nil => rfl
  | cons key rest ih =>
      rw [tracePaths, pathsOf, Trace.step_andThen]
      simp only [Trace.step_ofStep, ih]
      cases key.name with
      | error fault => rfl
      | ok name => cases pathsOf path rest <;> rfl

theorem traceForbidden_step (members : List (String × Property)) (entries : List (Key × Value))
    (path : Path) : (traceForbidden setting members entries path).step =
      (forbidden setting members entries path).map fun found => ((), found) := by
  obtain ⟨mode, cast, registry, record⟩ := setting
  cases mode with
  | strict =>
      simp only [traceForbidden, forbidden, tracePaths_step]
      cases pathsOf path ((undeclared members entries).map Prod.fst) <;> rfl
  | loose => rfl
  | filter => rfl

theorem traceAbsent_step {shape : Shape Property}
    (traced : ∀ child ∈ shape.children, Traced setting child) (path : Path) :
    (traceAbsent setting shape path).step = visitAbsent setting shape path := by
  rcases shape with type | (_ | members) | (_ | item)
  · simp only [traceAbsent, visitAbsent, Trace.step_ofStep]
  · simp only [traceAbsent, visitAbsent, Trace.step_ofStep]
  · have declared : ∀ member ∈ members, Traced setting member.2 := fun member inside =>
      traced member.2 (List.mem_map_of_mem inside)
    have each := traceMembers_step declared path []
    simp only [traceAbsent, visitAbsent, Trace.step_map, each]
  · simp only [traceAbsent, visitAbsent, Trace.step_ofStep]
  · simp only [traceAbsent, visitAbsent, Trace.step_ofStep]

theorem traceInside_step {shape : Shape Property}
    (traced : ∀ child ∈ shape.children, Traced setting child) (path : Path) (value : Value) :
    (traceInside setting shape path value).step = visitInside setting shape path value := by
  rcases shape with type | (_ | members) | (_ | item)
  · simp only [traceInside, visitInside, Trace.step_ofStep]
  · simp only [traceInside, visitInside, Trace.step_ofStep]
  · have declared : ∀ member ∈ members, Traced setting member.2 := fun member inside =>
      traced member.2 (List.mem_map_of_mem inside)
    have each := traceMembers_step declared path (entriesOf value)
    simp only [traceInside, visitInside, Trace.step_andThen, Trace.step_map, traceForbidden_step,
      each]
    cases visitMembers setting members path (entriesOf value) with
    | error error => rfl
    | ok walked => cases forbidden setting members (entriesOf value) path <;> rfl
  · simp only [traceInside, visitInside, Trace.step_ofStep]
  · have each := traceItems_step (traced item (by simp)) path 0 (itemsOf value)
    simp only [traceInside, visitInside, Trace.step_map, each]

theorem trace_step (property : Property) : Traced setting property := by
  induction property with
  | node shape rules fallback extras ih =>
      intro path value
      by_cases absent : value = .absent
      · subst absent
        cases fallback with
        | some default => simp [trace, visit]
        | none =>
            simp only [trace, visit, if_true, Trace.step_asking, traceAbsent_step ih]
      · simp only [trace, visit, absent, if_false]
        cases castLeaf setting shape.type value with
        | error error => rfl
        | ok outcome =>
            cases outcome with
            | none => rfl
            | some result =>
                by_cases admitted : shape.type.admits result = true
                · have unfit : (!shape.type.admits result) = false := by simp [admitted]
                  simp only [unfit, Bool.false_eq_true, if_false, Except.bind, Trace.step_asking,
                    traceInside_step ih]
                · simp [admitted, Except.bind]

end Erasure

/-- A walk that writes into a ledger: what it came to, and the ledger then. -/
def run (setting : Setting) (property : Property) (path : Path) (value : Value) (ledger : Ledger) :
    Except WalkError Value × Ledger :=
  ((trace setting property path value).outcome,
    ledger.record (trace setting property path value).found)

theorem run_of_visit {setting : Setting} {property : Property} {path : Path} {value result : Value}
    {found : Findings} (visited : visit setting property path value = .ok (result, found))
    (ledger : Ledger) :
    run setting property path value ledger = (.ok result, ledger.record found) := by
  rw [← trace_step, Trace.step] at visited
  obtain ⟨_, ended, same⟩ := map_ok_iff.mp visited
  cases same
  rw [run, ended]

theorem run_of_failure {setting : Setting} {property : Property} {path : Path} {value : Value}
    {error : WalkError} (failed : visit setting property path value = .error error)
    (ledger : Ledger) : (run setting property path value ledger).1 = .error error := by
  rw [← trace_step, Trace.step, map_error_iff] at failed
  exact failed

end Walk

end RecordCheck
