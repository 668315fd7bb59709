import RecordCheck.Proofs.Entries
import RecordCheck.Proofs.Outcome
import RecordCheck.Table

/-!
Tables row by row. Where the labels of the columns can be told apart, the record of a row holds its
cells under their texts, and nothing else. Main statement: a table gets the reports of these records
in their order, or no report because of the first of them that gets none; and the complaints of the
reports are listed once each, under the labels of the rows. It holds for every library of tables that
keeps what is documented about taking a table apart and about missing values.
-/

namespace RecordCheck

namespace Table

/-- A missing cell: null, or a number that is none. -/
inductive Missing : Value → Prop
  | null : Missing .null
  | nan {number : Binary64} : number.isNaN = true → Missing (.float number)

/-- The labels of columns are different keys, so a row that is read as a mapping keeps its cells. -/
def Apart (columns : List Key) : Prop :=
  columns.Pairwise fun left right => left.same right = false

end Table

/-- What is documented about the library: a table comes apart into its rows, with the cells unchanged
and each under the label of its column, and of the values that are no containers null and NaN are the
ones that are missing. About containers nothing is said. -/
structure TableLibrary.Documented (library : TableLibrary) : Prop where
  rowsOf : ∀ table : Table, table.columns ≠ [] → Table.Apart table.columns →
    library.rowsOf table = table.rows.map fun row => table.columns.zip row
  missing : ∀ cell, Table.Missing cell → library.isMissing? cell = some true
  there : ∀ cell : Value, cell.isSequence = false → cell.isMapping = false →
    ¬Table.Missing cell → library.isMissing? cell ≠ some true

namespace Table

theorem labels_sublist (columns : List Key) (row : List Value) :
    ((columns.zip row).map Prod.fst).Sublist columns := by
  induction columns generalizing row with
  | nil => simp
  | cons label rest ih =>
      cases row with
      | nil => exact List.nil_sublist _
      | cons cell others => exact (ih others).cons_cons label

theorem standard_documented : TableLibrary.standard.Documented where
  rowsOf table columned apart := by
    have columns := List.isEmpty_eq_false_iff.mpr columned
    simp only [TableLibrary.standard, columns, Bool.false_eq_true, if_false]
    refine List.map_congr_left fun row _ => ?_
    exact Entries.foldl_put_of_pairwise
      (List.pairwise_map.mp (apart.sublist (labels_sublist table.columns row)))
  missing cell missing := by
    cases missing with
    | null => rfl
    | nan number => exact congrArg some number
  there cell _ _ present missing := by
    cases cell with
    | null => exact present .null
    | float number => exact present (.nan (Option.some.inj missing))
    | _ => cases missing

/-- Keys with different texts are different, unless one of them is a truth value. -/
theorem apart_of_texts {columns : List Key} (texts : (columns.map Key.spelled).Nodup)
    (flagless : ∀ flag, .bool flag ∉ columns) : Apart columns := by
  have named : columns.Pairwise fun left right => left.spelled ≠ right.spelled :=
    List.pairwise_map.mp texts
  refine named.imp_of_mem fun {left right} inLeft inRight differs => ?_
  have unlike : left ≠ right := fun same => differs (congrArg Key.spelled same)
  cases left with
  | bool flag => exact absurd inLeft (flagless flag)
  | int number =>
      cases right with
      | bool flag => exact absurd inRight (flagless flag)
      | int other => simpa [Key.same, Key.integer?] using unlike
      | _ => rfl
  | _ =>
      cases right with
      | bool flag => exact absurd inRight (flagless flag)
      | int other => rfl
      | _ => exact beq_eq_false_iff_ne.mpr unlike

instance : DecidablePred Missing := fun cell =>
  match cell with
  | .null => isTrue .null
  | .float number =>
      decidable_of_iff (number.isNaN = true) ⟨.nan, fun missing => by cases missing; assumption⟩
  | .absent | .bool _ | .int _ | .text _ | .bytes _ | .list _ | .tuple _ | .dict _ =>
      isFalse nofun

/-- The cells that a row has under the labels of the columns, without the missing ones if these are
dropped. -/
def cells (columns : List Key) (dropMissing : Bool) (row : List Value) : List (Key × Value) :=
  (columns.zip row).filter fun cell => ¬(dropMissing = true ∧ Missing cell.2)

def rowRecord (columns : List Key) (dropMissing : Bool) (row : List Value) : Value :=
  .dict ((cells columns dropMissing row).map fun cell => (.text cell.1.spelled, cell.2))

section Rows

variable {library : TableLibrary} (documented : library.Documented)

include documented

theorem isMissing_iff {cell : Value} : isMissing library cell = true ↔ Missing cell := by
  constructor
  · intro missing
    unfold isMissing at missing
    split at missing
    · cases missing
    · rename_i scalar
      simp only [Bool.or_eq_true, not_or, Bool.not_eq_true] at scalar
      by_contra present
      cases asked : library.isMissing? cell with
      | none => simp [asked] at missing
      | some answer =>
          rw [asked, Option.getD_some] at missing
          exact documented.there cell scalar.1 scalar.2 present (missing ▸ asked)
  · intro missing
    have answered := documented.missing cell missing
    cases missing <;> simp [isMissing, Value.isSequence, Value.isMapping, answered]

/-- A missing cell that is dropped might as well not be there, whatever its label. -/
theorem namedCells_of_missing {cell : Value} (missing : Missing cell) (label : Key)
    (first later : List (Key × Value)) :
    namedCells library true (first ++ (label, cell) :: later) =
      namedCells library true (first ++ later) := by
  induction first with
  | nil => simp [namedCells, (isMissing_iff documented).mpr missing]
  | cons entry rest ih => simp only [List.cons_append, namedCells, ih]

theorem namedCells_eq {dropMissing : Bool} {row : List (Key × Value)}
    (written : ∀ cell ∈ row, cell.1.writable = true) :
    namedCells library dropMissing row =
      .ok ((row.filter fun cell => ¬(dropMissing = true ∧ Missing cell.2)).map fun cell =>
        (.text cell.1.spelled, cell.2)) := by
  induction row with
  | nil => rfl
  | cons cell rest ih =>
      obtain ⟨own, later⟩ := List.forall_mem_cons.mp written
      obtain ⟨label, cell⟩ := cell
      rw [namedCells, ih later, List.filter_cons]
      by_cases dropped : dropMissing = true ∧ Missing cell
      · have missing := (isMissing_iff documented).mpr dropped.2
        simp [dropped, missing]
      · have present : (dropMissing && isMissing library cell) = false := by
          rw [← Bool.not_eq_true, Bool.and_eq_true, isMissing_iff documented]
          exact dropped
        simp [dropped, present, Key.name, Whole.ifWritable, own, Except.bind, Except.map]

variable {columns : List Key} (written : ∀ label ∈ columns, label.writable = true)
  (texts : (columns.map Key.spelled).Nodup) {schema : Schema} {registry : Registry}
  {dropMissing : Bool}

include written texts

theorem checkRow_eq (row : List Value) :
    checkRow library schema registry dropMissing (columns.zip row) =
      (schema.check registry (rowRecord columns dropMissing row)).mapError .check := by
  have labels := labels_sublist columns row
  have named : namedCells library dropMissing (columns.zip row) = _ :=
    namedCells_eq documented fun cell member =>
      written cell.1 (labels.subset (List.mem_map_of_mem (f := Prod.fst) member))
  have distinct : (cells columns dropMissing row).Pairwise fun left right =>
      left.1.spelled ≠ right.1.spelled := by
    have all := (List.pairwise_map.mp texts).sublist labels
    exact (List.pairwise_map.mp all).filter _
  have kept : Entries.ofPairs Key.same
      ((cells columns dropMissing row).map fun cell => (Key.text cell.1.spelled, cell.2)) =
        (cells columns dropMissing row).map fun cell => (Key.text cell.1.spelled, cell.2) := by
    refine Entries.foldl_put_of_pairwise (List.pairwise_map.mpr (distinct.imp fun differs => ?_))
    simpa [Key.same, Key.integer?] using differs
  rw [cells] at kept
  rw [checkRow, named, rowRecord, cells]
  simp only [mapError_ok, Except.bind, Value.ofPairs, kept]

theorem checkRows_ok_iff {rows : List (List Value)} {reports : List Report} :
    checkRows library schema registry dropMissing (rows.map fun row => columns.zip row) =
        .ok reports ↔
      List.Forall₂ (fun row report =>
        schema.check registry (rowRecord columns dropMissing row) = .ok report) rows reports := by
  induction rows generalizing reports with
  | nil => cases reports <;> simp [checkRows]
  | cons row rest ih =>
      rw [List.map_cons, checkRows, bind_ok_iff]
      simp only [map_ok_iff, checkRow_eq documented written texts, mapError_ok_iff]
      constructor
      · rintro ⟨report, checked, others, later, rfl⟩
        exact .cons checked (ih.mp later)
      · rintro (_ | ⟨checked, later⟩)
        exact ⟨_, checked, _, ih.mpr later, rfl⟩

theorem checkRows_error_iff {rows : List (List Value)} {error : TableError} :
    checkRows library schema registry dropMissing (rows.map fun row => columns.zip row) =
        .error error ↔
      ∃ before row after cause, rows = before ++ row :: after ∧
        (∀ earlier ∈ before,
          Returns (schema.check registry (rowRecord columns dropMissing earlier))) ∧
        schema.check registry (rowRecord columns dropMissing row) = .error cause ∧
        error = .check cause := by
  induction rows with
  | nil => simp [checkRows]
  | cons row rest ih =>
      rw [List.map_cons, checkRows, bind_error_iff]
      simp only [map_error_iff, ih, checkRow_eq documented written texts, mapError_ok_iff,
        mapError_error_iff]
      constructor
      · rintro (⟨cause, failed, rfl⟩ |
          ⟨report, checked, before, next, after, cause, rfl, returned, failed, rfl⟩)
        · exact ⟨[], row, rest, cause, rfl, by simp, failed, rfl⟩
        · refine ⟨row :: before, next, after, cause, rfl, ?_, failed, rfl⟩
          exact List.forall_mem_cons.mpr ⟨⟨report, checked⟩, returned⟩
      · rintro ⟨before, next, after, cause, split, returned, failed, rfl⟩
        cases before with
        | nil =>
            cases split
            exact Or.inl ⟨cause, failed, rfl⟩
        | cons first others =>
            cases split
            obtain ⟨⟨report, checked⟩, returned⟩ := List.forall_mem_cons.mp returned
            exact Or.inr ⟨report, checked, others, next, after, cause, rfl, returned, failed, rfl⟩

end Rows

section Labels

variable {labels : Option (List Key)}

def Labelled (labels : Option (List Key)) (position : Nat) : Prop :=
  ∀ given ∈ labels, position < given.length

/-- The label of the row at a position, and a spare one where there is none. -/
def labelOf (labels : Option (List Key)) (spare : Key) (position : Nat) : Key :=
  match labels with
  | none => .int position
  | some given => given.getD position spare

def listed (label : Key) (report : Report) : List TableComplaint :=
  report.complaints.map fun entry => ⟨label, entry.1, entry.2⟩

theorem not_labelled_iff {position : Nat} : ¬Labelled labels position ↔
    ∃ given, labels = some given ∧ given.length ≤ position := by
  simp [Labelled]

theorem labelAt_of_labelled {position : Nat} (labelled : Labelled labels position) (spare : Key) :
    labelAt labels position = .ok (labelOf labels spare position) := by
  cases labels with
  | none => rfl
  | some given =>
      have inside : position < given.length := labelled given rfl
      simp [labelAt, labelOf, inside]

theorem labelAt_of_not_labelled {position : Nat} (unlabelled : ¬Labelled labels position) :
    labelAt labels position = .error (.noLabel position) := by
  obtain ⟨given, rfl, outside⟩ := not_labelled_iff.mp unlabelled
  simp [labelAt, outside]

theorem complaintsFrom_cons_of_complaints {position : Nat} {report : Report} {rest : List Report}
    (complained : report.complaints ≠ []) :
    complaintsFrom labels position (report :: rest) =
      (labelAt labels position).bind fun label =>
        (complaintsFrom labels (position + 1) rest).map (listed label report ++ ·) := by
  simp [complaintsFrom, Report.success, complained, listed]

theorem complaintsFrom_cons_of_silent {position : Nat} {report : Report} {rest : List Report}
    (silent : report.complaints = []) :
    complaintsFrom labels position (report :: rest) =
      complaintsFrom labels (position + 1) rest := by
  simp [complaintsFrom, Report.success, silent]

theorem complaintsFrom_of_labelled {position : Nat} {reports : List Report}
    (labelled : ∀ entry ∈ reports.zipIdx position, entry.1.complaints ≠ [] →
      Labelled labels entry.2) (spare : Key) :
    complaintsFrom labels position reports =
      .ok ((reports.zipIdx position).flatMap fun entry =>
        listed (labelOf labels spare entry.2) entry.1) := by
  induction reports generalizing position with
  | nil => rfl
  | cons report rest ih =>
      obtain ⟨own, later⟩ := List.forall_mem_cons.mp labelled
      rw [List.zipIdx_cons, List.flatMap_cons]
      by_cases silent : report.complaints = []
      · rw [complaintsFrom_cons_of_silent silent, ih later]
        simp [listed, silent]
      · rw [complaintsFrom_cons_of_complaints silent, labelAt_of_labelled (own silent) spare,
          ih later]
        rfl

theorem complaintsFrom_of_not_labelled {position : Nat} {reports : List Report}
    {entry : Report × Nat} (member : entry ∈ reports.zipIdx position)
    (complained : entry.1.complaints ≠ []) (unlabelled : ¬Labelled labels entry.2) :
    ∃ error, complaintsFrom labels position reports = .error error := by
  induction reports generalizing position with
  | nil => cases member
  | cons report rest ih =>
      rcases List.mem_cons.mp member with rfl | later
      · rw [complaintsFrom_cons_of_complaints complained, labelAt_of_not_labelled unlabelled]
        exact ⟨_, rfl⟩
      · obtain ⟨error, failed⟩ := ih later
        by_cases silent : report.complaints = []
        · rw [complaintsFrom_cons_of_silent silent]
          exact ⟨error, failed⟩
        · rw [complaintsFrom_cons_of_complaints silent]
          cases labelAt labels position with
          | error other => exact ⟨other, rfl⟩
          | ok label =>
              rw [failed]
              exact ⟨error, rfl⟩

theorem complaintsFrom_error_iff {position : Nat} {reports : List Report} :
    (∃ error, complaintsFrom labels position reports = .error error) ↔
      ∃ entry ∈ reports.zipIdx position, entry.1.complaints ≠ [] ∧ ¬Labelled labels entry.2 := by
  constructor
  · rintro ⟨error, failed⟩
    by_contra none
    have labelled : ∀ entry ∈ reports.zipIdx position, entry.1.complaints ≠ [] →
        Labelled labels entry.2 := fun entry member complained => by
      by_contra unlabelled
      exact none ⟨entry, member, complained, unlabelled⟩
    rw [complaintsFrom_of_labelled labelled .null] at failed
    cases failed
  · rintro ⟨entry, member, complained, unlabelled⟩
    exact complaintsFrom_of_not_labelled member complained unlabelled

end Labels

/-- A table whose labels have texts and can be told apart gets one report for each row, that of the
record of the row, or no report at all because of the first row whose record gets none. A row with a
missing cell is checked as if its column were not there, where missing cells are dropped. The
complaints of reports are listed in the order of the reports and then of each report, under the
positions or the labels that are given; there is no list just if labels are given and some report with
complaints stands at a position for which there is none. -/
theorem tables_are_checked_by_row (library : TableLibrary) (documented : library.Documented)
    (schema : Schema) (registry : Registry) (table : Table) (dropMissing : Bool)
    (columned : table.columns ≠ []) (written : ∀ label ∈ table.columns, label.writable = true)
    (texts : (table.columns.map Key.spelled).Nodup) (apart : Apart table.columns) :
    (∀ reports, check library schema registry dropMissing (.table table) = .ok reports ↔
      List.Forall₂ (fun row report =>
        schema.check registry (rowRecord table.columns dropMissing row) = .ok report)
        table.rows reports) ∧
    (∀ error, check library schema registry dropMissing (.table table) = .error error ↔
      ∃ before row after cause, table.rows = before ++ row :: after ∧
        (∀ earlier ∈ before,
          Returns (schema.check registry (rowRecord table.columns dropMissing earlier))) ∧
        schema.check registry (rowRecord table.columns dropMissing row) = .error cause ∧
        error = .check cause) ∧
    (∀ front label back left cell right, table.columns = front ++ label :: back →
      left.length = front.length → Missing cell →
        checkRow library schema registry true (table.columns.zip (left ++ cell :: right)) =
          checkRow library schema registry true ((front ++ back).zip (left ++ right))) ∧
    ∀ (labels : Option (List Key)) (reports : List Report),
      (∀ spare, (∀ entry ∈ reports.zipIdx, entry.1.complaints ≠ [] → Labelled labels entry.2) →
        complaints labels reports = .ok (reports.zipIdx.flatMap fun entry =>
          listed (labelOf labels spare entry.2) entry.1)) ∧
      ((∃ error, complaints labels reports = .error error) ↔
        ∃ entry ∈ reports.zipIdx, entry.1.complaints ≠ [] ∧
          ∃ given, labels = some given ∧ given.length ≤ entry.2) := by
  have rows := documented.rowsOf table columned apart
  refine ⟨fun reports => ?_, fun error => ?_, ?_, fun labels reports => ⟨?_, ?_⟩⟩
  · rw [check, rows]
    exact checkRows_ok_iff documented written texts
  · rw [check, rows]
    exact checkRows_error_iff documented written texts
  · rintro front label back left cell right split aligned missing
    rw [split, List.zip_append aligned.symm, List.zip_append aligned.symm, List.zip_cons_cons,
      checkRow, namedCells_of_missing documented missing, ← checkRow]
  · exact fun spare labelled => complaintsFrom_of_labelled labelled spare
  · simp only [← not_labelled_iff]
    exact complaintsFrom_error_iff

def peopleSchema : Schema where
  mode := .strict
  cast := false
  members := [("name", ⟨.scalar .string, [⟨"required", []⟩], none, []⟩),
    ("7", ⟨.scalar .integer, [], none, []⟩)]
  extras := []

def people : Table where
  columns := [.text "name", .int 7]
  rows := [[.text "Ann", .int 1], [.null, .float .nan], [.text "Bo", .text "two"]]

def nameless : Complaint := ⟨"VALIDATION_FAILED_REQUIRED", "Value is required"⟩

def noInteger : Complaint := ⟨"VALIDATION_ERROR_NOT_INTEGER", "Value is not an integer"⟩

def peopleReports : List Report :=
  [⟨[(.text "name", .text "Ann"), (.text "7", .int 1)], []⟩, ⟨[], [("name", nameless)]⟩,
    ⟨[(.text "name", .text "Bo"), (.text "7", .text "two")], [("7", noInteger)]⟩]

/-- A table with a column that is not declared. Its first row has nothing there. -/
def aged : Table where
  columns := [.text "name", .text "age"]
  rows := [[.text "Ann", .null], [.text "Bo", .int 30], [.null, .int 40]]

/-- The first of three people is in order, so the list begins with the label of the second, and one
label is not enough. With ages there are no reports, since the second row holds one. -/
theorem people_are_checked_by_row :
    TableLibrary.standard.Documented ∧
    check .standard peopleSchema Standard.registry true (.table people) = .ok peopleReports ∧
    complaints (some [.text "a", .text "b", .text "c"]) peopleReports =
      .ok [⟨.text "b", "name", nameless⟩, ⟨.text "c", "7", noInteger⟩] ∧
    (∃ error, complaints (some [.text "a"]) peopleReports = .error error) ∧
    check .standard peopleSchema Standard.registry true (.table aged) =
      .error (.check (.orphans [[.name "age"]])) := by
  have byRow := tables_are_checked_by_row .standard standard_documented peopleSchema
    Standard.registry people true (by decide) (by decide) (by decide)
    (apart_of_texts (by decide) (by decide))
  have agedByRow := tables_are_checked_by_row .standard standard_documented peopleSchema
    Standard.registry aged true (by decide) (by decide) (by decide)
    (apart_of_texts (by decide) (by decide))
  refine ⟨standard_documented, (byRow.1 peopleReports).mpr ?_, ?_, ?_, ?_⟩
  · refine .cons ?_ (.cons ?_ (.cons ?_ .nil)) <;> decide +kernel
  · rw [(byRow.2.2.2 _ _).1 .null]
    · decide +kernel
    · rintro entry member _ _ ⟨⟩
      exact List.snd_lt_of_mem_zipIdx member
  · exact (byRow.2.2.2 _ _).2.mpr
      ⟨(⟨[], [("name", nameless)]⟩, 1), by decide, by decide, _, rfl, by decide⟩
  · refine (agedByRow.2.1 _).mpr ⟨[[.text "Ann", .null]], [.text "Bo", .int 30],
      [[.null, .int 40]], _, rfl, ?_, by decide +kernel, rfl⟩
    rw [List.forall_mem_singleton]
    exact ⟨⟨[(.text "name", .text "Ann")], []⟩, by decide +kernel⟩

end Table

end RecordCheck
