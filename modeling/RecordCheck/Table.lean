import RecordCheck.Report

/-!
Tables checked row by row. A row is the record of its cells under the texts of the column labels;
missing cells can be left out. The complaints of all rows are listed under the rows' labels. The
library that holds tables is a parameter: it takes a table apart into rows, and it says which values
count as missing.
-/

namespace RecordCheck

structure Table where
  columns : List Key
  rows : List (List Value)

/-- The library that holds tables. It need not answer whether a value is missing. -/
structure TableLibrary where
  rowsOf : Table → List (List (Key × Value))
  isMissing? : Value → Option Bool

/-- A row holds its cells under the labels of the columns; null and NaN are missing. -/
def TableLibrary.standard : TableLibrary where
  rowsOf table :=
    if table.columns.isEmpty then []
    else table.rows.map fun row => Entries.ofPairs Key.same (table.columns.zip row)
  isMissing?
    | .null => some true
    | .float number => some number.isNaN
    | _ => some false

inductive TableInput
  | table (table : Table)
  | other (value : Value)

inductive TableError
  | notTable (kind : String)
  | check (error : CheckError)
  | integer (fault : Whole.Fault)
deriving DecidableEq

namespace TableError

def message : TableError → String
  | notTable kind => "Unsupported type for validate_frame: " ++ kind
  | check error => error.message
  | integer fault => fault.message

end TableError

structure TableComplaint where
  label : Key
  path : String
  complaint : Complaint
deriving DecidableEq

inductive LabelError
  | noLabel (position : Nat)
deriving DecidableEq

namespace Table

/-- Whether the library says that a cell is missing; a container is not asked about. -/
def isMissing (library : TableLibrary) (cell : Value) : Bool :=
  if cell.isSequence || cell.isMapping then false else (library.isMissing? cell).getD false

/-- The cells of a row under the texts of their labels. The label of a cell that is left out need
not have a text. -/
def namedCells (library : TableLibrary) (dropMissing : Bool) :
    List (Key × Value) → Except Whole.Fault (List (Key × Value))
  | [] => .ok []
  | (label, cell) :: rest =>
      if dropMissing && isMissing library cell then namedCells library dropMissing rest
      else
        label.name.bind fun name =>
          (namedCells library dropMissing rest).map ((.text name, cell) :: ·)

def checkRow (library : TableLibrary) (schema : Schema) (registry : Registry) (dropMissing : Bool)
    (row : List (Key × Value)) : Except TableError Report :=
  ((namedCells library dropMissing row).mapError .integer).bind fun entries =>
    (schema.check registry (.ofPairs entries)).mapError .check

def checkRows (library : TableLibrary) (schema : Schema) (registry : Registry)
    (dropMissing : Bool) : List (List (Key × Value)) → Except TableError (List Report)
  | [] => .ok []
  | row :: rest =>
      (checkRow library schema registry dropMissing row).bind fun report =>
        (checkRows library schema registry dropMissing rest).map (report :: ·)

def check (library : TableLibrary) (schema : Schema) (registry : Registry) (dropMissing : Bool) :
    TableInput → Except TableError (List Report)
  | .table table => checkRows library schema registry dropMissing (library.rowsOf table)
  | .other value => .error (.notTable value.kindName)

def labelAt (labels : Option (List Key)) (position : Nat) : Except LabelError Key :=
  match labels with
  | none => .ok (.int position)
  | some given =>
      match given[position]? with
      | some label => .ok label
      | none => .error (.noLabel position)

/-- The complaints of the reports from a position on, each under its row's label. A report without
complaints needs no label. -/
def complaintsFrom (labels : Option (List Key)) :
    Nat → List Report → Except LabelError (List TableComplaint)
  | _, [] => .ok []
  | position, report :: rest =>
      if report.success then complaintsFrom labels (position + 1) rest
      else
        (labelAt labels position).bind fun label =>
          (complaintsFrom labels (position + 1) rest).map fun later =>
            (report.complaints.map fun (path, complaint) => ⟨label, path, complaint⟩) ++ later

def complaints (labels : Option (List Key)) (reports : List Report) :
    Except LabelError (List TableComplaint) :=
  complaintsFrom labels 0 reports

end Table

end RecordCheck
