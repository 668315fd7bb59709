import RecordCheck.Rule.Standard
import RecordCheck.Schema.Compile
import RecordCheck.Walk

/-!
Checking a record against a schema. The report holds the normalised record and at most one complaint
for each path as it is written; a record with undeclared fields is refused in strict mode.
-/

namespace RecordCheck

structure Report where
  data : List (Key × Value)
  complaints : List (String × Complaint)
deriving DecidableEq

inductive CheckError
  | schema (error : SchemaError)
  | notMapping (kind : String)
  | orphans (paths : List Path)
  | walk (error : WalkError)
deriving DecidableEq

namespace WalkError

def message : WalkError → String
  | rule error => error.message
  | unreadable text => (CastError.unreadable text).message
  | integer fault => fault.message

end WalkError

namespace CheckError

def message : CheckError → String
  | schema error => error.message
  | notMapping kind => "Unsupported type for validate: " ++ kind
  | orphans paths =>
      "Properties not in schema are not allowed in strict mode: " ++
        ", ".intercalate (paths.map Path.render)
  | walk error => error.message

end CheckError

namespace Report

def success (report : Report) : Bool := report.complaints.isEmpty

def ofFindings (data : List (Key × Value)) (found : Findings) : Report :=
  ⟨data, Entries.firsts (found.complaints.map fun (path, complaint) => (path.render, complaint))⟩

end Report

namespace Schema

def setting (schema : Schema) (registry : Registry) (record : Value) : Setting :=
  ⟨schema.mode, schema.cast, registry, record⟩

def check (schema : Schema) (registry : Registry) (record : Value) : Except CheckError Report :=
  if !record.isMapping then .error (.notMapping record.kindName)
  else
    match Walk.visitInside (schema.setting registry record) (.object (some schema.members)) []
        record with
    | .error error => .error (.walk error)
    | .ok (data, found) =>
        if found.orphans.isEmpty then .ok (.ofFindings (Walk.entriesOf data) found)
        else .error (.orphans found.orphans)

end Schema

def checkRecord (schema : Draft) (registry : Registry) (record : Value) :
    Except CheckError Report :=
  ((Draft.compile schema).mapError .schema).bind fun compiled => compiled.check registry record

end RecordCheck
