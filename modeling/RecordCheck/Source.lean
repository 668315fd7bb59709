import RecordCheck.Json.Reader
import RecordCheck.Report

/-!
Schemas kept in files. A file is a JSON document in UTF-8 whose value is a mapping.
-/

namespace RecordCheck

inductive SourceError
  | notFound
  | notUtf8
  | notJson
  | badInteger (fault : Whole.Fault)
  | notMapping (kind : String)
deriving DecidableEq

namespace SourceError

def message (path : String) : SourceError → String
  | notFound => "Schema not found: " ++ path
  | notUtf8 => "Schema in " ++ path ++ " is not UTF-8"
  | notJson => "Invalid JSON in " ++ path
  | badInteger fault => fault.message
  | notMapping kind => "Schema in " ++ path ++ " must be a JSON object, got " ++ kind

end SourceError

namespace Source

def ofText (content : String) : Except SourceError Value :=
  match Json.read content.toList with
  | .error .malformed => .error .notJson
  | .error (.integer fault) => .error (.badInteger fault)
  | .ok (.dict entries) => .ok (.dict entries)
  | .ok value => .error (.notMapping value.kindName)

/-- The authored schema in the bytes of a file; `none` stands for a file that is not there. -/
def load (file : Option ByteArray) : Except SourceError Value :=
  match file with
  | none => .error .notFound
  | some bytes =>
      match String.fromUTF8? bytes with
      | none => .error .notUtf8
      | some content => ofText content

end Source

end RecordCheck
