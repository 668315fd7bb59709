import RecordCheck.Number.Notation
import RecordCheck.Number.Whole
import RecordCheck.Value.Kind

/-!
Values as text. `literal` is the form inside messages, with texts quoted; `display` leaves a text
bare; `scalarText` is the form that scalars take when they are compared with arguments or cast. None
of them is there for a value that holds an integer with too many digits. How a value is written and
whether it can be written are kept apart: the one fault there is does not depend on where it arises.
-/

namespace RecordCheck

namespace Key

def written : Key → String
  | text name => Text.quoted name
  | int integer => toString integer
  | bool flag => if flag then "True" else "False"
  | null => "None"

def writable : Key → Bool
  | int integer => Whole.writable integer
  | _ => true

def spelled : Key → String
  | text name => name
  | key => key.written

def name (key : Key) : Except Whole.Fault String := Whole.ifWritable key.writable key.spelled

end Key

namespace Value

def plainWords : SpecialWords := ⟨"nan", "inf"⟩

/-- Texts between round brackets, where a single one keeps a comma. -/
def bracketed : List String → String
  | [only] => "(" ++ only ++ ",)"
  | items => "(" ++ ", ".intercalate items ++ ")"

variable {Part : Type} [Shown Part]

mutual

def written : Value Part → String
  | .null => "None"
  | .absent => "MISSING"
  | .bool flag => if flag then "True" else "False"
  | .int integer => toString integer
  | .float number => number.text plainWords
  | .text content => Text.quoted content
  | .bytes content => Text.quotedBytes content
  | .list items => "[" ++ ", ".intercalate (writtenItems items) ++ "]"
  | .tuple items => bracketed (writtenItems items)
  | .dict entries => "\x7b" ++ ", ".intercalate (writtenEntries entries) ++ "\x7d"
  | .part content => Shown.written content

def writtenItems : List (Value Part) → List String
  | [] => []
  | item :: rest => written item :: writtenItems rest

def writtenEntries : List (Key × Value Part) → List String
  | [] => []
  | (key, item) :: rest => (key.written ++ ": " ++ written item) :: writtenEntries rest

end

mutual

def writable : Value Part → Bool
  | .int integer => Whole.writable integer
  | .list items | .tuple items => writableItems items
  | .dict entries => writableEntries entries
  | .part content => Shown.writable content
  | _ => true

def writableItems : List (Value Part) → Bool
  | [] => true
  | item :: rest => writable item && writableItems rest

def writableEntries : List (Key × Value Part) → Bool
  | [] => true
  | (key, item) :: rest => key.writable && writable item && writableEntries rest

end

def spelled : Value Part → String
  | .text content => content
  | value => value.written

/-- A value as it is written, where truth values and null take their small letters. -/
def spelledScalar : Value Part → String
  | .bool flag => if flag then "true" else "false"
  | .null => "null"
  | value => value.spelled

def literal (value : Value Part) : Except Whole.Fault String :=
  Whole.ifWritable value.writable value.written

def display (value : Value Part) : Except Whole.Fault String :=
  Whole.ifWritable value.writable value.spelled

def scalarText (value : Value Part) : Except Whole.Fault String :=
  Whole.ifWritable value.writable value.spelledScalar

end Value

end RecordCheck
