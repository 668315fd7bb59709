import RecordCheck.Value.Kind

/-!
Where a field stands in a record: names of fields and positions in arrays, written as
`addresses[0].street`. A dotted text names a field inside nested mappings.
-/

namespace RecordCheck

inductive Segment
  | name (name : String)
  | index (position : Int)
  | flag (position : Bool)
deriving DecidableEq

abbrev Path := List Segment

namespace Path

def step : Segment → List Char
  | .name name => '.' :: name.toList
  | .index position => '[' :: (toString position).toList ++ [']']
  | .flag position => '[' :: (if position then "True" else "False").toList ++ [']']

/-- The characters of a path; only a name at the very start goes without its dot. -/
def chars : Path → List Char
  | .name name :: later => name.toList ++ later.flatMap step
  | path => path.flatMap step

def render (path : Path) : String := String.ofList path.chars

end Path

namespace Value

def follow : List String → Value → Value
  | [], value => value
  | name :: later, value =>
      match value.field? name with
      | some child => follow later child
      | none => .absent

def lookup (dotted : String) (record : Value) : Value :=
  follow ((dotted.toList.splitOn '.').map String.ofList) record

end Value

end RecordCheck
