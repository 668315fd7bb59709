import RecordCheck.Entries
import RecordCheck.Number.Binary64

/-!
The values that records, schemas and rule arguments are made of. A value may hold parts of another
kind at its leaves; plain data holds none.
-/

namespace RecordCheck

inductive Key
  | text (name : String)
  | int (integer : Int)
  | bool (flag : Bool)
  | null
deriving DecidableEq

/-- A value whose leaves may be parts of type `Part`. `absent` marks a field that is not there. -/
inductive Value (Part : Type := Empty)
  | null
  | absent
  | bool (flag : Bool)
  | int (integer : Int)
  | float (number : Binary64)
  | text (content : String)
  | bytes (content : List UInt8)
  | list (items : List (Value Part))
  | tuple (items : List (Value Part))
  | dict (entries : List (Key × Value Part))
  | part (content : Part)

namespace Key

/-- The integer that a key counts as: a truth value counts as zero or one. -/
def integer? : Key → Option Int
  | int integer => some integer
  | bool flag => some (if flag then 1 else 0)
  | _ => none

def same (left right : Key) : Bool :=
  match left.integer?, right.integer? with
  | some first, some second => first == second
  | none, none => left == right
  | _, _ => false

def toValue : Key → Value
  | text name => .text name
  | int integer => .int integer
  | bool flag => .bool flag
  | null => .null

end Key

namespace Value

variable {Part : Type}

def ofPairs (pairs : List (Key × Value Part)) : Value Part :=
  .dict (Entries.ofPairs Key.same pairs)

def field? (name : String) : Value Part → Option (Value Part)
  | .dict entries => entries.lookup (.text name)
  | _ => none

mutual

def embed : Value → Value Part
  | .null => .null
  | .absent => .absent
  | .bool flag => .bool flag
  | .int integer => .int integer
  | .float number => .float number
  | .text content => .text content
  | .bytes content => .bytes content
  | .list items => .list (embedItems items)
  | .tuple items => .tuple (embedItems items)
  | .dict entries => .dict (embedEntries entries)

def embedItems : List Value → List (Value Part)
  | [] => []
  | item :: rest => embed item :: embedItems rest

def embedEntries : List (Key × Value) → List (Key × Value Part)
  | [] => []
  | (key, item) :: rest => (key, embed item) :: embedEntries rest

end

end Value

end RecordCheck
