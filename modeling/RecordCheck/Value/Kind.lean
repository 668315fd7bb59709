import RecordCheck.Value.Basic
import RecordCheck.Text.Blank

/-!
What kind of value a value is. Truth values are no numbers here, and a text or bytes is no sequence.
-/

namespace RecordCheck

/-- How messages show the parts that stand inside a value: the name of their kind, and a text that
is there unless an integer in it is too long. -/
class Shown (Part : Type) where
  kindName : Part → String
  written : Part → String
  writable : Part → Bool

instance : Shown Empty where
  kindName := nofun
  written := nofun
  writable := nofun

namespace Value

variable {Part : Type}

def kindName [Shown Part] : Value Part → String
  | .null => "NoneType"
  | .absent => "_Missing"
  | .bool _ => "bool"
  | .int _ => "int"
  | .float _ => "float"
  | .text _ => "str"
  | .bytes _ => "bytes"
  | .list _ => "list"
  | .tuple _ => "tuple"
  | .dict _ => "dict"
  | .part content => Shown.kindName content

/-- Whether a value counts as true: zero, the empty ones, null and the absent marker do not. -/
def truthy : Value Part → Bool
  | .null | .absent => false
  | .bool flag => flag
  | .int integer => integer != 0
  | .float number => !number.isZero
  | .text content => content != ""
  | .bytes content => !content.isEmpty
  | .list items | .tuple items => !items.isEmpty
  | .dict entries => !entries.isEmpty
  | .part _ => true

def isNull : Value Part → Bool
  | .null => true
  | _ => false

def isBool : Value Part → Bool
  | .bool _ => true
  | _ => false

def isText : Value Part → Bool
  | .text _ => true
  | _ => false

def isNumber : Value Part → Bool
  | .int _ => true
  | .float number => number.isFinite
  | _ => false

def isWholeNumber : Value Part → Bool
  | .int _ => true
  | .float number => number.isWhole
  | _ => false

def isSequence : Value Part → Bool
  | .list _ | .tuple _ => true
  | _ => false

def isMapping : Value Part → Bool
  | .dict _ => true
  | _ => false

/-- Empty as a required field must not be: null, absent, a blank text, an empty container. -/
def isEmpty : Value Part → Bool
  | .null | .absent => true
  | .text content => Text.allBlank content.toList
  | .list items | .tuple items => items.isEmpty
  | .dict entries => entries.isEmpty
  | _ => false

def length? : Value Part → Option Nat
  | .text content => some content.length
  | .list items | .tuple items => some items.length
  | .dict entries => some entries.length
  | _ => none

def number? : Value Part → Option Number
  | .bool flag => some (.whole (if flag then 1 else 0))
  | .int integer => some (.whole integer)
  | .float number => some (.binary number)
  | _ => none

end Value

end RecordCheck
