import RecordCheck.Text.Digit
import RecordCheck.Text.Quoted

/-!
Integers read from a row of decimal digits, and integers written as one. Neither is done with more
than `digitLimit` digits: a reader counts the digits at the start before it looks at anything else,
and a text that would show a longer integer is not made at all.
-/

namespace RecordCheck.Whole

def digitLimit : Nat := 4300

inductive Fault
  | tooLong (digits : Nat)
  | notDecimal (text : List Char)
  | unwritable
deriving DecidableEq

def read (chars : List Char) : Except Fault Nat :=
  let count := (chars.takeWhile Text.isDecimal).length
  if digitLimit < count then .error (.tooLong count)
  else
    match Text.natural? chars with
    | some number => .ok number
    | none => .error (.notDecimal chars)

/-- Whether an integer has no more digits than are written; its sign does not count. -/
def writable (integer : Int) : Bool :=
  (Nat.toDigits 10 integer.natAbs).length ≤ digitLimit

/-- What is made of integers as texts, if all of them are written. -/
def ifWritable {value : Type} (fits : Bool) (result : value) : Except Fault value :=
  if fits then .ok result else .error .unwritable

section IfWritable

variable {value : Type} {fits : Bool} {result other : value} {fault : Fault}

theorem ifWritable_ok_iff : ifWritable fits result = .ok other ↔ fits = true ∧ result = other := by
  cases fits <;> simp [ifWritable]

theorem ifWritable_error_iff :
    ifWritable fits result = .error fault ↔ fits = false ∧ fault = .unwritable := by
  cases fits <;> simp [ifWritable, eq_comm]

end IfWritable

/-- The text of a fault; of what is no integer at most 200 characters are shown. -/
def Fault.message : Fault → String
  | tooLong digits =>
      "Exceeds the limit (" ++ toString digitLimit ++
        " digits) for integer string conversion: value has " ++ toString digits ++
        " digits; use sys.set_int_max_str_digits() to increase the limit"
  | notDecimal text =>
      "invalid literal for int() with base 10: " ++
        String.ofList ((Text.quoted (String.ofList text)).toList.take 200)
  | unwritable =>
      "Exceeds the limit (" ++ toString digitLimit ++
        " digits) for integer string conversion; use sys.set_int_max_str_digits() to increase the limit"

end RecordCheck.Whole
