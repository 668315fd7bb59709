import RecordCheck.Number.Numeral
import RecordCheck.Number.Whole
import RecordCheck.Value.Basic

/-!
JSON documents read into values. Beyond the standard, the words for NaN and the infinities are
numbers; of two members with one name the last counts, in the place of the first. A number without
point and exponent is an integer. Reading stops at the first thing that is wrong.
-/

namespace RecordCheck.Json

inductive ReadError
  | malformed
  | integer (fault : Whole.Fault)
deriving DecidableEq

abbrev Reading (value : Type) := Except ReadError (value × List Char)

def isGap (char : Char) : Bool :=
  char = ' ' || char = '\t' || char = '\n' || char = '\r'

def skipGaps (chars : List Char) : List Char := chars.dropWhile isGap

def hexValue? (char : Char) : Option Nat :=
  if char.isDigit then some (char.toNat - 48)
  else if 'a' ≤ char && char ≤ 'f' then some (char.toNat - 87)
  else if 'A' ≤ char && char ≤ 'F' then some (char.toNat - 55)
  else none

def unit? (first second third fourth : Char) : Option Nat :=
  match hexValue? first, hexValue? second, hexValue? third, hexValue? fourth with
  | some a, some b, some c, some d => some (((a * 16 + b) * 16 + c) * 16 + d)
  | _, _, _, _ => none

def shortEscape? (letter : Char) : Option Char :=
  if letter = '"' || letter = '\\' || letter = '/' then some letter
  else if letter = 'n' then some '\n'
  else if letter = 'r' then some '\r'
  else if letter = 't' then some '\t'
  else if letter = 'b' then some '\x08'
  else if letter = 'f' then some '\x0c'
  else none

/-- The code points of a string and what follows its closing quote. A pair of 16-bit units is still
two points here. -/
def points : List Char → Option (List Nat × List Char)
  | [] => none
  | '"' :: rest => some ([], rest)
  | '\\' :: 'u' :: first :: second :: third :: fourth :: rest =>
      match unit? first second third fourth, points rest with
      | some unit, some (later, after) => some (unit :: later, after)
      | _, _ => none
  | '\\' :: letter :: rest =>
      match shortEscape? letter, points rest with
      | some char, some (later, after) => some (char.toNat :: later, after)
      | _, _ => none
  | char :: rest =>
      if char = '\\' || char.toNat < 0x20 then none
      else
        match points rest with
        | some (later, after) => some (char.toNat :: later, after)
        | none => none

/-- Joins the pairs of 16-bit units; a unit of a pair that stands alone is no character. -/
def joinUnits : List Nat → Option (List Char)
  | [] => some []
  | [point] => if 0xD800 ≤ point && point < 0xE000 then none else some [Char.ofNat point]
  | point :: next :: rest =>
      if 0xD800 ≤ point && point < 0xDC00 then
        if 0xDC00 ≤ next && next < 0xE000 then
          (joinUnits rest).map
            (Char.ofNat (0x10000 + (point - 0xD800) * 0x400 + (next - 0xDC00)) :: ·)
        else none
      else if 0xDC00 ≤ point && point < 0xE000 then none
      else (joinUnits (next :: rest)).map (Char.ofNat point :: ·)

def readString (chars : List Char) : Reading String :=
  match points chars with
  | none => .error .malformed
  | some (units, rest) =>
      match joinUnits units with
      | some content => .ok (String.ofList content, rest)
      | none => .error .malformed

/-- The digits of the part before the point: a zero alone, or digits that begin with another. -/
def wholePart? : List Char → Option (List Char × List Char)
  | '0' :: rest => some (['0'], rest)
  | chars =>
      if (chars.takeWhile Char.isDigit).isEmpty then none
      else some (chars.takeWhile Char.isDigit, chars.dropWhile Char.isDigit)

def fractionPart : List Char → Option (List Char) × List Char
  | '.' :: rest =>
      if (rest.takeWhile Char.isDigit).isEmpty then (none, '.' :: rest)
      else (some (rest.takeWhile Char.isDigit), rest.dropWhile Char.isDigit)
  | chars => (none, chars)

def exponentPart : List Char → Option Int × List Char
  | [] => (none, [])
  | mark :: rest =>
      let (negative, digits) := Numeral.takeSign rest
      if mark = 'e' || mark = 'E' then
        match Text.natural? (digits.takeWhile Char.isDigit) with
        | some exponent =>
            if (digits.takeWhile Char.isDigit).isEmpty then (none, mark :: rest)
            else
              (some (if negative then -(exponent : Int) else exponent),
                digits.dropWhile Char.isDigit)
        | none => (none, mark :: rest)
      else (none, mark :: rest)

def readInteger (negative : Bool) (digits : List Char) : Except ReadError Value :=
  match Whole.read digits with
  | .ok magnitude => .ok (.int (if negative then -(magnitude : Int) else magnitude))
  | .error fault => .error (.integer fault)

def readNumber (chars : List Char) : Reading Value :=
  let (negative, magnitude) :=
    match chars with
    | '-' :: rest => (true, rest)
    | _ => (false, chars)
  match wholePart? magnitude with
  | none => .error .malformed
  | some (whole, afterWhole) =>
      let (fraction, afterFraction) := fractionPart afterWhole
      let (exponent, rest) := exponentPart afterFraction
      if fraction.isNone && exponent.isNone then
        (readInteger negative whole).map fun integer => (integer, rest)
      else
        match Text.natural? (whole ++ fraction.getD []) with
        | none => .error .malformed
        | some digits =>
            let shift : Int := (fraction.getD []).length
            .ok (.float (Binary64.ofDecimal negative digits (exponent.getD 0 - shift)), rest)

mutual

/-- One value at the start of the text. The first argument bounds how deep and how far to read. -/
def readValue : Nat → List Char → Reading Value
  | 0, _ => .error .malformed
  | _ + 1, '"' :: rest => (readString rest).map fun (content, after) => (.text content, after)
  | bound + 1, '[' :: rest =>
      match skipGaps rest with
      | ']' :: after => .ok (.list [], after)
      | chars => (readItems bound chars).map fun (items, after) => (.list items, after)
  | bound + 1, '\x7b' :: rest =>
      match skipGaps rest with
      | '\x7d' :: after => .ok (.dict [], after)
      | chars =>
          (readMembers bound chars).map fun (members, after) => (Value.ofPairs members, after)
  | _ + 1, 'n' :: 'u' :: 'l' :: 'l' :: rest => .ok (.null, rest)
  | _ + 1, 't' :: 'r' :: 'u' :: 'e' :: rest => .ok (.bool true, rest)
  | _ + 1, 'f' :: 'a' :: 'l' :: 's' :: 'e' :: rest => .ok (.bool false, rest)
  | _ + 1, 'N' :: 'a' :: 'N' :: rest => .ok (.float .nan, rest)
  | _ + 1, 'I' :: 'n' :: 'f' :: 'i' :: 'n' :: 'i' :: 't' :: 'y' :: rest =>
      .ok (.float (.infinite false), rest)
  | _ + 1, '-' :: 'I' :: 'n' :: 'f' :: 'i' :: 'n' :: 'i' :: 't' :: 'y' :: rest =>
      .ok (.float (.infinite true), rest)
  | _ + 1, chars => readNumber chars

def readItems : Nat → List Char → Reading (List Value)
  | 0, _ => .error .malformed
  | bound + 1, chars =>
      (readValue bound chars).bind fun (item, rest) =>
        match skipGaps rest with
        | ']' :: after => .ok ([item], after)
        | ',' :: more =>
            (readItems bound (skipGaps more)).map fun (items, after) => (item :: items, after)
        | _ => .error .malformed

def readMembers : Nat → List Char → Reading (List (Key × Value))
  | bound + 1, '"' :: chars =>
      (readString chars).bind fun (name, afterName) =>
        match skipGaps afterName with
        | ':' :: afterColon =>
            (readValue bound (skipGaps afterColon)).bind fun (item, rest) =>
              match skipGaps rest with
              | '\x7d' :: after => .ok ([(.text name, item)], after)
              | ',' :: more =>
                  (readMembers bound (skipGaps more)).map fun (members, after) =>
                    ((.text name, item) :: members, after)
              | _ => .error .malformed
        | _ => .error .malformed
  | _, _ => .error .malformed

end

/-- Reads a whole document. Each step of reading takes at least one character for every two units
of the bound. -/
def read (chars : List Char) : Except ReadError Value :=
  (readValue (2 * chars.length + 2) (skipGaps chars)).bind fun (value, rest) =>
    if (skipGaps rest).isEmpty then .ok value else .error .malformed

end RecordCheck.Json
