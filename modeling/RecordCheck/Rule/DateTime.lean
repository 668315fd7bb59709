/-!
Date-times such as `2025-08-03T12:00:00.5+02:00`: a calendar date, a time of day with at most six
digits of a fraction, and a zone that is `Z` or an offset of less than a day.
-/

namespace RecordCheck.DateTime

/-- The fields of a date-time. The offset is in minutes and without its sign. -/
structure Moment where
  year : Nat
  month : Nat
  day : Nat
  hour : Nat
  minute : Nat
  second : Nat
  offset : Nat
deriving DecidableEq

def digits? : Nat → Nat → List Char → Option (Nat × List Char)
  | 0, value, chars => some (value, chars)
  | _ + 1, _, [] => none
  | count + 1, value, char :: rest =>
      if char.isDigit then digits? count (10 * value + (char.toNat - 48)) rest else none

def after? (expected : Char) : List Char → Option (List Char)
  | [] => none
  | char :: rest => if char = expected then some rest else none

def skipFraction? : List Char → Option (List Char)
  | '.' :: rest =>
      let width := (rest.takeWhile Char.isDigit).length
      if 1 ≤ width && width ≤ 6 then some (rest.dropWhile Char.isDigit) else none
  | chars => some chars

def offset? : List Char → Option Nat
  | ['Z'] => some 0
  | sign :: rest =>
      if sign = '+' || sign = '-' then do
        let (hours, rest) ← digits? 2 0 rest
        let rest ← after? ':' rest
        let (minutes, rest) ← digits? 2 0 rest
        if rest.isEmpty then some (60 * hours + minutes) else none
      else none
  | [] => none

def moment? (chars : List Char) : Option Moment := do
  let (year, rest) ← digits? 4 0 chars
  let rest ← after? '-' rest
  let (month, rest) ← digits? 2 0 rest
  let rest ← after? '-' rest
  let (day, rest) ← digits? 2 0 rest
  let rest ← after? 'T' rest
  let (hour, rest) ← digits? 2 0 rest
  let rest ← after? ':' rest
  let (minute, rest) ← digits? 2 0 rest
  let rest ← after? ':' rest
  let (second, rest) ← digits? 2 0 rest
  let rest ← skipFraction? rest
  let offset ← offset? rest
  some ⟨year, month, day, hour, minute, second, offset⟩

def isLeap (year : Nat) : Bool := year % 4 == 0 && (year % 100 != 0 || year % 400 == 0)

def daysIn (year month : Nat) : Nat :=
  if month = 2 then if isLeap year then 29 else 28
  else if month = 4 || month = 6 || month = 9 || month = 11 then 30
  else 31

/-- Whether the fields name a moment: years begin at one, and an offset is less than a day. -/
def Moment.isValid (moment : Moment) : Bool :=
  1 ≤ moment.year && 1 ≤ moment.month && moment.month ≤ 12 &&
    1 ≤ moment.day && moment.day ≤ daysIn moment.year moment.month &&
    moment.hour < 24 && moment.minute < 60 && moment.second < 60 && moment.offset < 1440

def accepts (chars : List Char) : Bool :=
  match moment? chars with
  | some moment => moment.isValid
  | none => false

end RecordCheck.DateTime
