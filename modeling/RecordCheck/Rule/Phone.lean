import RecordCheck.Text.Blank
import RecordCheck.Text.Digit
import RecordCheck.Text.Pattern

/-!
Telephone numbers of the United States and of Great Britain, as finite patterns. Where any digit may
stand, it may be of any script; the digits with a meaning of their own are ASCII.
-/

namespace RecordCheck.Phone

open Text (Pattern)

def digit : Pattern := .one Text.isDecimal

def digits (count : Nat) : Pattern := digit.times count

def among (allowed : List Char) : Pattern := .one allowed.contains

def hyphen : Pattern := .maybe (.char '-')

def gap : Pattern := .maybe (.one fun char => Text.isBlank char || char == '-')

def opening : Pattern := .maybe (.char '(')

def closing : Pattern := .maybe (.char ')')

def leading : Pattern := among ['2', '3', '4', '5', '6', '7', '8', '9']

/-- An area code, whose second and third digits are not both one. -/
def area : Pattern :=
  .all [leading,
    .either
      (.seq (among ['0', '2', '3', '4', '5', '6', '7', '8', '9']) digit)
      (.seq (.char '1') (among ['0', '2', '3', '4', '5', '6', '7', '8', '9']))]

/-- A number of the United States without blanks: an optional country code, an area code perhaps
in parentheses, an exchange and a line. -/
def unitedStates : Pattern :=
  .all [.maybe (.all [.maybe (.char '+'), .char '1', hyphen]),
    .either (.all [.char '(', area, .char ')']) area,
    hyphen, leading, digits 2, hyphen, digits 4]

def access : Pattern :=
  .either
    (.all [.char '0', .either (.char '0') (.seq (.char '1') (.char '1')), closing, gap, opening])
    (.char '+')

def country : Pattern :=
  .all [opening, access, .char '4', .char '4', closing, gap,
    .maybe (.all [opening, .char '0', closing, gap])]

def areaAndLine : Pattern :=
  .anyOf (.all [digits 2, closing, gap, digits 4, gap, digits 4])
    [.all [digits 3, closing, gap, digits 3, gap, digits 3, digit.upTo 1],
      .all [digits 4, closing, gap, .either (digits 5) (.all [digits 3, gap, digits 3])],
      .all [digits 5, closing, gap, digits 4, digit.upTo 1]]

def greatBritain : Pattern :=
  .seq (.either country (.seq opening (.char '0'))) areaAndLine

/-- Blanks anywhere in a number of the United States do not count. -/
def acceptsUnitedStates (chars : List Char) : Bool :=
  unitedStates.accepts (chars.filter fun char => !Text.isBlank char)

/-- Blanks around a number of Great Britain do not count. -/
def acceptsGreatBritain (chars : List Char) : Bool := greatBritain.accepts (Text.trim chars)

end RecordCheck.Phone
