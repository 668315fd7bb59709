import RecordCheck.Number.Binary64
import RecordCheck.Text.Blank
import RecordCheck.Text.Digit

/-!
Numbers read from text. `float?` is the generous reader: blanks around the number, a sign, decimal
digits of any script with single underscores between them, a fraction, an exponent, or one of the
words for infinity and NaN. `isNumeric` is the plainer shape that a numeric text must have to be
cast.
-/

namespace RecordCheck.Numeral

def takeSign : List Char → Bool × List Char
  | '-' :: rest => (true, rest)
  | '+' :: rest => (false, rest)
  | chars => (false, chars)

def exponent? (chars : List Char) : Option Int :=
  let (negative, digits) := takeSign chars
  if digits.isEmpty then none
  else (Text.natural? digits).map fun number => if negative then -(number : Int) else number

def splitDigits (chars : List Char) : List Char × List Char × List Char :=
  let whole := chars.takeWhile Text.isDecimal
  match chars.dropWhile Text.isDecimal with
  | '.' :: rest => (whole, rest.takeWhile Text.isDecimal, rest.dropWhile Text.isDecimal)
  | rest => (whole, [], rest)

/-- An unsigned decimal numeral: all its digits as one number, and the power of ten of the last. -/
def decimal? (chars : List Char) : Option (Nat × Int) :=
  let (whole, fraction, rest) := splitDigits chars
  if whole.isEmpty && fraction.isEmpty then none
  else
    let shift : Int := -fraction.length
    match Text.natural? (whole ++ fraction), rest with
    | some significand, [] => some (significand, shift)
    | some significand, mark :: digits =>
        if mark = 'e' || mark = 'E' then
          (exponent? digits).map fun exponent => (significand, exponent + shift)
        else none
    | none, _ => none

def signedDecimal? (chars : List Char) : Option Binary64 :=
  let (negative, magnitude) := takeSign chars
  (decimal? magnitude).map fun (significand, exponent) =>
    Binary64.ofDecimal negative significand exponent

def word? (chars : List Char) : Option Binary64 :=
  let (negative, letters) := takeSign chars
  let lower := String.ofList (letters.map Char.toLower)
  if lower = "inf" || lower = "infinity" then some (.infinite negative)
  else if lower = "nan" then some .nan
  else none

/-- Drops the underscores, each of which must stand between two digits. The first argument tells
whether the character before was a digit. -/
def joinDigits (afterDigit : Bool) : List Char → Option (List Char)
  | [] => some []
  | '_' :: next :: rest =>
      if afterDigit && Text.isDecimal next then
        (joinDigits true rest).map (next :: ·)
      else none
  | char :: rest =>
      if char = '_' then none
      else (joinDigits (Text.isDecimal char) rest).map (char :: ·)

/-- The blanks that may stand around a numeral: all but the separators U+001C to U+001F. -/
def isOuterBlank (char : Char) : Bool :=
  Text.isBlank char && !(0x1C ≤ char.toNat && char.toNat ≤ 0x1F)

def trimOuter (chars : List Char) : List Char :=
  ((chars.dropWhile isOuterBlank).reverse.dropWhile isOuterBlank).reverse

def float? (chars : List Char) : Option Binary64 :=
  match joinDigits false (trimOuter chars) with
  | none => none
  | some numeral =>
      match word? numeral with
      | some special => some special
      | none => signedDecimal? numeral

/-- Whether what follows the digits of a numeric text is an exponent or nothing, and then blanks. -/
def isNumericTail : List Char → Bool
  | [] => true
  | mark :: rest =>
      if mark = 'e' || mark = 'E' then
        let digits := (takeSign rest).2
        !(digits.takeWhile Text.isDecimal).isEmpty &&
          Text.allBlank (digits.dropWhile Text.isDecimal)
      else Text.allBlank (mark :: rest)

def isNumeric (chars : List Char) : Bool :=
  let magnitude := (takeSign (chars.dropWhile Text.isBlank)).2
  let (whole, fraction, rest) := splitDigits magnitude
  !(whole.isEmpty && fraction.isEmpty) && isNumericTail rest

end RecordCheck.Numeral
