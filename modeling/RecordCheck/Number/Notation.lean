import RecordCheck.Number.Shortest

/-!
How floating point numbers are written. The digits are the shortest that read back; they are
written positionally from ten to the power of minus four up to below ten to the power of sixteen
and with an exponent otherwise, and a whole number keeps a zero after its point.
-/

namespace RecordCheck

structure SpecialWords where
  nan : String
  infinite : String

namespace Decimal

def zeroes (count : Nat) : List Char := List.replicate count '0'

/-- An exponent with its sign and at least two digits. -/
def exponentText (exponent : Int) : List Char :=
  let digits := Nat.toDigits 10 exponent.natAbs
  (if exponent < 0 then '-' else '+') :: zeroes (2 - digits.length) ++ digits

def layout (decimal : Decimal) : List Char :=
  let digits := Nat.toDigits 10 decimal.digits
  let point : Int := digits.length + decimal.exponent
  if -4 < point && point ≤ 16 then
    if point ≤ 0 then '0' :: '.' :: zeroes (-point).toNat ++ digits
    else if digits.length ≤ point.toNat then
      digits ++ zeroes (point.toNat - digits.length) ++ ['.', '0']
    else digits.take point.toNat ++ '.' :: digits.drop point.toNat
  else
    let fraction := digits.drop 1
    digits.take 1 ++ (if fraction.isEmpty then [] else '.' :: fraction) ++
      'e' :: exponentText (point - 1)

end Decimal

namespace Binary64

def text (words : SpecialWords) : Binary64 → String
  | nan => words.nan
  | infinite negative => if negative then "-" ++ words.infinite else words.infinite
  | finite negative units _ =>
      let magnitude := if units = 0 then ['0', '.', '0'] else (Decimal.shortest units).layout
      String.ofList (if negative then '-' :: magnitude else magnitude)

end Binary64

end RecordCheck
