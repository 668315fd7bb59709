/-!
Binary floating point numbers of 64 bits, kept exactly. A finite number is a sign and a magnitude
counted in units of the least positive number, so that comparison, truncation and rounding are
arithmetic on natural numbers.
-/

namespace RecordCheck

/-- One is this many units: the unit is two to the power of minus 1074. -/
def unitsPerOne : Nat := Nat.pow 2 1074

/-- A magnitude that 53 significant bits can hold and that lies below the overflow threshold. -/
def Representable (units : Nat) : Prop :=
  units < Nat.pow 2 2098 ∧ units % Nat.pow 2 (units.log2 - 52) = 0

instance (units : Nat) : Decidable (Representable units) :=
  inferInstanceAs (Decidable (_ ∧ _))

/-- A number of 64 bits; all NaN are one value. -/
inductive Binary64
  | nan
  | infinite (negative : Bool)
  | finite (negative : Bool) (units : Nat) (fits : Representable units)
deriving DecidableEq

def roundHalfEven (numerator denominator : Nat) : Nat :=
  let low := numerator / denominator
  let left := 2 * (numerator % denominator)
  if left < denominator || (left == denominator && low % 2 == 0) then low else low + 1

/-- The representable magnitude nearest to a quotient of units, if overflow is left aside. -/
def nearestUnits (numerator denominator : Nat) : Nat :=
  let step := Nat.pow 2 ((numerator / denominator).log2 - 52)
  roundHalfEven numerator (denominator * step) * step

namespace Binary64

/-- A magnitude with its sign; a magnitude beyond the representable ones is infinite. -/
def ofUnits (negative : Bool) (units : Nat) : Binary64 :=
  if fits : Representable units then finite negative units fits else infinite negative

def ofRatio (negative : Bool) (numerator denominator : Nat) : Binary64 :=
  ofUnits negative (nearestUnits (numerator * unitsPerOne) denominator)

def ofInt (integer : Int) : Binary64 := ofRatio (integer < 0) integer.natAbs 1

def decimalWidth (number : Nat) : Nat := (Nat.toDigits 10 number).length

/-- The number nearest to `significand` times ten to the power `exponent`. A leading digit above
the 309th place before the point overflows, one below the 324th place after it vanishes. -/
def ofDecimal (negative : Bool) (significand : Nat) (exponent : Int) : Binary64 :=
  let leading := (decimalWidth significand : Int) + exponent
  if significand == 0 || leading < -330 then ofUnits negative 0
  else if leading > 310 then infinite negative
  else
    ofRatio negative (significand * Nat.pow 10 exponent.toNat) (Nat.pow 10 (-exponent).toNat)

def isFinite : Binary64 → Bool
  | finite _ _ _ => true
  | _ => false

def isNaN : Binary64 → Bool
  | nan => true
  | _ => false

def isZero : Binary64 → Bool
  | finite _ units _ => units == 0
  | _ => false

def isWhole : Binary64 → Bool
  | finite _ units _ => units % unitsPerOne == 0
  | _ => false

def truncate? : Binary64 → Option Int
  | finite negative units _ =>
      let whole : Int := (units / unitsPerOne : Nat)
      some (if negative then -whole else whole)
  | _ => none

end Binary64

inductive Number
  | whole (integer : Int)
  | binary (float : Binary64)
deriving DecidableEq

/-- The place of a number on the line, in units; NaN has none. -/
inductive Place
  | lowest
  | at (units : Int)
  | highest
deriving DecidableEq

namespace Place

def le : Place → Place → Bool
  | lowest, _ => true
  | _, highest => true
  | .at left, .at right => left ≤ right
  | _, _ => false

end Place

namespace Number

def place? : Number → Option Place
  | whole integer => some (.at (integer * unitsPerOne))
  | binary .nan => none
  | binary (.infinite negative) => some (if negative then .lowest else .highest)
  | binary (.finite negative units _) =>
      some (.at (if negative then -(units : Int) else units))

def le (left right : Number) : Bool :=
  match left.place?, right.place? with
  | some low, some high => low.le high
  | _, _ => false

def same (left right : Number) : Bool :=
  match left.place?, right.place? with
  | some first, some second => first == second
  | _, _ => false

end Number

end RecordCheck
