import RecordCheck.Number.Binary64

/-!
The shortest decimal that reads back to a floating point number. For one digit, then two, and so
on, the two neighbours of the value on that decimal grid are read back; the first grid with a hit
wins, and of two hits the nearer.
-/

namespace RecordCheck

structure Decimal where
  digits : Nat
  exponent : Int
deriving DecidableEq

namespace Decimal

def readUnits (decimal : Decimal) : Nat :=
  nearestUnits (decimal.digits * Nat.pow 10 decimal.exponent.toNat * unitsPerOne)
    (Nat.pow 10 (-decimal.exponent).toNat)

/-- Moves the zeros at the end of the digits into the exponent. The first argument bounds how many
there can be. -/
def stripZeros : Nat → Decimal → Decimal
  | 0, decimal => decimal
  | bound + 1, decimal =>
      if decimal.digits != 0 && decimal.digits % 10 == 0 then
        stripZeros bound ⟨decimal.digits / 10, decimal.exponent + 1⟩
      else decimal

/-- The power of ten just above a magnitude: the least one that it stays below. -/
def scaleOf (units : Nat) : Int :=
  if unitsPerOne ≤ units then Binary64.decimalWidth (units / unitsPerOne)
  else 1 - Binary64.decimalWidth (unitsPerOne / units)

/-- The decimal on the grid of `10 ^ exponent` that reads back to the magnitude, if there is one:
the neighbour below or the one above, the nearer of both, and the even one on a tie. -/
def onGrid? (units : Nat) (exponent : Int) : Option Decimal :=
  let numerator := units * Nat.pow 10 (-exponent).toNat
  let denominator := unitsPerOne * Nat.pow 10 exponent.toNat
  let low : Decimal := ⟨numerator / denominator, exponent⟩
  let high : Decimal := ⟨numerator / denominator + 1, exponent⟩
  let lowReads := low.digits != 0 && low.readUnits == units
  let highReads := high.readUnits == units
  if lowReads && highReads then
    some ⟨roundHalfEven numerator denominator, exponent⟩
  else if lowReads then some low
  else if highReads then some high
  else none

/-- The first grid with a hit, from `width` digits on; the exact value if `tries` grids have none. -/
def firstHit (units : Nat) (scale : Int) : Nat → Nat → Decimal
  | 0, _ => ⟨units * Nat.pow 5 1074, -1074⟩
  | tries + 1, width =>
      match onGrid? units (scale - width) with
      | some decimal => decimal
      | none => firstHit units scale tries (width + 1)

def shortest (units : Nat) : Decimal :=
  let hit := firstHit units (scaleOf units) 17 1
  stripZeros (Binary64.decimalWidth hit.digits) hit

end Decimal

end RecordCheck
