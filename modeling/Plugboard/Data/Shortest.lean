import Plugboard.Data.Float64
/-!
# The shortest decimal of a floating-point number

Among the decimals that round to a number, the one with the fewest digits is taken,
and of those the nearest to the number.  A decimal with `count` digits lies on a grid
of powers of ten, and only the two grid points around the number can be nearest, so
the search tries those two for one digit, two digits, and so on; seventeen always do.
-/

namespace Plugboard

/-- The decimal `digits · 10^exponent`. -/
structure Decimal where
  digits : Nat
  exponent : Int
  deriving DecidableEq, Repr

namespace Decimal

/-- Numerator and denominator of the decimal counted in units of `2^-1074`. -/
def units (decimal : Decimal) : Nat × Nat :=
  if 0 ≤ decimal.exponent then
    (decimal.digits * Nat.pow 10 decimal.exponent.toNat * Float64.unitsPerOne, 1)
  else (decimal.digits * Float64.unitsPerOne, Nat.pow 10 (-decimal.exponent).toNat)

def toFloat (negative : Bool) (decimal : Decimal) : Float64 :=
  Float64.ofUnits negative decimal.units.1 decimal.units.2

/-- The same decimal without zeros at its end, at most `fuel` of them. -/
def withoutZeros : Nat → Decimal → Decimal
  | 0, decimal => decimal
  | fuel + 1, decimal =>
    if decimal.digits ≠ 0 && decimal.digits % 10 = 0 then
      withoutZeros fuel ⟨decimal.digits / 10, decimal.exponent + 1⟩
    else decimal

def roundsTo (decimal : Decimal) (magnitude : Nat) : Bool :=
  Float64.roundMagnitude decimal.units.1 decimal.units.2 == magnitude

end Decimal

namespace Float64

/-- `⌊units / 10^exponent⌋` with the number counted in units of `2^-1074`. -/
def gridBelow (units : Nat) (exponent : Int) : Nat :=
  if 0 ≤ exponent then units / (unitsPerOne * Nat.pow 10 exponent.toNat)
  else units * Nat.pow 10 (-exponent).toNat / unitsPerOne

/-- Twice the distance from the grid point below compared with one grid step. -/
def nearerAbove (units : Nat) (exponent : Int) : Bool :=
  let (value, step) :=
    if 0 ≤ exponent then (units, unitsPerOne * Nat.pow 10 exponent.toNat)
    else (units * Nat.pow 10 (-exponent).toNat, unitsPerOne)
  let rest := 2 * (value % step)
  decide (step < rest) || (rest == step && (value / step) % 2 == 1)

/-- The exponent `e` with `10^e ≤ value < 10^(e+1)`, searched downwards from `start`. -/
def leadingExponent (units : Nat) : Nat → Int → Int
  | 0, exponent => exponent
  | fuel + 1, exponent =>
    if gridBelow units exponent = 0 then leadingExponent units fuel (exponent - 1) else exponent

/-- The better of the two grid points around the number, if one rounds to it. -/
def onGrid? (magnitude : Nat) (exponent : Int) : Option Decimal :=
  let units := unitsOfMagnitude magnitude
  let below : Decimal := ⟨gridBelow units exponent, exponent⟩
  let above : Decimal := ⟨gridBelow units exponent + 1, exponent⟩
  match below.roundsTo magnitude, above.roundsTo magnitude with
  | true, true => some (if nearerAbove units exponent then above else below)
  | true, false => some below
  | false, true => some above
  | false, false => none

/-- The first grid with a hit, from one digit on. -/
def shortestFrom (magnitude : Nat) (leading : Int) : Nat → Int → Decimal
  | 0, offset => ⟨gridBelow (unitsOfMagnitude magnitude) (leading - offset), leading - offset⟩
  | fuel + 1, offset =>
    match onGrid? magnitude (leading - offset) with
    | some decimal => decimal
    | none => shortestFrom magnitude leading fuel (offset + 1)

/-- A starting point at or above the leading exponent: `2^10 < 10^3.02`. -/
def exponentEstimate (units : Nat) : Int :=
  ((Nat.log2 units : Int) - 1074) * 30103 / 100000 + 1

/-- The shortest decimal that rounds to the magnitude of `x`, for `x` finite and not zero.
The grid point above a number may be the next power of ten, which ends in zeros. -/
def shortest (x : Float64) : Decimal :=
  let units := unitsOfMagnitude x.magnitude
  let leading := leadingExponent units 4 (exponentEstimate units)
  (shortestFrom x.magnitude leading 17 0).withoutZeros 17

end Float64
end Plugboard
