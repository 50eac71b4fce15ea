/-!
# 64-bit floating-point numbers by their bits

A number is its 64 bits.  Every finite one is a whole multiple of `2^-1074`, its
*units*, so arithmetic is exact arithmetic on integers followed by one rounding to
the nearest representable number, ties going to the even neighbour.
-/

namespace Plugboard

/-- A binary floating-point number of 64 bits. -/
structure Float64 where
  bits : UInt64
  deriving DecidableEq, Repr, Inhabited

namespace Float64

/-- Units in one: `1 = 2^1074 · 2^-1074`. -/
def unitsPerOne : Nat := Nat.pow 2 1074

def negative (x : Float64) : Bool := decide (Nat.pow 2 63 ≤ x.bits.toNat)

/-- The bits below the sign. -/
def magnitude (x : Float64) : Nat := x.bits.toNat % Nat.pow 2 63

/-- The magnitude of the infinities: all exponent bits set, no fraction. -/
def infiniteMagnitude : Nat := 2047 * Nat.pow 2 52

def isFinite (x : Float64) : Bool := decide (x.magnitude < infiniteMagnitude)

/-- All exponent bits set and a fraction. -/
def isNaN (x : Float64) : Bool := decide (infiniteMagnitude < x.magnitude)

/-- The units of a magnitude: the first two binades count one by one, each later
one counts twice as coarsely as the one before. -/
def unitsOfMagnitude (magnitude : Nat) : Nat :=
  if magnitude < Nat.pow 2 52 then magnitude
  else (Nat.pow 2 52 + magnitude % Nat.pow 2 52) * Nat.pow 2 (magnitude / Nat.pow 2 52 - 1)

/-- The exact value in units, for a finite number. -/
def units (x : Float64) : Int :=
  if x.negative then -(unitsOfMagnitude x.magnitude : Int) else unitsOfMagnitude x.magnitude

/-- Assembles a number from its sign and magnitude. -/
def ofMagnitude (negative : Bool) (magnitude : Nat) : Float64 :=
  ⟨UInt64.ofNat (if negative then Nat.pow 2 63 + magnitude else magnitude)⟩

def zero : Float64 := ofMagnitude false 0
def nan : Float64 := ofMagnitude false (infiniteMagnitude + Nat.pow 2 51)
def infinity (negative : Bool) : Float64 := ofMagnitude negative infiniteMagnitude

/-- The nearest whole number to `numerator / denominator`, a half going to the even one. -/
def divideToEven (numerator denominator : Nat) : Nat :=
  let quotient := numerator / denominator
  let rest := 2 * (numerator % denominator)
  if rest < denominator then quotient
  else if denominator < rest then quotient + 1
  else if quotient % 2 = 0 then quotient else quotient + 1

/-- The magnitude nearest to `numerator / denominator` units.  Within a binade the
magnitudes count units of one size, so rounding the quotient by that size rounds the
number; a carry into the next binade is a carry of the magnitude. -/
def roundMagnitude (numerator denominator : Nat) : Nat :=
  let binade := Nat.log2 (numerator / denominator) - 52
  min infiniteMagnitude
    (binade * Nat.pow 2 52 + divideToEven numerator (denominator * Nat.pow 2 binade))

/-- The number nearest to `± numerator / denominator` units. -/
def ofUnits (negative : Bool) (numerator denominator : Nat) : Float64 :=
  ofMagnitude negative (roundMagnitude numerator denominator)

def ofInt (value : Int) : Float64 :=
  ofUnits (decide (value < 0)) (value.natAbs * unitsPerOne) 1

/-- The number nearest to `± significand · 10^exponent`.  Exponents are cut off where
the result no longer changes: above, everything but zero is infinite; below, the value
is less than half a unit. -/
def ofDecimal (negative : Bool) (significand : Nat) (exponent : Int) : Float64 :=
  let shift := min exponent.natAbs (Nat.log2 significand + 1100)
  if 0 ≤ exponent then ofUnits negative (significand * Nat.pow 10 shift * unitsPerOne) 1
  else ofUnits negative (significand * unitsPerOne) (Nat.pow 10 shift)

/-- Addition.  An exact zero is negative only as the sum of two negative zeros. -/
def add (x y : Float64) : Float64 :=
  if x.isNaN || y.isNaN then nan
  else if !x.isFinite then
    if y.isFinite || x.negative == y.negative then x else nan
  else if !y.isFinite then y
  else
    let sum := x.units + y.units
    if sum = 0 then ofMagnitude (x.negative && y.negative) 0
    else ofUnits (decide (sum < 0)) sum.natAbs 1

def mul (x y : Float64) : Float64 :=
  let negative := x.negative != y.negative
  if x.isNaN || y.isNaN then nan
  else if !x.isFinite || !y.isFinite then
    if x.magnitude = 0 || y.magnitude = 0 then nan else infinity negative
  else ofUnits negative (x.units.natAbs * y.units.natAbs) unitsPerOne

def div (x y : Float64) : Float64 :=
  let negative := x.negative != y.negative
  if x.isNaN || y.isNaN then nan
  else if !x.isFinite then
    if y.isFinite then infinity negative else nan
  else if !y.isFinite then ofMagnitude negative 0
  else if y.magnitude = 0 then
    if x.magnitude = 0 then nan else infinity negative
  else ofUnits negative (x.units.natAbs * unitsPerOne) y.units.natAbs

def neg (x : Float64) : Float64 := ofMagnitude (!x.negative) x.magnitude

/-- The value as an integer that keeps the order, with the infinities at the ends. -/
def order (x : Float64) : Int :=
  if x.negative then -(x.magnitude : Int) else x.magnitude

/-- Less than: a not-a-number is in no order, and the two zeros are equal. -/
def lt (x y : Float64) : Bool :=
  !x.isNaN && !y.isNaN && decide (x.order < y.order)

def isZero (x : Float64) : Bool := x.magnitude == 0

/-- The power of ten `10^exponent`, rounded. -/
def powerOfTen (exponent : Nat) : Float64 := ofInt (Nat.pow 10 exponent)

end Float64
end Plugboard
