/-! Binary floating point of 64 bits, as exact arithmetic followed by one rounding.

A word is read as a sign and a *magnitude*, the 63 bits below the sign. Magnitudes
stand in the order of the numbers they denote, so comparing two words is comparing
two integers (`ordinal`). Every finite word is a whole multiple of the smallest
positive one; `units` is that multiple. Each operation computes its result exactly
on units, as a ratio of two integers, and `nearestMagnitude` then picks the closest
magnitude, ties to the even one. -/
namespace DocumentFilter

/-- A binary64 word. -/
structure Binary64 where
  bits : UInt64
deriving DecidableEq

namespace Binary64

/-- The bits below the sign. -/
def magnitude (x : Binary64) : Nat := x.bits.toNat % 0x8000000000000000

/-- The sign bit. -/
def isNegative (x : Binary64) : Bool := decide (0x8000000000000000 ≤ x.bits.toNat)

/-- The magnitude of the infinities: larger than every finite one, smaller than
every one that is not a number. -/
def infiniteMagnitude : Nat := 0x7FF0000000000000

def isNaN (x : Binary64) : Bool := decide (infiniteMagnitude < x.magnitude)

def isFinite (x : Binary64) : Bool := decide (x.magnitude < infiniteMagnitude)

def isInfinite (x : Binary64) : Bool := x.magnitude == infiniteMagnitude

/-- The word of a sign and a magnitude. -/
def ofMagnitude (negative : Bool) (magnitude : Nat) : Binary64 :=
  ⟨UInt64.ofNat (if negative then 0x8000000000000000 + magnitude else magnitude)⟩

/-- The quiet word that is not a number. -/
def notANumber : Binary64 := ofMagnitude false 0x7FF8000000000000

def infinity (negative : Bool) : Binary64 := ofMagnitude negative infiniteMagnitude

def zero (negative : Bool) : Binary64 := ofMagnitude negative 0

/-! ### Order -/

/-- The signed magnitude. Both zeros have ordinal zero. -/
def ordinal (x : Binary64) : Int :=
  if x.isNegative then -(x.magnitude : Int) else x.magnitude

/-- The order of two numbers; a word that is not a number has none with any. -/
def compare (x y : Binary64) : Option Ordering :=
  if x.isNaN || y.isNaN then none else some (Ord.compare x.ordinal y.ordinal)

/-- Numeric equality: the zeros are equal, and a word that is not a number equals
nothing. -/
def equals (x y : Binary64) : Bool := x.compare y == some .eq

/-! ### The exact value of a finite word -/

/-- The significand of a magnitude, with its leading bit when there is one. -/
def significand (magnitude : Nat) : Nat :=
  if magnitude < 0x10000000000000 then magnitude
  else 0x10000000000000 + magnitude % 0x10000000000000

/-- By how many bits the significand is shifted to count units. -/
def shift (magnitude : Nat) : Nat := magnitude / 0x10000000000000 - 1

/-- A magnitude as a multiple of the smallest positive one. -/
def magnitudeUnits (magnitude : Nat) : Nat := significand magnitude <<< shift magnitude

/-- A finite word as a multiple of the smallest positive word. -/
def units (x : Binary64) : Int :=
  if x.isNegative then -(magnitudeUnits x.magnitude : Int) else magnitudeUnits x.magnitude

/-- How many units make one. -/
def unitsOfOne : Nat := 1 <<< 1074

/-! ### Rounding -/

/-- The magnitude closest to the ratio of two naturals, counted in units. A tie goes
to the even magnitude, and past the largest finite magnitude lies infinity. -/
def nearestMagnitude (numerator denominator : Nat) : Nat :=
  let dropped := (numerator / denominator).log2 - 52
  let step := denominator <<< dropped
  let kept := numerator / step
  let rest := 2 * (numerator % step)
  let up := rest > step || (rest == step && kept % 2 == 1)
  min (dropped * 0x10000000000000 + kept + (if up then 1 else 0)) infiniteMagnitude

/-- The word closest to a signed ratio of units. -/
def ofUnits (negative : Bool) (numerator denominator : Nat) : Binary64 :=
  ofMagnitude negative (nearestMagnitude numerator denominator)

/-- The word closest to a signed ratio. -/
def ofRatio (negative : Bool) (numerator denominator : Nat) : Binary64 :=
  ofUnits negative (numerator * unitsOfOne) denominator

/-- The word closest to an integer. -/
def ofInt (n : Int) : Binary64 := ofRatio (decide (n < 0)) n.natAbs 1

def ofNat (n : Nat) : Binary64 := ofRatio false n 1

/-- The word closest to `digits * 10 ^ exponent`. Exponents so large or small that
the answer is infinity or zero are settled without computing the power. -/
def ofScientific (negative : Bool) (digits : Nat) (exponent : Int) : Binary64 :=
  if digits = 0 then zero negative
  else if 400 < exponent then infinity negative
  else if exponent + digits.log2 < -1200 then zero negative
  else if 0 ≤ exponent then ofRatio negative (digits * Nat.pow 10 exponent.toNat) 1
  else ofRatio negative digits (Nat.pow 10 (-exponent).toNat)

/-! ### Arithmetic -/

/-- The sum, rounded. An exact zero is negative only when both terms are. -/
def add (x y : Binary64) : Binary64 :=
  if x.isNaN || y.isNaN then notANumber
  else if x.isInfinite then
    if y.isInfinite && x.isNegative != y.isNegative then notANumber else x
  else if y.isInfinite then y
  else
    let sum := x.units + y.units
    if sum = 0 then zero (x.isNegative && y.isNegative)
    else ofUnits (decide (sum < 0)) sum.natAbs 1

/-- The product, rounded. -/
def mul (x y : Binary64) : Binary64 :=
  let negative := x.isNegative != y.isNegative
  if x.isNaN || y.isNaN then notANumber
  else if x.isInfinite || y.isInfinite then
    if x.magnitude = 0 || y.magnitude = 0 then notANumber else infinity negative
  else ofUnits negative (x.units.natAbs * y.units.natAbs) unitsOfOne

/-- The quotient, rounded. -/
def div (x y : Binary64) : Binary64 :=
  let negative := x.isNegative != y.isNegative
  if x.isNaN || y.isNaN || (x.isInfinite && y.isInfinite) then notANumber
  else if x.isInfinite then infinity negative
  else if y.isInfinite then zero negative
  else if y.magnitude = 0 then
    if x.magnitude = 0 then notANumber else infinity negative
  else ofUnits negative (x.units.natAbs * unitsOfOne) y.units.natAbs

/-- The remainder of division toward zero, which is exact. It has the sign of the
dividend, also when it is zero. -/
def remainder (x y : Binary64) : Binary64 :=
  if x.isNaN || y.isNaN || x.isInfinite || y.magnitude = 0 then notANumber
  else if y.isInfinite then x
  else ofUnits x.isNegative (x.units.natAbs % y.units.natAbs) 1

/-- The greatest integer that is not above a finite word. -/
def floor (x : Binary64) : Int := x.units.fdiv unitsOfOne

/-- A finite word is whole when its units make up whole ones. -/
def isWhole (x : Binary64) : Bool := x.units.natAbs % unitsOfOne == 0

/-- The nearest integer, a half away from zero, as a word of the same sign. -/
def round (x : Binary64) : Binary64 :=
  if x.isFinite then
    ofRatio x.isNegative ((2 * x.units.natAbs + unitsOfOne) / (2 * unitsOfOne)) 1
  else x

/-- The number with the other sign. -/
def neg (x : Binary64) : Binary64 := ofMagnitude (!x.isNegative) x.magnitude

end Binary64

end DocumentFilter
