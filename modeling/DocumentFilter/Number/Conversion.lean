import DocumentFilter.Number.Binary64
import DocumentFilter.Number.Decimal
import DocumentFilter.Number.DecimalText
import DocumentFilter.Number.Shortest

/-! From binary64 to decimal and back.

Two roads lead to a decimal. `ofShortest?` reads the shortest text of the number,
so `0.1` stays `0.1`. `ofBinary?` works on the significand: it moves the power of
two into powers of ten while the coefficient has room, and keeps about sixteen
digits. `toBinary64` splits off the fraction, adds it back and rounds the sum to
the decimal's places. -/
namespace DocumentFilter.Decimal

open Binary64 (magnitudeUnits significand shift)

/-- The decimal of a number's shortest text, when the number is finite and its whole
part fits. -/
def ofShortest? (x : Binary64) : Option Decimal :=
  if x.isFinite then readPlain? (Shortest.text x) else none

/-! ### The road over the significand -/

/-- The number `coefficient * 10 ^ exponent`. -/
structure Scaled where
  coefficient : Nat
  exponent : Int

namespace Scaled

/-- Multiplies by `5 ^ count`. An even coefficient gives up a factor of two for one of
ten; an odd one takes the five while it has room, and else loses its last bit. -/
def timesFive (s : Scaled) : (count : Nat) → Scaled
  | 0 => s
  | count + 1 =>
    if s.coefficient % 2 = 1 ∧ s.coefficient * 5 < limit then
      timesFive ⟨s.coefficient * 5, s.exponent⟩ count
    else timesFive ⟨s.coefficient / 2, s.exponent + 1⟩ count

/-- Divides by `5 ^ count`. While the leading bit is clear, a factor of two is taken in
and one of ten given out. Past that the number is too large when more powers of ten
are left than half the fives; else the coefficient loses digits. -/
def overFive? (s : Scaled) : (count : Nat) → Option Scaled
  | 0 => some s
  | count + 1 =>
    if s.coefficient * 2 < limit then overFive? ⟨s.coefficient * 2, s.exponent - 1⟩ count
    else if 2 * s.exponent > count + 1 then none
    else overFive? ⟨s.coefficient / 5, s.exponent⟩ count

/-- Divides by ten, a half up. -/
def dropDigit (s : Scaled) : Scaled := ⟨(s.coefficient + 5) / 10, s.exponent + 1⟩

/-- Drops digits until there are at most twenty-eight places. When only one digit is
left to drop, the number vanishes. -/
def fitPlaces (s : Scaled) : (fuel : Nat) → Scaled
  | 0 => s
  | fuel + 1 =>
    if s.exponent < -28 then
      if s.coefficient < 10 then ⟨0, 0⟩ else s.dropDigit.fitPlaces fuel
    else s

/-- Drops digits of the fraction until the coefficient is below `2 ^ 52`. -/
def fitPrecision (s : Scaled) : (fuel : Nat) → Scaled
  | 0 => s
  | fuel + 1 =>
    if s.exponent < 0 ∧ 0x10000000000000 ≤ s.coefficient then s.dropDigit.fitPrecision fuel else s

/-- Drops zeros at the end of the fraction. -/
def dropZeros (s : Scaled) : (fuel : Nat) → Scaled
  | 0 => s
  | fuel + 1 =>
    if s.exponent < 0 ∧ s.coefficient % 10 = 0 then
      dropZeros ⟨s.coefficient / 10, s.exponent + 1⟩ fuel
    else s

/-- The decimal with the sign given, once no power of ten is left. -/
def toDecimal? (s : Scaled) (negative : Bool) : Option Decimal :=
  let magnitude := s.coefficient * Nat.pow 10 s.exponent.toNat
  ofParts? (if negative then -(magnitude : Int) else magnitude) (-s.exponent).toNat

end Scaled

/-- A finite number as a decimal, over its significand: about sixteen digits, and
nothing when the whole part does not fit. -/
def ofBinary? (x : Binary64) : Option Decimal := do
  let power : Int := shift x.magnitude - 1074
  let start : Scaled := ⟨significand x.magnitude, power⟩
  let scaled ←
    if !x.isFinite then none
    else if x.magnitude = 0 then some ⟨0, 0⟩
    else if power < 0 then some (start.timesFive (-power).toNat)
    else start.overFive? power.toNat
  let fitted := scaled.fitPlaces scaled.exponent.natAbs
  let precise := fitted.fitPrecision fitted.exponent.natAbs
  (precise.dropZeros precise.exponent.natAbs).toDecimal? x.isNegative

/-! ### Back to binary64 -/

/-- The nearest binary64 number of an integer; of a decimal with places, the whole
part and the fraction are converted apart, added, and the sum is rounded to the
places again. -/
def toBinary64 (d : Decimal) : Binary64 :=
  let magnitude := d.coefficient.natAbs
  let power := Nat.pow 10 d.scale
  let whole := Binary64.ofNat (magnitude / power)
  let fraction := (Binary64.ofNat (magnitude % power)).div (Binary64.ofNat power)
  let result :=
    if magnitude % power = 0 then whole
    else ((whole.add fraction).mul (Binary64.ofNat power)).round.div (Binary64.ofNat power)
  if d.coefficient < 0 then result.neg else result

end DocumentFilter.Decimal
