/-! Decimals: a signed coefficient of at most 96 bits and a count of places.

The places are part of the value's text but not of its order: `1.0` and `1.00` are
different decimals that compare as equal. There is one zero per count of places,
without a sign. -/
namespace DocumentFilter

/-- The number `coefficient / 10 ^ scale`. -/
structure Decimal where
  coefficient : Int
  scale : Nat
  natAbs_lt : coefficient.natAbs < 0x1000000000000000000000000
  scale_le : scale ≤ 28
deriving DecidableEq

namespace Decimal

/-- The coefficients stay below this. -/
def limit : Nat := 0x1000000000000000000000000

/-- The largest count of places. -/
def maxScale : Nat := 28

/-- The decimal with these parts, when they fit. -/
def ofParts? (coefficient : Int) (scale : Nat) : Option Decimal :=
  if h : coefficient.natAbs < limit ∧ scale ≤ 28 then some ⟨coefficient, scale, h.1, h.2⟩
  else none

/-- A 64-bit integer as a decimal without places. -/
def ofInt64 (n : Int64) : Decimal where
  coefficient := n.toInt
  scale := 0
  natAbs_lt := by
    have low := n.le_toInt
    have high := n.toInt_lt
    omega
  scale_le := by omega

def zero : Decimal := ⟨0, 0, by decide, by decide⟩

def isZero (d : Decimal) : Bool := d.coefficient == 0

/-! ### Order -/

/-- The coefficient at twenty-eight places, which puts all decimals on one grid. -/
def scaled (d : Decimal) : Int := d.coefficient * Nat.pow 10 (28 - d.scale)

/-- The order of the numbers. -/
def compare (a b : Decimal) : Ordering := Ord.compare a.scaled b.scaled

/-- Numeric equality, whatever the places. -/
def equals (a b : Decimal) : Bool := a.compare b == .eq

/-- The greatest integer that is not above the decimal. -/
def floor (d : Decimal) : Int := d.coefficient.fdiv (Nat.pow 10 d.scale)

/-! ### Remainder and sum -/

/-- The remainder of division by an integer, toward zero. It is exact and has the
places and the sign of the dividend. -/
def remainder (a : Decimal) (divisor : Int) : Decimal where
  coefficient := a.coefficient.tmod (divisor * Nat.pow 10 a.scale)
  scale := a.scale
  natAbs_lt := by
    have bound := a.natAbs_lt
    have shrink : (a.coefficient.tmod (divisor * Nat.pow 10 a.scale)).natAbs ≤ a.coefficient.natAbs := by
      rw [Int.natAbs_tmod]
      exact Nat.mod_le _ _
    omega
  scale_le := a.scale_le

/-- The remainder, which division by zero does not have. -/
def remainder? (a : Decimal) (divisor : Int) : Option Decimal :=
  if divisor = 0 then none else some (a.remainder divisor)

/-- How many last digits a coefficient has to give up to fit, at most `fuel`. -/
def excess (magnitude : Nat) : (fuel : Nat) → Nat
  | 0 => 0
  | fuel + 1 => if magnitude < limit then 0 else excess (magnitude / 10) fuel + 1

/-- A quotient rounded to the nearest integer, a half to the even one. -/
def divideToEven (magnitude divisor : Nat) : Nat :=
  let quotient := magnitude / divisor
  let rest := 2 * (magnitude % divisor)
  if rest > divisor || (rest == divisor && quotient % 2 == 1) then quotient + 1 else quotient

/-- A sum with as many places as fit: the last digits that do not are rounded to
the nearest, a half to the even digit. Nothing when even the whole part does not
fit. -/
def add? (a b : Decimal) : Option Decimal :=
  let scale := max a.scale b.scale
  let sum := a.coefficient * Nat.pow 10 (scale - a.scale) +
    b.coefficient * Nat.pow 10 (scale - b.scale)
  let dropped := excess sum.natAbs scale
  let rounded := divideToEven sum.natAbs (Nat.pow 10 dropped)
  let (magnitude, dropped) :=
    if rounded < limit then (rounded, dropped) else (divideToEven rounded 10, dropped + 1)
  if dropped ≤ scale then
    ofParts? (if sum < 0 then -(magnitude : Int) else magnitude) (scale - dropped)
  else none

end Decimal

end DocumentFilter
