import DocumentFilter.Number.Binary64
import DocumentFilter.Number.Digits

/-! The shortest decimal that reads back as a given binary64 number.

The reals that round to a magnitude lie between two midpoints, and the midpoints
themselves belong to it when it is even. On each decimal grid only the two
neighbours of the number need a look. `shortest` takes the coarsest grid with a
neighbour in between; of two it takes the nearer, and of two equally near ones the
larger. All is counted in halves of the smallest positive number, so the midpoints
are whole. -/
namespace DocumentFilter.Shortest

open Binary64 (magnitudeUnits unitsOfOne)

/-- A grid of step `10 ^ place`, as a ratio of half units. -/
structure Grid where
  numerator : Nat
  denominator : Nat

def Grid.ofPlace (place : Int) : Grid :=
  if 0 ≤ place then ⟨Nat.pow 10 place.toNat * (2 * unitsOfOne), 1⟩
  else ⟨2 * unitsOfOne, Nat.pow 10 (-place).toNat⟩

/-- Does the `c`-th point of the grid read back as the magnitude? -/
def readsBack (grid : Grid) (magnitude c : Nat) : Bool :=
  let low := (magnitudeUnits (magnitude - 1) + magnitudeUnits magnitude) * grid.denominator
  let high := (magnitudeUnits magnitude + magnitudeUnits (magnitude + 1)) * grid.denominator
  let point := c * grid.numerator
  if magnitude % 2 = 0 then decide (low ≤ point) && decide (point ≤ high)
  else decide (low < point) && decide (point < high)

/-- The point of a grid nearest to the magnitude among those that read back as it. -/
def nearest? (grid : Grid) (magnitude : Nat) : Option Nat :=
  let value := 2 * magnitudeUnits magnitude * grid.denominator
  let below := value / grid.numerator
  let fromBelow := value % grid.numerator
  let lower := readsBack grid magnitude below
  let upper := readsBack grid magnitude (below + 1)
  if lower && (!upper || decide (2 * fromBelow < grid.numerator)) then some below
  else if upper then some (below + 1)
  else none

/-- The first grid with a hit, from `place` down through `fuel` finer ones. -/
def search (magnitude : Nat) (place : Int) : (fuel : Nat) → Nat × Int
  | 0 => (0, place)
  | fuel + 1 =>
    match nearest? (Grid.ofPlace place) magnitude with
    | some c => (c, place)
    | none => search magnitude (place - 1) fuel

/-- The digits and the place of the last one, for a positive finite magnitude. The
coarsest grid tried has one point below the number's leading digit, and the
grid of place `-1074` has the number itself. -/
def shortest (magnitude : Nat) : Nat × Int :=
  let whole := magnitudeUnits magnitude / unitsOfOne
  let top := if whole = 0 then 0 else (Nat.toDigits 10 whole).length
  search magnitude top (top + 1075)

/-- A finite number in positional notation, whatever its size: no exponent, and a
point only before a fraction. -/
def text (x : Binary64) : List Char :=
  let (digits, place) := if x.magnitude = 0 then (0, 0) else shortest x.magnitude
  (if x.isNegative then ['-'] else []) ++
    if 0 ≤ place then Digits.positional (digits * Nat.pow 10 place.toNat) 0
    else Digits.positional digits (-place).toNat

end DocumentFilter.Shortest
