import DocumentFilter.Number.Decimal
import Mathlib.Algebra.Order.Field.Rat
import Mathlib.Algebra.Order.Ring.Cast
import Mathlib.Order.Monotone.Basic

/-! Decimals as rational numbers.

The order of decimals compares coefficients on a common grid of twenty-eight places. It is the
order of the numbers, whatever the places that the two sides are written with. -/
namespace DocumentFilter.Decimal

/-- The number that the decimal stands for. -/
def toRat (d : Decimal) : ℚ := d.coefficient / 10 ^ d.scale

theorem scaled_eq (d : Decimal) : (d.scaled : ℚ) = d.toRat * 10 ^ 28 := by
  have hplaces : (10 : ℚ) ^ 28 = 10 ^ d.scale * 10 ^ (28 - d.scale) := by
    rw [← pow_add, Nat.add_sub_cancel' d.scale_le]
  have hne : (10 : ℚ) ^ d.scale ≠ 0 := pow_ne_zero _ (by decide)
  rw [toRat, hplaces, ← mul_assoc, div_mul_cancel₀ _ hne, scaled, Nat.pow_eq]
  push_cast
  rfl

theorem compare_eq_cmp (a b : Decimal) : a.compare b = cmp a.toRat b.toRat := by
  have hgrid : StrictMono fun q : ℚ => q * 10 ^ 28 := fun _ _ h =>
    mul_lt_mul_of_pos_right h (pow_pos (by decide) 28)
  calc a.compare b = cmp a.scaled b.scaled := (cmp_eq_compare ..).symm
    _ = cmp (a.scaled : ℚ) b.scaled := (Int.cast_strictMono.cmp_map_eq ..).symm
    _ = cmp (a.toRat * 10 ^ 28) (b.toRat * 10 ^ 28) := by rw [scaled_eq, scaled_eq]
    _ = cmp a.toRat b.toRat := hgrid.cmp_map_eq ..

theorem compare_eq_eq_iff (a b : Decimal) : a.compare b = .eq ↔ a.toRat = b.toRat := by
  rw [compare_eq_cmp, cmp_eq_eq_iff]

end DocumentFilter.Decimal
