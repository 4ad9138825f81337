import DocumentFilter.Proofs.Number.Rounding
import Mathlib.Algebra.Order.Field.Rat
import Mathlib.Algebra.Order.Ring.Cast
import Mathlib.Tactic.Positivity

/-! The nearest number.

Rounding is known so far by what it does not get past. It also picks the closest: no number is
closer to a ratio than the one it is rounded to, and if another is as close, the ratio stands in
the middle of two neighbours and goes to the even one (`nearestMagnitude_closest`). That singles
out one number for every whole number that is not too large (`isNearest_intCast_iff`). -/
namespace DocumentFilter.Binary64

/-! ### Magnitudes -/

/-- Between two neighbours of a ladder, the closer one is closest of all. -/
theorem closest_of_half {rungs : Nat → Nat} (hmono : StrictMono rungs) {m up n : Nat} (k : Nat)
    (hat : rungs m ≤ n) (hbefore : n < rungs (m + 1))
    (hhalf : up = 0 ∧ (2 * n < rungs m + rungs (m + 1) ∨
          2 * n = rungs m + rungs (m + 1) ∧ m % 2 = 0) ∨
        up = 1 ∧ (rungs m + rungs (m + 1) < 2 * n ∨
          2 * n = rungs m + rungs (m + 1) ∧ m % 2 = 1)) :
    (rungs (m + up) - n : Int).natAbs ≤ (rungs k - n : Int).natAbs ∧
      ((rungs (m + up) - n : Int).natAbs = (rungs k - n : Int).natAbs →
        k = m + up ∨ (m + up) % 2 = 0 ∧ k % 2 = 1) := by
  have hbelow : k < m → rungs k < rungs m := fun h => hmono h
  have habove : m + 1 < k → rungs (m + 1) < rungs k := fun h => hmono h
  have hat' : k = m → rungs k = rungs m := congrArg rungs
  have hbefore' : k = m + 1 → rungs k = rungs (m + 1) := congrArg rungs
  rcases hhalf with ⟨rfl, hhalf⟩ | ⟨rfl, hhalf⟩
  · rw [Nat.add_zero]
    omega
  · omega

/-- No finite magnitude is closer to a count of units than the one it is rounded to. One that is as
close is odd, and the count was rounded to an even one. -/
theorem nearestMagnitude_closest (n : Nat) {k : Nat} (hk : k < infiniteMagnitude) :
    (magnitudeUnits (nearestMagnitude n 1) - n : Int).natAbs ≤ (magnitudeUnits k - n : Int).natAbs ∧
      ((magnitudeUnits (nearestMagnitude n 1) - n : Int).natAbs =
          (magnitudeUnits k - n : Int).natAbs →
        k = nearestMagnitude n 1 ∨ nearestMagnitude n 1 % 2 = 0 ∧ k % 2 = 1) := by
  obtain ⟨m, up, heq, hat, hbefore, hhalf⟩ := exists_nearestMagnitude_eq_half n Nat.one_pos
  rw [Nat.mul_one] at hat
  rw [Nat.mul_one] at hbefore
  simp only [Nat.mul_one] at hhalf
  by_cases hbeyond : infiniteMagnitude ≤ m
  · -- Past the last number all numbers are on one side.
    have hrounded : nearestMagnitude n 1 = infiniteMagnitude := by omega
    have hlast := magnitudeUnits_strictMono.monotone hbeyond
    have hless := magnitudeUnits_strictMono hk
    rw [hrounded]
    omega
  · have hrounded : nearestMagnitude n 1 = m + up := by omega
    rw [hrounded]
    exact closest_of_half magnitudeUnits_strictMono k hat hbefore hhalf

/-! ### Words -/

theorem magnitude_nearest (n : Int) : (nearest n).magnitude = nearestMagnitude n.natAbs 1 :=
  magnitude_ofMagnitude _ (Nat.lt_of_le_of_lt (nearestMagnitude_le ..) (by decide))

/-- No finite word is closer to a count of units than the one it is rounded to. -/
theorem nearest_closest (n : Int) {y : Binary64} (hy : y.isFinite = true) :
    ((nearest n).units - n).natAbs ≤ (y.units - n).natAbs ∧
      (((nearest n).units - n).natAbs = (y.units - n).natAbs →
        y.units = (nearest n).units ∨ (nearest n).magnitude % 2 = 0 ∧ y.magnitude % 2 = 1) := by
  obtain ⟨hle, htie⟩ := nearestMagnitude_closest n.natAbs (of_decide_eq_true hy)
  obtain ⟨hzero, -⟩ := nearestMagnitude_closest n.natAbs (k := 0) (by decide)
  have hnone : magnitudeUnits 0 = 0 := by decide
  rw [hnone] at hzero
  have hsame : y.magnitude = nearestMagnitude n.natAbs 1 →
      magnitudeUnits y.magnitude = magnitudeUnits (nearestMagnitude n.natAbs 1) := congrArg _
  rw [magnitude_nearest, nearest, units_ofUnits, units]
  simp only [decide_eq_true_eq]
  split <;> split <;> omega

/-! ### Exact values -/

/-- The number that a finite word stands for. -/
def toRat (x : Binary64) : ℚ := x.units / unitsOfOne

theorem unitsOfOne_rat_pos : (0 : ℚ) < unitsOfOne := by exact_mod_cast unitsOfOne_pos

theorem cmp_div_unitsOfOne (m n : Int) :
    cmp (m / unitsOfOne : ℚ) (n / unitsOfOne) = cmp m n := by
  have hmono : StrictMono fun k : Int => (k / unitsOfOne : ℚ) := fun _ _ h =>
    div_lt_div_of_pos_right (Int.cast_lt.mpr h) unitsOfOne_rat_pos
  exact hmono.cmp_map_eq m n

theorem div_unitsOfOne_inj (m n : Int) : (m / unitsOfOne : ℚ) = n / unitsOfOne ↔ m = n := by
  rw [div_left_inj' unitsOfOne_rat_pos.ne', Int.cast_inj]

theorem intCast_eq (n : Int) : (n : ℚ) = (n * unitsOfOne : Int) / unitsOfOne := by
  rw [Int.cast_mul, Int.cast_natCast, mul_div_cancel_right₀ _ unitsOfOne_rat_pos.ne']

theorem toRat_eq_iff (x y : Binary64) : x.toRat = y.toRat ↔ x.units = y.units :=
  div_unitsOfOne_inj x.units y.units

theorem toRat_eq_intCast_iff (x : Binary64) (n : Int) : x.toRat = n ↔ x.units = n * unitsOfOne := by
  rw [intCast_eq]
  exact div_unitsOfOne_inj x.units (n * unitsOfOne)

/-- Words are ordered as their ordinals, which is as their units. -/
theorem units_lt_units_iff (x y : Binary64) : x.units < y.units ↔ x.ordinal < y.ordinal := by
  have hlt : magnitudeUnits x.magnitude < magnitudeUnits y.magnitude ↔ x.magnitude < y.magnitude :=
    magnitudeUnits_strictMono.lt_iff_lt
  have hgt : magnitudeUnits y.magnitude < magnitudeUnits x.magnitude ↔ y.magnitude < x.magnitude :=
    magnitudeUnits_strictMono.lt_iff_lt
  have hx := magnitudeUnits_eq_zero_iff x.magnitude
  have hy := magnitudeUnits_eq_zero_iff y.magnitude
  rw [ordinal, ordinal, units, units]
  split <;> split <;> omega

/-- **The order of words is that of the numbers** that they stand for. -/
theorem compare_eq_cmp {x y : Binary64} (hx : x.isNaN = false) (hy : y.isNaN = false) :
    x.compare y = some (cmp x.toRat y.toRat) := by
  have hlt := units_lt_units_iff x y
  have hgt := units_lt_units_iff y x
  have hordinal : cmp x.ordinal y.ordinal = cmp x.units y.units := by
    cases h : cmp x.units y.units with
    | lt =>
      rw [cmp_eq_lt_iff] at h ⊢
      exact hlt.mp h
    | eq =>
      rw [cmp_eq_eq_iff] at h ⊢
      omega
    | gt =>
      rw [cmp_eq_gt_iff] at h ⊢
      exact hgt.mp h
  rw [compare, hx, hy, Bool.or_false, if_neg Bool.false_ne_true, ← cmp_eq_compare, hordinal, toRat,
    toRat, cmp_div_unitsOfOne]

/-! ### The nearest word -/

/-- No finite word is closer to the number, and if another is as close, this one is even. -/
structure IsNearest (x : Binary64) (q : ℚ) : Prop where
  closest : ∀ y : Binary64, y.isFinite = true → |x.toRat - q| ≤ |y.toRat - q|
  even : ∀ y : Binary64, y.isFinite = true → |x.toRat - q| = |y.toRat - q| →
    y.toRat = x.toRat ∨ x.magnitude % 2 = 0

theorem abs_toRat_sub (x : Binary64) (n : Int) :
    |x.toRat - n| = ((x.units - n * unitsOfOne).natAbs : ℚ) / unitsOfOne := by
  rw [intCast_eq, toRat, ← sub_div, abs_div, abs_of_pos unitsOfOne_rat_pos, ← Int.cast_sub,
    Nat.cast_natAbs, Int.cast_abs]

theorem abs_toRat_sub_le_iff (x y : Binary64) (n : Int) :
    |x.toRat - n| ≤ |y.toRat - n| ↔
      (x.units - n * unitsOfOne).natAbs ≤ (y.units - n * unitsOfOne).natAbs := by
  rw [abs_toRat_sub, abs_toRat_sub, div_le_div_iff_of_pos_right unitsOfOne_rat_pos, Nat.cast_le]

theorem abs_toRat_sub_eq_iff (x y : Binary64) (n : Int) :
    |x.toRat - n| = |y.toRat - n| ↔
      (x.units - n * unitsOfOne).natAbs = (y.units - n * unitsOfOne).natAbs := by
  rw [le_antisymm_iff, abs_toRat_sub_le_iff, abs_toRat_sub_le_iff, ← le_antisymm_iff]

theorem magnitude_eq_of_units_eq {x y : Binary64} (h : x.units = y.units) :
    x.magnitude = y.magnitude := by
  have habs := congrArg Int.natAbs h
  rw [natAbs_units, natAbs_units] at habs
  exact magnitudeUnits_strictMono.injective habs

theorem nearestMagnitude_le_of_le_two_pow {n d e : Nat} (hpos : 0 < d) (h : n ≤ 2 ^ e * d) :
    nearestMagnitude n d ≤ e * 2 ^ 52 + 2 ^ 53 := by
  obtain ⟨m, hm, hunits⟩ := exists_magnitude (k := 1) (by decide) e
  rw [← Nat.one_mul (2 ^ e), ← hunits] at h
  exact (nearestMagnitude_le_of_le hpos h).trans hm

theorem dvd_magnitudeUnits_of_le {m u e : Nat} (hu : u = 2 ^ e) (h : 2 ^ 53 * u ≤ magnitudeUnits m) :
    u ∣ magnitudeUnits m := by
  subst hu
  rw [magnitudeUnits_eq] at h ⊢
  have hshift : e ≤ shift m := by
    by_contra hlt
    have hpow : 2 ^ shift m ≤ 2 ^ e := Nat.pow_le_pow_right (by decide) (Nat.le_of_not_le hlt)
    have hless := Nat.mul_lt_mul_of_lt_of_le (significand_lt m) hpow (Nat.two_pow_pos e)
    exact absurd h (Nat.not_le.mpr hless)
  exact (Nat.pow_dvd_pow 2 hshift).mul_left _

/-- Whole numbers are rounded to whole numbers, for from `2 ^ 53` on words have no fraction. -/
theorem exists_toRat_ofInt_eq (n : Int) : ∃ m : Int, (ofInt n).toRat = m := by
  suffices hdvd : (unitsOfOne : Int) ∣ (ofInt n).units by
    obtain ⟨m, hm⟩ := hdvd
    exact ⟨m, by rw [toRat_eq_intCast_iff, hm, Int.mul_comm]⟩
  by_cases hsmall : n.natAbs ≤ 2 ^ 53
  · rw [units_ofInt hsmall]
    exact Int.dvd_mul_left ..
  · obtain ⟨m, hm, hunits⟩ := isUnits_whole (n := 2 ^ 53) (by decide)
    rw [Int.natAbs_mul, Int.natAbs_natCast] at hunits
    have hreached : magnitudeUnits m * 1 ≤ (n * unitsOfOne).natAbs := by
      rw [Nat.mul_one, hunits, Int.natAbs_mul, Int.natAbs_natCast]
      exact Nat.mul_le_mul_right _ (Nat.le_of_not_le hsmall)
    have hle := magnitudeUnits_strictMono.monotone (le_nearestMagnitude Nat.one_pos hm.le hreached)
    rw [hunits] at hle
    rw [ofInt_eq_nearest, Int.ofNat_dvd_left, natAbs_units, magnitude_nearest]
    exact dvd_magnitudeUnits_of_le unitsOfOne_eq hle

theorem two_pow_mul_unitsOfOne (e : Nat) : 2 ^ e * unitsOfOne = 2 ^ (e + 1074) := by
  rw [unitsOfOne_eq, ← Nat.pow_add]

theorem natAbs_toInt_le (n : Int64) : n.toInt.natAbs ≤ 2 ^ 64 := by
  have hlow := n.le_toInt
  have hhigh := n.toInt_lt
  omega

/-- Whole numbers of 64 bits are far from the infinities. -/
theorem isFinite_ofInt_of_le {n : Int} (h : n.natAbs ≤ 2 ^ 64) : (ofInt n).isFinite = true := by
  have hle : (n * unitsOfOne).natAbs ≤ 2 ^ (64 + 1074) * 1 := by
    calc (n * unitsOfOne).natAbs = n.natAbs * unitsOfOne := by
          rw [Int.natAbs_mul, Int.natAbs_natCast]
      _ ≤ 2 ^ 64 * unitsOfOne := Nat.mul_le_mul_right unitsOfOne h
      _ = 2 ^ (64 + 1074) * 1 := by rw [two_pow_mul_unitsOfOne, Nat.mul_one]
  rw [ofInt_eq_nearest, isFinite, decide_eq_true_eq, magnitude_nearest]
  exact Nat.lt_of_le_of_lt (nearestMagnitude_le_of_le_two_pow Nat.one_pos hle) (by decide)

/-- **A whole number has one nearest word**, the one that it is rounded to. -/
theorem isNearest_intCast_iff {n : Int} (hn : n.natAbs ≤ 2 ^ 64) {x : Binary64}
    (hx : x.isFinite = true) : x.IsNearest n ↔ x.toRat = (ofInt n).toRat := by
  have hfinite := isFinite_ofInt_of_le hn
  rw [ofInt_eq_nearest] at hfinite ⊢
  obtain ⟨hle, htie⟩ := nearest_closest (n * unitsOfOne) hx
  constructor
  · intro h
    have hge := (abs_toRat_sub_le_iff ..).mp (h.closest _ hfinite)
    have heven := h.even _ hfinite
    rw [abs_toRat_sub_eq_iff, toRat_eq_iff] at heven
    rw [toRat_eq_iff]
    omega
  · intro h
    rw [toRat_eq_iff] at h
    refine ⟨fun y hy => ?_, fun y hy heq => ?_⟩
    · rw [abs_toRat_sub_le_iff, h]
      exact (nearest_closest _ hy).1
    · rw [abs_toRat_sub_eq_iff, h] at heq
      rw [toRat_eq_iff, h, magnitude_eq_of_units_eq h]
      exact ((nearest_closest _ hy).2 heq).imp_right And.left

/-- Rounding may bring a whole number to a word that it is not, but it carries it past none. -/
theorem cmp_toRat_ofInt {n : Int} {x : Binary64} (hx : x.isFinite = true)
    (hne : (ofInt n).toRat ≠ x.toRat) : cmp (ofInt n).toRat x.toRat = cmp (n : ℚ) x.toRat := by
  have hunits := isUnits_units hx
  rw [Ne, toRat_eq_iff, ofInt_eq_nearest] at hne
  rw [ofInt_eq_nearest, intCast_eq, toRat, toRat, cmp_div_unitsOfOne, cmp_div_unitsOfOne]
  rcases Int.lt_trichotomy (n * unitsOfOne) x.units with hlt | heq | hgt
  · have hle := hunits.units_nearest_le hlt.le
    rw [(cmp_eq_lt_iff ..).mpr hlt, cmp_eq_lt_iff]
    omega
  · rw [heq, hunits.units_nearest] at hne
    exact absurd rfl hne
  · have hge := hunits.le_units_nearest hgt.le
    rw [(cmp_eq_gt_iff ..).mpr hgt, cmp_eq_gt_iff]
    omega

end DocumentFilter.Binary64
