import DocumentFilter.Proofs.Number.Binary64
import DocumentFilter.Proofs.Number.Flooring
import Mathlib.Order.Monotone.Basic

/-! Rounding to the nearest number.

The units of magnitudes go up with the magnitudes, by as many as the exponent says. So a ratio is
rounded by finding its place among them, and what is rounded does not get past any number that it
had not got past before (`le_nearestMagnitude`, `nearestMagnitude_le_of_le`): a ratio between two
numbers stays between them, and a number stays itself. Whole numbers up to `2 ^ 53` are numbers, so
the floor of what is rounded moves by one at most. -/
namespace DocumentFilter.Binary64

/-! ### The ladder of magnitudes -/

theorem magnitudeUnits_eq (m : Nat) : magnitudeUnits m = significand m * 2 ^ shift m :=
  Nat.shiftLeft_eq ..

theorem magnitudeUnits_succ (m : Nat) :
    magnitudeUnits (m + 1) = magnitudeUnits m + 2 ^ shift m := by
  rw [magnitudeUnits_eq, magnitudeUnits_eq]
  by_cases hfull : (m + 1) % 2 ^ 52 = 0 ∧ 2 ^ 53 ≤ m + 1
  · -- The significand is full: it falls back to a half and the exponent goes up.
    have hnext : shift (m + 1) = shift m + 1 := by
      unfold shift
      omega
    have hsignificand : significand m = 2 ^ 53 - 1 := by
      unfold significand
      split <;> omega
    have hsignificand' : significand (m + 1) = 2 ^ 52 := by
      unfold significand
      split <;> omega
    rw [hnext, hsignificand, hsignificand', Nat.pow_succ]
    omega
  · have hsame : shift (m + 1) = shift m := by
      unfold shift
      omega
    have hsignificand : significand (m + 1) = significand m + 1 := by
      unfold significand
      split <;> split <;> omega
    rw [hsame, hsignificand, Nat.add_mul, Nat.one_mul]

theorem magnitudeUnits_strictMono : StrictMono magnitudeUnits := by
  refine strictMono_nat_of_lt_succ fun m => ?_
  rw [magnitudeUnits_succ]
  exact Nat.lt_add_of_pos_right (Nat.two_pow_pos _)

/-- A magnitude put together from an exponent and a significand, which may just be full. -/
theorem magnitudeUnits_add {e k : Nat} (hk : k ≤ 2 ^ 53) (h : e = 0 ∨ 2 ^ 52 ≤ k) :
    magnitudeUnits (e * 2 ^ 52 + k) = k * 2 ^ e := by
  rw [magnitudeUnits_eq]
  by_cases hfull : k = 2 ^ 53
  · have hshift : shift (e * 2 ^ 52 + k) = e + 1 := by
      unfold shift
      omega
    have hsignificand : significand (e * 2 ^ 52 + k) = 2 ^ 52 := by
      unfold significand
      split <;> omega
    rw [hshift, hsignificand, hfull, Nat.pow_succ]
    omega
  · have hshift : shift (e * 2 ^ 52 + k) = e := by
      unfold shift
      omega
    have hsignificand : significand (e * 2 ^ 52 + k) = k := by
      unfold significand
      split <;> omega
    rw [hshift, hsignificand]

/-- Whatever is a small multiple of a power of two is a number. -/
theorem exists_magnitude {k : Nat} (hk : k ≤ 2 ^ 53) (e : Nat) :
    ∃ m ≤ e * 2 ^ 52 + 2 ^ 53, magnitudeUnits m = k * 2 ^ e := by
  induction e generalizing k with
  | zero => exact ⟨0 * 2 ^ 52 + k, Nat.add_le_add_left hk _, magnitudeUnits_add hk (.inl rfl)⟩
  | succ e ih =>
    by_cases hlarge : 2 ^ 52 ≤ k
    · exact ⟨(e + 1) * 2 ^ 52 + k, Nat.add_le_add_left hk _, magnitudeUnits_add hk (.inr hlarge)⟩
    · obtain ⟨m, hm, hunits⟩ := ih (k := 2 * k) (by omega)
      have hle : e * 2 ^ 52 ≤ (e + 1) * 2 ^ 52 := Nat.mul_le_mul_right _ (Nat.le_succ e)
      refine ⟨m, Nat.le_trans hm (Nat.add_le_add_right hle _), ?_⟩
      rw [hunits, Nat.pow_succ, Nat.mul_comm 2 k, Nat.mul_assoc, Nat.mul_comm 2]

/-! ### The nearest magnitude -/

/-- The significand that is kept of a quotient is full, or nothing was dropped. -/
theorem kept_bounds (q : Nat) :
    q / 2 ^ (q.log2 - 52) < 2 ^ 53 ∧ (q.log2 - 52 = 0 ∨ 2 ^ 52 ≤ q / 2 ^ (q.log2 - 52)) := by
  have hlt : q < 2 ^ (q.log2 + 1) := Nat.lt_log2_self
  by_cases hsmall : q.log2 ≤ 52
  · have hdropped : q.log2 - 52 = 0 := by omega
    have hle : 2 ^ (q.log2 + 1) ≤ 2 ^ 53 := Nat.pow_le_pow_right (by decide) (by omega)
    rw [hdropped, Nat.pow_zero, Nat.div_one]
    exact ⟨Nat.lt_of_lt_of_le hlt hle, .inl rfl⟩
  · have hne : q ≠ 0 := by
      rintro rfl
      exact hsmall (by decide)
    have htop : 53 + (q.log2 - 52) = q.log2 + 1 := by omega
    have hbottom : 52 + (q.log2 - 52) = q.log2 := by omega
    constructor
    · rw [Nat.div_lt_iff_lt_mul (Nat.two_pow_pos _), ← Nat.pow_add, htop]
      exact hlt
    · rw [Nat.le_div_iff_mul_le (Nat.two_pow_pos _), ← Nat.pow_add, hbottom]
      exact .inr (Nat.log2_self_le hne)

/-- Before the last bit is rounded, a ratio stands at a magnitude or between it and the next. It is
rounded up past the middle of the two, and in the middle from an odd magnitude. -/
theorem exists_nearestMagnitude_eq_half (numerator : Nat) {denominator : Nat}
    (hpos : 0 < denominator) :
    ∃ m up, nearestMagnitude numerator denominator = min (m + up) infiniteMagnitude ∧
      magnitudeUnits m * denominator ≤ numerator ∧
      numerator < magnitudeUnits (m + 1) * denominator ∧
      (up = 0 ∧
          (2 * numerator < magnitudeUnits m * denominator + magnitudeUnits (m + 1) * denominator ∨
            2 * numerator = magnitudeUnits m * denominator + magnitudeUnits (m + 1) * denominator ∧
              m % 2 = 0) ∨
        up = 1 ∧
          (magnitudeUnits m * denominator + magnitudeUnits (m + 1) * denominator < 2 * numerator ∨
            2 * numerator = magnitudeUnits m * denominator + magnitudeUnits (m + 1) * denominator ∧
              m % 2 = 1)) := by
  obtain ⟨hkept, hfull⟩ := kept_bounds (numerator / denominator)
  generalize hdropped : (numerator / denominator).log2 - 52 = dropped at hkept hfull
  have hstep : denominator <<< dropped = denominator * 2 ^ dropped := Nat.shiftLeft_eq ..
  have hsteppos : 0 < denominator * 2 ^ dropped := Nat.mul_pos hpos (Nat.two_pow_pos _)
  rw [Nat.div_div_eq_div_mul] at hkept hfull
  generalize hquotient : numerator / (denominator * 2 ^ dropped) = kept at hkept hfull
  have hdiv := Nat.div_add_mod numerator (denominator * 2 ^ dropped)
  rw [hquotient] at hdiv
  have hmod := Nat.mod_lt numerator hsteppos
  have hunits : magnitudeUnits (dropped * 2 ^ 52 + kept) = kept * 2 ^ dropped :=
    magnitudeUnits_add hkept.le hfull
  have hnext : magnitudeUnits (dropped * 2 ^ 52 + (kept + 1)) = (kept + 1) * 2 ^ dropped :=
    magnitudeUnits_add hkept (hfull.imp_right fun h => Nat.le_succ_of_le h)
  have hat : magnitudeUnits (dropped * 2 ^ 52 + kept) * denominator =
      denominator * 2 ^ dropped * kept := by
    rw [hunits, Nat.mul_assoc, Nat.mul_comm, Nat.mul_comm (2 ^ dropped)]
  have hbefore : magnitudeUnits (dropped * 2 ^ 52 + kept + 1) * denominator =
      denominator * 2 ^ dropped * kept + denominator * 2 ^ dropped := by
    rw [Nat.add_assoc, hnext, Nat.mul_assoc, Nat.mul_comm, Nat.mul_comm (2 ^ dropped), Nat.mul_succ]
  generalize hup : (decide (2 * (numerator % (denominator * 2 ^ dropped)) >
    denominator * 2 ^ dropped) || 2 * (numerator % (denominator * 2 ^ dropped)) ==
      denominator * 2 ^ dropped && kept % 2 == 1) = up
  have heq : nearestMagnitude numerator denominator =
      min (dropped * 2 ^ 52 + kept + (if up then 1 else 0)) infiniteMagnitude := by
    simp only [nearestMagnitude, hdropped, hstep, hquotient, hup]
    rfl
  refine ⟨_, _, heq, by omega, by omega, ?_⟩
  split
  · next htrue =>
    rw [htrue, Bool.or_eq_true, decide_eq_true_eq, Bool.and_eq_true, beq_iff_eq, beq_iff_eq] at hup
    exact .inr ⟨rfl, by omega⟩
  · next hfalse =>
    rw [Bool.not_eq_true] at hfalse
    rw [hfalse, Bool.or_eq_false_iff, decide_eq_false_iff_not, Bool.and_eq_false_iff,
      beq_eq_false_iff_ne, beq_eq_false_iff_ne] at hup
    exact .inl ⟨rfl, by omega⟩

/-- A ratio that stands at a magnitude is not rounded up. -/
theorem exists_nearestMagnitude_eq (numerator : Nat) {denominator : Nat} (hpos : 0 < denominator) :
    ∃ m up, nearestMagnitude numerator denominator = min (m + up) infiniteMagnitude ∧
      magnitudeUnits m * denominator ≤ numerator ∧
      numerator < magnitudeUnits (m + 1) * denominator ∧
      (up = 0 ∨ up = 1 ∧ magnitudeUnits m * denominator < numerator) := by
  obtain ⟨m, up, heq, hat, hbefore, hhalf⟩ := exists_nearestMagnitude_eq_half numerator hpos
  exact ⟨m, up, heq, hat, hbefore, by omega⟩

section
variable {m numerator denominator : Nat} (hpos : 0 < denominator)
include hpos

/-- A magnitude that a ratio has reached is not above the rounded ratio. -/
theorem le_nearestMagnitude (hm : m ≤ infiniteMagnitude)
    (h : magnitudeUnits m * denominator ≤ numerator) :
    m ≤ nearestMagnitude numerator denominator := by
  obtain ⟨n, up, heq, -, hbefore, -⟩ := exists_nearestMagnitude_eq numerator hpos
  have hlt : magnitudeUnits m < magnitudeUnits (n + 1) :=
    Nat.lt_of_mul_lt_mul_right (Nat.lt_of_le_of_lt h hbefore)
  have hle : m ≤ n := Nat.lt_succ_iff.mp (magnitudeUnits_strictMono.lt_iff_lt.mp hlt)
  rw [heq]
  omega

/-- A magnitude that a ratio has not got past is not below the rounded ratio. -/
theorem nearestMagnitude_le_of_le (h : numerator ≤ magnitudeUnits m * denominator) :
    nearestMagnitude numerator denominator ≤ m := by
  obtain ⟨n, up, heq, hat, -, hup⟩ := exists_nearestMagnitude_eq numerator hpos
  have hle : n ≤ m := magnitudeUnits_strictMono.le_iff_le.mp
    (Nat.le_of_mul_le_mul_right (Nat.le_trans hat h) hpos)
  rw [heq]
  rcases hup with rfl | ⟨rfl, habove⟩
  · omega
  · have hlt : n < m := magnitudeUnits_strictMono.lt_iff_lt.mp
      (Nat.lt_of_mul_lt_mul_right (Nat.lt_of_lt_of_le habove h))
    omega

/-- A number is rounded to itself. -/
theorem nearestMagnitude_self (hm : m ≤ infiniteMagnitude) :
    nearestMagnitude (magnitudeUnits m * denominator) denominator = m :=
  Nat.le_antisymm (nearestMagnitude_le_of_le hpos (Nat.le_refl _))
    (le_nearestMagnitude hpos hm (Nat.le_refl _))

end

/-! ### Units of words -/

theorem natAbs_units (x : Binary64) : x.units.natAbs = magnitudeUnits x.magnitude := by
  unfold units
  split <;> omega

theorem units_nonpos {x : Binary64} (h : x.isNegative = true) : x.units ≤ 0 := by
  rw [units, if_pos h]
  omega

theorem units_nonneg {x : Binary64} (h : x.isNegative = false) : 0 ≤ x.units := by
  rw [units, if_neg (Bool.not_eq_true _ ▸ h)]
  omega

theorem units_eq_zero_iff (x : Binary64) : x.units = 0 ↔ x.magnitude = 0 := by
  rw [← Int.natAbs_eq_zero, natAbs_units, magnitudeUnits_eq_zero_iff]

/-- Away from zero the sign bit is the sign. -/
theorem isNegative_iff {x : Binary64} (h : x.units ≠ 0) : x.isNegative = true ↔ x.units < 0 := by
  cases hneg : x.isNegative
  · have := units_nonneg hneg
    simpa using this
  · have := units_nonpos hneg
    simp only [true_iff]
    omega

theorem units_ofMagnitude (negative : Bool) {m : Nat} (h : m < 0x8000000000000000) :
    (ofMagnitude negative m).units =
      if negative then -(magnitudeUnits m : Int) else magnitudeUnits m := by
  rw [units, magnitude_ofMagnitude negative h, isNegative_ofMagnitude negative h]

theorem units_ofUnits (negative : Bool) (numerator denominator : Nat) :
    (ofUnits negative numerator denominator).units =
      if negative then -(magnitudeUnits (nearestMagnitude numerator denominator) : Int)
      else magnitudeUnits (nearestMagnitude numerator denominator) :=
  units_ofMagnitude negative (Nat.lt_of_le_of_lt (nearestMagnitude_le ..) (by decide))

/-- Two numbers are equal just when they have equally many units. -/
theorem equals_iff_units_eq {x y : Binary64} (hx : x.isNaN = false) (hy : y.isNaN = false) :
    x.equals y = true ↔ x.units = y.units := by
  have hinjective : magnitudeUnits x.magnitude = magnitudeUnits y.magnitude ↔
      x.magnitude = y.magnitude := magnitudeUnits_strictMono.injective.eq_iff
  have hx0 := magnitudeUnits_eq_zero_iff x.magnitude
  have hy0 := magnitudeUnits_eq_zero_iff y.magnitude
  rw [equals, beq_iff_eq, compare, hx, hy, Bool.or_false, if_neg Bool.false_ne_true,
    Option.some.injEq, Int.compare_eq_eq, ordinal, ordinal, units, units]
  split <;> split <;> omega

/-! ### Rounding on both sides of zero -/

/-- The units of some finite word. -/
def IsUnits (n : Int) : Prop := ∃ m < infiniteMagnitude, magnitudeUnits m = n.natAbs

/-- The word closest to a signed count of units. -/
def nearest (n : Int) : Binary64 := ofUnits (decide (n < 0)) n.natAbs 1

theorem isFinite_of_isUnits {x : Binary64} (h : IsUnits x.units) : x.isFinite = true := by
  obtain ⟨m, hm, hunits⟩ := h
  rw [natAbs_units] at hunits
  exact decide_eq_true (magnitudeUnits_strictMono.injective hunits ▸ hm)

theorem isUnits_units {x : Binary64} (hx : x.isFinite = true) : IsUnits x.units :=
  ⟨x.magnitude, of_decide_eq_true hx, (natAbs_units x).symm⟩

theorem IsUnits.neg {n : Int} (h : IsUnits n) : IsUnits (-n) := by
  rwa [IsUnits, Int.natAbs_neg]

theorem units_nearest_neg (n : Int) : (nearest (-n)).units = -(nearest n).units := by
  by_cases hzero : n = 0
  · subst hzero
    decide
  · rw [nearest, nearest, units_ofUnits, units_ofUnits, Int.natAbs_neg]
    simp only [decide_eq_true_eq]
    split <;> split <;> omega

/-- What has not got below a number is not rounded below it. -/
theorem IsUnits.le_units_nearest {k n : Int} (hk : IsUnits k) (h : k ≤ n) :
    k ≤ (nearest n).units := by
  obtain ⟨m, hm, hunits⟩ := hk
  rw [nearest, units_ofUnits]
  simp only [decide_eq_true_eq]
  split
  · have hle : n.natAbs ≤ magnitudeUnits m * 1 := by omega
    have := magnitudeUnits_strictMono.monotone (nearestMagnitude_le_of_le Nat.one_pos hle)
    omega
  · by_cases hneg : k ≤ 0
    · omega
    · have hle : magnitudeUnits m * 1 ≤ n.natAbs := by omega
      have := magnitudeUnits_strictMono.monotone (le_nearestMagnitude Nat.one_pos hm.le hle)
      omega

/-- What has not got above a number is not rounded above it. -/
theorem IsUnits.units_nearest_le {k n : Int} (hk : IsUnits k) (h : n ≤ k) :
    (nearest n).units ≤ k := by
  have hle := hk.neg.le_units_nearest (Int.neg_le_neg h)
  rw [units_nearest_neg] at hle
  exact Int.neg_le_neg_iff.mp hle

theorem IsUnits.units_nearest {n : Int} (h : IsUnits n) : (nearest n).units = n :=
  Int.le_antisymm (h.units_nearest_le (Int.le_refl _)) (h.le_units_nearest (Int.le_refl _))

/-! ### Whole numbers -/

theorem unitsOfOne_eq : unitsOfOne = 2 ^ 1074 := by
  unfold unitsOfOne
  generalize 1074 = exponent
  exact Nat.one_shiftLeft exponent

theorem unitsOfOne_pos : (0 : Int) < unitsOfOne := by decide +kernel

/-- Small multiples of powers of two that are not too large are numbers. -/
theorem isUnits_mul_two_pow {n : Int} (h : n.natAbs ≤ 2 ^ 53) {e : Nat} (he : e ≤ 1074) :
    IsUnits (n * (2 ^ e : Nat)) := by
  obtain ⟨m, hm, hunits⟩ := exists_magnitude h e
  have hle : e * 2 ^ 52 ≤ 1074 * 2 ^ 52 := Nat.mul_le_mul_right _ he
  refine ⟨m, Nat.lt_of_le_of_lt (hm.trans (Nat.add_le_add_right hle _)) (by decide), ?_⟩
  rw [hunits, Int.natAbs_mul, Int.natAbs_natCast]

/-- Whole numbers up to `2 ^ 53` are numbers. -/
theorem isUnits_whole {n : Int} (h : n.natAbs ≤ 2 ^ 53) : IsUnits (n * unitsOfOne) := by
  rw [unitsOfOne_eq]
  exact isUnits_mul_two_pow h (Nat.le_refl _)

theorem ofInt_eq_nearest (n : Int) : ofInt n = nearest (n * unitsOfOne) := by
  have hsign : n * unitsOfOne < 0 ↔ n < 0 := by
    constructor
    · exact fun h => Int.neg_of_mul_neg_left h unitsOfOne_pos
    · exact fun h => Int.mul_neg_of_neg_of_pos h unitsOfOne_pos
  rw [ofInt, ofRatio, nearest, Int.natAbs_mul, Int.natAbs_natCast, decide_eq_decide.mpr hsign]

theorem units_ofInt {n : Int} (h : n.natAbs ≤ 2 ^ 53) : (ofInt n).units = n * unitsOfOne := by
  rw [ofInt_eq_nearest, (isUnits_whole h).units_nearest]

theorem isFinite_ofInt {n : Int} (h : n.natAbs ≤ 2 ^ 53) : (ofInt n).isFinite = true :=
  isFinite_of_isUnits (units_ofInt h ▸ isUnits_whole h)

/-- A whole number other than zero is not rounded to zero. -/
theorem magnitude_ofInt_ne_zero {n : Int} (hne : n ≠ 0) : (ofInt n).magnitude ≠ 0 := by
  have hpos := unitsOfOne_pos
  rw [Ne, ← units_eq_zero_iff, ofInt_eq_nearest]
  rcases Int.lt_or_gt_of_ne hne with hneg | hpos'
  · have hone : IsUnits (-1 * unitsOfOne) := isUnits_whole (by decide)
    have hle := hone.units_nearest_le (Int.mul_le_mul_of_nonneg_right (Int.le_sub_one_of_lt hneg)
      hpos.le)
    omega
  · have hone : IsUnits (1 * unitsOfOne) := isUnits_whole (by decide)
    have hle := hone.le_units_nearest (Int.mul_le_mul_of_nonneg_right hpos' hpos.le)
    omega

/-- Below `2 ^ 53` a whole number is told from every other, also from those that are rounded. -/
theorem equals_ofInt_iff {m : Int} (hm : m.natAbs < 2 ^ 53) (n : Int) :
    (ofInt m).equals (ofInt n) = true ↔ m = n := by
  rw [equals_iff_units_eq (isNaN_ofInt m) (isNaN_ofInt n), units_ofInt hm.le]
  refine ⟨fun h => ?_, fun h => by rw [← h, units_ofInt hm.le]⟩
  rw [ofInt_eq_nearest] at h
  rcases Int.lt_trichotomy m n with hlt | heq | hgt
  · have habove : IsUnits ((m + 1) * unitsOfOne) := isUnits_whole (by omega)
    have hle := habove.le_units_nearest (Int.mul_le_mul_of_nonneg_right hlt unitsOfOne_pos.le)
    rw [← h] at hle
    have := Int.le_of_mul_le_mul_right hle unitsOfOne_pos
    omega
  · exact heq
  · have hbelow : IsUnits ((m - 1) * unitsOfOne) := isUnits_whole (by omega)
    have hle := hbelow.units_nearest_le
      (Int.mul_le_mul_of_nonneg_right (Int.le_sub_one_of_lt hgt) unitsOfOne_pos.le)
    rw [← h] at hle
    have := Int.le_of_mul_le_mul_right hle unitsOfOne_pos
    omega

/-- **Rounding moves the floor of a number up by one at most**, and only when no word stands
between the number and the next whole one. -/
theorem floor_nearest {n : Int} (hlow : (n.fdiv unitsOfOne).natAbs ≤ 2 ^ 53)
    (hhigh : (n.fdiv unitsOfOne + 1).natAbs ≤ 2 ^ 53) :
    (nearest n).floor = n.fdiv unitsOfOne ∨
      (nearest n).floor = n.fdiv unitsOfOne + 1 ∧
        ∀ k, IsUnits k → n ≤ k → (n.fdiv unitsOfOne + 1) * unitsOfOne ≤ k := by
  have hle : n.fdiv unitsOfOne * unitsOfOne ≤ n :=
    (Flooring.le_fdiv_iff unitsOfOne_pos).mp (Int.le_refl _)
  have hge : n < (n.fdiv unitsOfOne + 1) * unitsOfOne :=
    Int.lt_fdiv_add_one_mul_self n unitsOfOne_pos
  have hfloor := Flooring.fdiv_eq_or_eq_succ unitsOfOne_pos
    ((isUnits_whole hlow).le_units_nearest hle) ((isUnits_whole hhigh).units_nearest_le hge.le)
  refine hfloor.imp_right fun h => ⟨h, fun k hk hnk => ?_⟩
  exact ((Flooring.le_fdiv_iff unitsOfOne_pos).mp h.ge).trans (hk.units_nearest_le hnk)

/-- Below a whole number, and close to it, is another number. -/
theorem exists_isUnits_below {w : Int} (hw : w.natAbs < 2 ^ 53) :
    ∃ k, IsUnits k ∧ k < w * unitsOfOne ∧
      (w * unitsOfOne - k) * 2 ^ 52 ≤ max 1 w.natAbs * unitsOfOne := by
  have hlow : 2 ^ w.natAbs.log2 ≤ max 1 w.natAbs := by
    by_cases hzero : w.natAbs = 0
    · rw [hzero]
      decide
    · exact (Nat.log2_self_le hzero).trans (Nat.le_max_right ..)
  have hhigh : w.natAbs < 2 ^ (w.natAbs.log2 + 1) := Nat.lt_log2_self
  have hlog : w.natAbs.log2 < 53 :=
    (Nat.pow_lt_pow_iff_right (by decide)).mp (hlow.trans_lt (Nat.max_lt.mpr ⟨by decide, hw⟩))
  generalize w.natAbs.log2 = e at hlow hhigh hlog
  -- The whole number is so many steps of a grid that has one more below it.
  have hgrid : (unitsOfOne : Int) = (2 ^ (52 - e) : Nat) * (2 ^ (1022 + e) : Nat) := by
    have hexponent : 1074 = 52 - e + (1022 + e) := by omega
    rw [unitsOfOne_eq, hexponent, Nat.pow_add, Nat.cast_mul]
  have hcount : (w * (2 ^ (52 - e) : Nat)).natAbs < 2 ^ 53 := by
    have hsplit : 2 ^ 53 = 2 ^ (e + 1) * 2 ^ (52 - e) := by
      rw [← Nat.pow_add]
      congr 1
      omega
    rw [Int.natAbs_mul, Int.natAbs_natCast, hsplit]
    exact Nat.mul_lt_mul_of_pos_right hhigh (Nat.two_pow_pos _)
  have hdiff : w * unitsOfOne - (w * (2 ^ (52 - e) : Nat) - 1) * (2 ^ (1022 + e) : Nat) =
      (2 ^ (1022 + e) : Nat) := by
    rw [hgrid]
    ring
  have hpos : (0 : Int) < (2 ^ (1022 + e) : Nat) := Int.natCast_pos.mpr (Nat.two_pow_pos _)
  refine ⟨(w * (2 ^ (52 - e) : Nat) - 1) * (2 ^ (1022 + e) : Nat),
    isUnits_mul_two_pow (by omega) (by omega), by omega, ?_⟩
  have hstep : 2 ^ (1022 + e) * 2 ^ 52 = 2 ^ e * unitsOfOne := by
    rw [unitsOfOne_eq, ← Nat.pow_add, ← Nat.pow_add]
    congr 1
    omega
  rw [hdiff]
  exact_mod_cast hstep.trans_le (Nat.mul_le_mul_right _ hlow)

/-! ### Remainders -/

theorem significand_lt (m : Nat) : significand m < 2 ^ 53 := by
  unfold significand
  split <;> omega

/-- The remainder of two magnitudes is a magnitude: the finer of their grids has it. -/
theorem exists_magnitudeUnits_eq_mod (a : Nat) {b : Nat} (hb : b ≠ 0) :
    ∃ m ≤ a, magnitudeUnits m = magnitudeUnits a % magnitudeUnits b := by
  by_cases hlt : a < b
  · exact ⟨a, Nat.le_refl a, (Nat.mod_eq_of_lt (magnitudeUnits_strictMono hlt)).symm⟩
  · have hshift : shift b + (shift a - shift b) = shift a := by
      unfold shift
      omega
    have hpos : 0 < significand b := by
      unfold significand
      split <;> omega
    have hmod : magnitudeUnits a % magnitudeUnits b =
        significand a * 2 ^ (shift a - shift b) % significand b * 2 ^ shift b := by
      rw [magnitudeUnits_eq, magnitudeUnits_eq, ← hshift, Nat.pow_add, Nat.mul_comm (2 ^ shift b),
        ← Nat.mul_assoc, hshift, Nat.mul_mod_mul_right]
    have hsmall : significand a * 2 ^ (shift a - shift b) % significand b ≤ 2 ^ 53 :=
      (Nat.mod_lt _ hpos).le.trans (significand_lt b).le
    obtain ⟨m, -, hunits⟩ := exists_magnitude hsmall (shift b)
    rw [← hmod] at hunits
    refine ⟨m, magnitudeUnits_strictMono.le_iff_le.mp ?_, hunits⟩
    rw [hunits]
    exact Nat.mod_le ..

/-- The remainder of two words is a word. -/
theorem isUnits_tmod {x y : Binary64} (hx : x.isFinite = true) (hy : y.magnitude ≠ 0) :
    IsUnits (x.units.tmod y.units) := by
  obtain ⟨m, hm, hunits⟩ := exists_magnitudeUnits_eq_mod x.magnitude hy
  refine ⟨m, Nat.lt_of_le_of_lt hm (of_decide_eq_true hx), ?_⟩
  rw [hunits, Int.natAbs_tmod, natAbs_units, natAbs_units]

/-- **The remainder of two words is exact.** -/
theorem units_remainder {x y : Binary64} (hx : x.isFinite = true) (hy : y.isFinite = true)
    (hne : y.magnitude ≠ 0) : (x.remainder y).units = x.units.tmod y.units := by
  obtain ⟨m, hm, hunits⟩ := isUnits_tmod hx hne
  have hexact : nearestMagnitude (x.units.natAbs % y.units.natAbs) 1 = m := by
    rw [← Int.natAbs_tmod, ← hunits, ← Nat.mul_one (magnitudeUnits m)]
    exact nearestMagnitude_self Nat.one_pos hm.le
  rw [remainder, isNaN_of_isFinite hx, isNaN_of_isFinite hy, isInfinite_of_isFinite hx,
    isInfinite_of_isFinite hy, Bool.or_false, Bool.or_false, decide_eq_false hne, Bool.or_false,
    if_neg Bool.false_ne_true, if_neg Bool.false_ne_true, units_ofUnits, hexact, hunits]
  split
  · next hneg =>
    have := Flooring.tmod_nonpos y.units (units_nonpos hneg)
    omega
  · next hneg =>
    have := Int.tmod_nonneg y.units (units_nonneg (Bool.not_eq_true _ ▸ hneg))
    omega

/-! ### Sums -/

/-- A sum is the exact one, rounded. -/
theorem units_add {x y : Binary64} (hx : x.isFinite = true) (hy : y.isFinite = true) :
    (x.add y).units = (nearest (x.units + y.units)).units := by
  rw [add, isNaN_of_isFinite hx, isNaN_of_isFinite hy, isInfinite_of_isFinite hx,
    isInfinite_of_isFinite hy, Bool.or_false, if_neg Bool.false_ne_true,
    if_neg Bool.false_ne_true, if_neg Bool.false_ne_true]
  dsimp only
  split
  · next hzero =>
    rw [hzero]
    cases x.isNegative && y.isNegative
    · decide
    · decide
  · rfl

end DocumentFilter.Binary64
