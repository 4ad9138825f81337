import DocumentFilter.Number.Conversion

/-! Words that are numbers, and their signs.

Rounding ends at infinity, so what is rounded is always a number and keeps its sign. Only
the arithmetic on infinities and zeros can give a word that is none, and the conversion of
a decimal stays clear of it. -/
namespace DocumentFilter

namespace Binary64

/-! ### The parts of a word -/

theorem toNat_bits_ofMagnitude (negative : Bool) {m : Nat} (h : m < 0x8000000000000000) :
    (ofMagnitude negative m).bits.toNat = if negative then 0x8000000000000000 + m else m := by
  have hlt : (if negative then 0x8000000000000000 + m else m) < 2 ^ 64 := by
    split <;> omega
  exact Nat.mod_eq_of_lt hlt

theorem magnitude_ofMagnitude (negative : Bool) {m : Nat} (h : m < 0x8000000000000000) :
    (ofMagnitude negative m).magnitude = m := by
  rw [magnitude, toNat_bits_ofMagnitude negative h]
  split <;> omega

theorem isNegative_ofMagnitude (negative : Bool) {m : Nat} (h : m < 0x8000000000000000) :
    (ofMagnitude negative m).isNegative = negative := by
  rw [isNegative, toNat_bits_ofMagnitude negative h]
  cases negative
  · simpa using h
  · simp

theorem magnitude_lt (x : Binary64) : x.magnitude < 0x8000000000000000 := Nat.mod_lt _ (by decide)

theorem isNaN_ofMagnitude (negative : Bool) {m : Nat} (h : m ≤ infiniteMagnitude) :
    (ofMagnitude negative m).isNaN = false := by
  have hlt : m < 0x8000000000000000 := Nat.lt_of_le_of_lt h (by decide)
  rw [isNaN, magnitude_ofMagnitude negative hlt]
  simpa using h

theorem isNaN_of_isFinite {x : Binary64} (h : x.isFinite = true) : x.isNaN = false := by
  simp only [isFinite, isNaN, decide_eq_true_eq, decide_eq_false_iff_not] at h ⊢
  omega

theorem isInfinite_of_isFinite {x : Binary64} (h : x.isFinite = true) : x.isInfinite = false := by
  simp only [isFinite, isInfinite, decide_eq_true_eq, beq_eq_false_iff_ne] at h ⊢
  omega

theorem isNaN_neg (x : Binary64) : x.neg.isNaN = x.isNaN := by
  rw [isNaN, isNaN, neg, magnitude_ofMagnitude _ x.magnitude_lt]

/-! ### Rounding -/

theorem nearestMagnitude_le (numerator denominator : Nat) :
    nearestMagnitude numerator denominator ≤ infiniteMagnitude :=
  Nat.min_le_right ..

theorem isNaN_ofUnits (negative : Bool) (numerator denominator : Nat) :
    (ofUnits negative numerator denominator).isNaN = false :=
  isNaN_ofMagnitude negative (nearestMagnitude_le ..)

theorem isNegative_ofUnits (negative : Bool) (numerator denominator : Nat) :
    (ofUnits negative numerator denominator).isNegative = negative :=
  isNegative_ofMagnitude negative
    (Nat.lt_of_le_of_lt (nearestMagnitude_le numerator denominator) (by decide))

theorem isNaN_ofInt (n : Int) : (ofInt n).isNaN = false := isNaN_ofUnits ..

theorem isNaN_ofNat (n : Nat) : (ofNat n).isNaN = false := isNaN_ofUnits ..

theorem isNegative_ofNat (n : Nat) : (ofNat n).isNegative = false := isNegative_ofUnits ..

theorem isNaN_infinity (negative : Bool) : (infinity negative).isNaN = false :=
  isNaN_ofMagnitude negative (Nat.le_refl _)

theorem isNaN_zero (negative : Bool) : (zero negative).isNaN = false :=
  isNaN_ofMagnitude negative (by decide)

theorem isNaN_round {x : Binary64} (h : x.isNaN = false) : x.round.isNaN = false := by
  unfold round
  split
  · exact isNaN_ofUnits ..
  · exact h

/-! ### Arithmetic -/

/-- Finite and not zero: a word to multiply with and to divide by. -/
structure IsScale (x : Binary64) : Prop where
  isFinite : x.magnitude < infiniteMagnitude
  isNegative : x.isNegative = false
  ne_zero : x.magnitude ≠ 0

namespace IsScale

variable {y : Binary64} (hy : IsScale y)
include hy

theorem isNaN_eq : y.isNaN = false := by
  have h := hy.isFinite
  simp only [isNaN, decide_eq_false_iff_not]
  omega

theorem isInfinite_eq : y.isInfinite = false := by
  have h := hy.isFinite
  simp only [isInfinite, beq_eq_false_iff_ne]
  omega

theorem isNaN_mul {x : Binary64} (h : x.isNaN = false) : (x.mul y).isNaN = false := by
  simp only [mul, h, hy.isNaN_eq, hy.isInfinite_eq, Bool.or_false, Bool.false_eq_true, if_false]
  split
  · next hx =>
    have hne : x.magnitude ≠ 0 := by
      intro h0
      rw [isInfinite, h0] at hx
      exact absurd hx (by decide)
    simp [hne, hy.ne_zero, isNaN_infinity]
  · exact isNaN_ofUnits ..

theorem isNaN_div {x : Binary64} (h : x.isNaN = false) : (x.div y).isNaN = false := by
  simp only [div, h, hy.isNaN_eq, hy.isInfinite_eq, Bool.or_false, Bool.and_false,
    Bool.false_eq_true, if_false, if_neg hy.ne_zero]
  split
  · exact isNaN_infinity _
  · exact isNaN_ofUnits ..

theorem isNegative_div {x : Binary64} (h : x.isNaN = false) :
    (x.div y).isNegative = x.isNegative := by
  simp only [div, h, hy.isNaN_eq, hy.isInfinite_eq, hy.isNegative, Bool.or_false, Bool.and_false,
    Bool.false_eq_true, if_false, if_neg hy.ne_zero, Bool.bne_false]
  split
  · exact isNegative_ofMagnitude _ (by decide)
  · exact isNegative_ofUnits ..

end IsScale

/-- Numbers of one sign have a sum. -/
theorem isNaN_add {x y : Binary64} (hx : x.isNaN = false) (hy : y.isNaN = false)
    (h : x.isNegative = y.isNegative) : (x.add y).isNaN = false := by
  simp only [add, hx, hy, h, Bool.or_false, bne_self_eq_false, Bool.and_false, Bool.false_eq_true,
    if_false]
  repeat' split
  · exact hx
  · exact hy
  · exact isNaN_zero _
  · exact isNaN_ofUnits ..

/-! ### Below zero -/

theorem magnitudeUnits_eq_zero_iff (m : Nat) : magnitudeUnits m = 0 ↔ m = 0 := by
  unfold magnitudeUnits significand
  rw [Nat.shiftLeft_eq, Nat.mul_eq_zero]
  constructor
  · rintro (h | h)
    · split at h <;> omega
    · exact absurd h (Nat.ne_of_gt (Nat.two_pow_pos _))
  · rintro rfl
    exact .inl rfl

/-- A number is below zero in the order just when its exact value is. -/
theorem compare_zero_ne_lt_iff {x : Binary64} (h : x.isNaN = false) :
    x.compare (zero false) ≠ some .lt ↔ 0 ≤ x.units := by
  have hzero : (zero false).ordinal = 0 := by decide
  rw [compare, h, isNaN_zero, hzero, Bool.or_false, if_neg Bool.false_ne_true, Ne,
    Option.some.injEq, Int.compare_eq_lt, ordinal, units]
  have hunits := magnitudeUnits_eq_zero_iff x.magnitude
  split <;> omega

theorem isWhole_iff (x : Binary64) : x.isWhole = true ↔ (unitsOfOne : Int) ∣ x.units := by
  rw [isWhole, beq_iff_eq, ← Nat.dvd_iff_mod_eq_zero, Int.ofNat_dvd_left]

end Binary64

/-! ### Decimals -/

/-- The powers of ten that a decimal may have are exact scales. -/
theorem Decimal.isScale_power (d : Decimal) :
    (Binary64.ofNat (Nat.pow 10 d.scale)).IsScale := by
  have h : ∀ s : Fin 29,
      (Binary64.ofNat (Nat.pow 10 s.val)).magnitude < Binary64.infiniteMagnitude ∧
        (Binary64.ofNat (Nat.pow 10 s.val)).magnitude ≠ 0 := by decide +kernel
  obtain ⟨hfinite, hne⟩ := h ⟨d.scale, Nat.lt_succ_of_le d.scale_le⟩
  exact ⟨hfinite, Binary64.isNegative_ofNat _, hne⟩

theorem Decimal.isNaN_toBinary64 (d : Decimal) : d.toBinary64.isNaN = false := by
  have hpower := d.isScale_power
  have hwhole := Binary64.isNaN_ofNat (d.coefficient.natAbs / Nat.pow 10 d.scale)
  have hrest := Binary64.isNaN_ofNat (d.coefficient.natAbs % Nat.pow 10 d.scale)
  have hsign := hpower.isNegative_div hrest
  rw [Binary64.isNegative_ofNat] at hsign
  have hsum := Binary64.isNaN_add hwhole (hpower.isNaN_div hrest)
    ((Binary64.isNegative_ofNat _).trans hsign.symm)
  have hresult := hpower.isNaN_div (Binary64.isNaN_round (hpower.isNaN_mul hsum))
  unfold toBinary64
  simp only
  split <;> split <;> simp only [Binary64.isNaN_neg, hwhole, hresult]

end DocumentFilter
