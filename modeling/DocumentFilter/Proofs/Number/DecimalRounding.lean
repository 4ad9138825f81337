import DocumentFilter.Proofs.Number.Rational
import DocumentFilter.Proofs.Number.RelativeError
import Mathlib.Data.Nat.Cast.Field

/-! Decimals in binary64.

The conversion takes a decimal apart, adds the parts as words, and rounds the sum to the places of
the decimal again. A whole decimal has no fraction to add: it goes to its nearest word
(`toRat_toBinary64_of_whole`). Any other is rounded at every step, once to a whole number of last
places, and ends within one part in `2 ^ 47` of where it started (`abs_toRat_toBinary64_sub_le`).
That is less than a last place while the decimal has up to fourteen digits, so such a decimal does
not lose its fraction (`toRat_eq_of_toRat_toBinary64_eq`). -/
namespace DocumentFilter

open Binary64 (unitsOfOne)

/-! ### Signs -/

namespace Binary64

theorem units_neg (x : Binary64) : x.neg.units = -x.units := by
  rw [neg, units_ofMagnitude _ x.magnitude_lt, units]
  cases x.isNegative <;> simp

theorem toRat_neg (x : Binary64) : x.neg.toRat = -x.toRat := by
  rw [toRat, toRat, units_neg, Int.cast_neg, neg_div]

theorem isFinite_neg (x : Binary64) : x.neg.isFinite = x.isFinite := by
  rw [isFinite, isFinite, neg, magnitude_ofMagnitude _ x.magnitude_lt]

theorem toRat_ofInt_neg (n : Int) : (ofInt (-n)).toRat = -(ofInt n).toRat := by
  rw [toRat, toRat, ofInt_eq_nearest, ofInt_eq_nearest, Int.neg_mul, units_nearest_neg, Int.cast_neg,
    neg_div]

end Binary64

/-! ### The last places -/

theorem slack_pow_six_le : slack ^ 6 ≤ 1 + 7 / 2 ^ 53 := by norm_num [slack]

theorem le_slack_pow_thirty_two : 1 + 1 / 2 ^ 48 ≤ slack ^ 32 := by norm_num [slack]

theorem slack_pow_forty_one_le : slack ^ 41 ≤ 1 + 1 / 2 ^ 47 := by norm_num [slack]

/-- Rounded to a whole number, what is close to one stays close to it. It becomes the number itself
while that is small, and beyond, a half is a small part of it. -/
theorem near_of_abs_sub_le_half {p : ℚ} {c n : Nat} (hp : Near 6 p c)
    (hn : |(n : ℚ) - p| ≤ 1 / 2) : Near 38 n c := by
  have hc : (0 : ℚ) ≤ c := Nat.cast_nonneg c
  have hclose := hp.abs_sub_le hc slack_pow_six_le
  rw [abs_le] at hn hclose
  obtain ⟨hnlow, hnhigh⟩ := hn
  obtain ⟨hplow, hphigh⟩ := hclose
  by_cases hsmall : c < 2 ^ 48
  · have hbound : (c : ℚ) < 2 ^ 48 := by exact_mod_cast hsmall
    have hlow : (n : ℚ) < (c + 1 : Nat) := by
      push_cast
      linarith
    have hhigh : (c : ℚ) < (n + 1 : Nat) := by
      push_cast
      linarith
    have heq : n = c := by
      rw [Nat.cast_lt] at hlow hhigh
      omega
    rw [heq]
    exact (Near.refl _).mono hc hc (Nat.zero_le _)
  · have hbound : (2 : ℚ) ^ 48 ≤ c := by exact_mod_cast not_lt.mp hsmall
    have hgrow {a b : ℚ} (ha : 2 ^ 47 ≤ a) (hb : b ≤ a + 1 / 2) : b ≤ a * slack ^ 32 := by
      have hle : a * (1 + 1 / 2 ^ 48) ≤ a * slack ^ 32 :=
        mul_le_mul_of_nonneg_left le_slack_pow_thirty_two (by linarith)
      linarith
    have hround : Near 32 n p := ⟨hgrow (by linarith) (by linarith), hgrow (by linarith) (by linarith)⟩
    exact hround.trans hp

namespace Decimal

/-! ### The parts -/

theorem inRange_natCast {n : Nat} (hpos : 0 < n) (h : n < 2 ^ 96) : InRange n := by
  have hone : (1 : ℚ) ≤ n := by exact_mod_cast hpos
  have hle : (n : ℚ) ≤ 2 ^ 96 := by exact_mod_cast h.le
  constructor <;> linarith

section
variable {c s : Nat} (hs : s ≤ 28)
include hs

theorem pow_lt : 10 ^ s < 2 ^ 96 :=
  (Nat.pow_le_pow_right (by decide) hs).trans_lt (by decide : 10 ^ 28 < 2 ^ 96)

theorem inRange_pow : InRange (10 ^ s : Nat) :=
  inRange_natCast (Nat.pow_pos (by decide)) (pow_lt hs)

theorem inRange_div (hpos : 0 < c) (hc : c < 2 ^ 96) : InRange (c / (10 ^ s : Nat)) := by
  have hone : (1 : ℚ) ≤ c := by exact_mod_cast hpos
  have hle : (c : ℚ) ≤ 2 ^ 96 := by exact_mod_cast hc.le
  have hpower : ((10 ^ s : Nat) : ℚ) ≤ 2 ^ 96 := by exact_mod_cast (pow_lt hs).le
  have hpower' : (1 : ℚ) ≤ (10 ^ s : Nat) := by exact_mod_cast Nat.one_le_pow s 10 (by decide)
  constructor
  · rw [le_div_iff₀ (by linarith)]
    linarith
  · rw [div_le_iff₀ (by linarith)]
    linarith

theorem approximates_pow : (Binary64.ofNat (10 ^ s)).Approximates 1 (10 ^ s : Nat) :=
  Binary64.approximates_ofNat (inRange_pow hs) (.refl _) (by decide)

variable (hc : c < 2 ^ 96) (hne : c % 10 ^ s ≠ 0)
include hc hne

/-- The whole part and the fraction, added up. -/
theorem approximates_sum :
    ((Binary64.ofNat (c / 10 ^ s)).add ((Binary64.ofNat (c % 10 ^ s)).div
      (Binary64.ofNat (10 ^ s)))).Approximates 4 (c / (10 ^ s : Nat)) := by
  have hpower := (inRange_pow hs).pos
  have hrest : c % 10 ^ s < 2 ^ 96 := (Nat.mod_le ..).trans_lt hc
  have hrange := inRange_natCast (Nat.pos_of_ne_zero hne) hrest
  have hquotient := inRange_div hs (Nat.pos_of_ne_zero hne) hrest
  have hwhole : (Binary64.ofNat (c / 10 ^ s)).Approximates 3 (c / 10 ^ s : Nat) := by
    by_cases hzero : c / 10 ^ s = 0
    · rw [hzero, Nat.cast_zero]
      exact Binary64.approximates_ofNat_zero 3
    · have hrange := inRange_natCast (Nat.pos_of_ne_zero hzero) ((Nat.div_le_self ..).trans_lt hc)
      exact (Binary64.approximates_ofNat hrange (.refl _) (by decide)).mono hrange.pos.le (by decide)
  have hfraction := (Binary64.approximates_ofNat hrange (.refl _) (by decide)).div
    (approximates_pow hs) hrange.pos hpower hquotient (by decide)
  have hparts : (c / 10 ^ s : Nat) + ((c % 10 ^ s : Nat) : ℚ) / (10 ^ s : Nat) =
      c / (10 ^ s : Nat) := by
    rw [eq_div_iff hpower.ne', add_mul, div_mul_cancel₀ _ hpower.ne']
    exact_mod_cast Nat.div_add_mod' c (10 ^ s)
  have hcpos : 0 < c := Nat.pos_of_ne_zero fun hzero => hne (by rw [hzero, Nat.zero_mod])
  have hsum := inRange_div hs hcpos hc
  rw [← hparts] at hsum ⊢
  exact hwhole.add hfraction hquotient.pos hsum (by decide)

/-- The sum, rounded to the places. -/
theorem approximates_fraction :
    ((((Binary64.ofNat (c / 10 ^ s)).add ((Binary64.ofNat (c % 10 ^ s)).div
      (Binary64.ofNat (10 ^ s)))).mul (Binary64.ofNat (10 ^ s))).round.div
        (Binary64.ofNat (10 ^ s))).Approximates 41 (c / (10 ^ s : Nat)) := by
  have hpower := (inRange_pow hs).pos
  have hcpos : 0 < c := Nat.pos_of_ne_zero fun hzero => hne (by rw [hzero, Nat.zero_mod])
  have hquotient := inRange_div hs hcpos hc
  have hrange := inRange_natCast hcpos hc
  have hback : (c : ℚ) = c / (10 ^ s : Nat) * (10 ^ s : Nat) := (div_mul_cancel₀ _ hpower.ne').symm
  have hplaces := (approximates_sum hs hc hne).mul (approximates_pow hs) hquotient.pos hpower
    (hback ▸ hrange) (by decide)
  rw [← hback] at hplaces
  obtain ⟨n, hround, hhalf⟩ := hplaces.exists_round_eq
  have hdigits := Binary64.approximates_ofNat hrange (near_of_abs_sub_le_half hplaces.near hhalf)
    (by decide)
  rw [hround]
  exact hdigits.div (approximates_pow hs) hrange.pos hpower hquotient (by decide)

end

/-! ### The word of a decimal -/

/-- The word of the number without its sign, which is put in front at the end. -/
theorem exists_toBinary64_eq (d : Decimal) :
    ∃ r : Binary64, r.Approximates 41 |d.toRat| ∧
      d.toBinary64 = if d.coefficient < 0 then r.neg else r := by
  have hc : d.coefficient.natAbs < 2 ^ 96 := d.natAbs_lt
  have habs : |d.toRat| = d.coefficient.natAbs / (10 ^ d.scale : Nat) := by
    rw [toRat, abs_div, Nat.cast_natAbs, Int.cast_abs]
    norm_num
  rw [habs]
  refine ⟨_, ?_, rfl⟩
  simp only [Nat.pow_eq]
  split
  · next hwhole =>
    have hpos : 0 < 10 ^ d.scale := Nat.pow_pos (by decide)
    rw [← Nat.cast_div (Nat.dvd_of_mod_eq_zero hwhole) (Nat.cast_ne_zero.mpr hpos.ne')]
    by_cases hzero : d.coefficient.natAbs / 10 ^ d.scale = 0
    · rw [hzero, Nat.cast_zero]
      exact Binary64.approximates_ofNat_zero 41
    · have hrange := inRange_natCast (Nat.pos_of_ne_zero hzero) ((Nat.div_le_self ..).trans_lt hc)
      exact (Binary64.approximates_ofNat hrange (.refl _) (by decide)).mono hrange.pos.le (by decide)
  · next hne => exact approximates_fraction d.scale_le hc hne

theorem isFinite_toBinary64 (d : Decimal) : d.toBinary64.isFinite = true := by
  obtain ⟨r, hr, heq⟩ := d.exists_toBinary64_eq
  rw [heq]
  split
  · rw [Binary64.isFinite_neg]
    exact hr.isFinite
  · exact hr.isFinite

theorem coefficient_neg_iff (d : Decimal) : d.coefficient < 0 ↔ d.toRat < 0 := by
  have hpower : (0 : ℚ) < 10 ^ d.scale := by positivity
  rw [toRat, div_lt_iff₀ hpower, zero_mul, Int.cast_lt_zero]

/-- **A decimal comes out within one part in `2 ^ 47`** of the number it is. -/
theorem abs_toRat_toBinary64_sub_le (d : Decimal) :
    |d.toBinary64.toRat - d.toRat| ≤ |d.toRat| * (1 / 2 ^ 47) := by
  obtain ⟨r, hr, heq⟩ := d.exists_toBinary64_eq
  have hclose := hr.near.abs_sub_le (abs_nonneg _) slack_pow_forty_one_le
  rw [heq]
  split
  · next hneg =>
    rw [abs_of_neg (d.coefficient_neg_iff.mp hneg)] at hclose ⊢
    rw [Binary64.toRat_neg, ← abs_neg]
    have hdiff : -(-r.toRat - d.toRat) = r.toRat - -d.toRat := by ring
    rwa [hdiff]
  · next hneg =>
    rw [d.coefficient_neg_iff, not_lt] at hneg
    rwa [abs_of_nonneg hneg] at hclose ⊢

/-- The word has the sign of the decimal. -/
theorem toRat_toBinary64_nonneg_iff (d : Decimal) : 0 ≤ d.toBinary64.toRat ↔ 0 ≤ d.toRat := by
  obtain ⟨r, hr, heq⟩ := d.exists_toBinary64_eq
  have hsign : 0 ≤ d.toRat ↔ ¬ d.coefficient < 0 := by rw [d.coefficient_neg_iff, not_lt]
  rw [heq, hsign]
  split
  · next hneg =>
    have hpos := hr.near.pos (abs_pos.mpr (d.coefficient_neg_iff.mp hneg).ne)
    rw [Binary64.toRat_neg, neg_nonneg]
    exact iff_of_false (not_le.mpr hpos) (not_not_intro hneg)
  · next hneg => exact iff_of_true hr.toRat_nonneg hneg

/-- A whole decimal goes to the word of the integer. -/
theorem toRat_toBinary64_of_whole {d : Decimal} {k : Int} (h : d.toRat = k) :
    d.toBinary64.toRat = (Binary64.ofInt k).toRat := by
  have hpower : (10 : ℚ) ^ d.scale ≠ 0 := pow_ne_zero _ (by decide)
  have hcoefficient : d.coefficient = k * (10 ^ d.scale : Nat) := by
    rw [toRat, div_eq_iff hpower] at h
    exact_mod_cast h
  have hpos : 0 < 10 ^ d.scale := Nat.pow_pos (by decide)
  have hmagnitude : d.coefficient.natAbs = k.natAbs * 10 ^ d.scale := by
    rw [hcoefficient, Int.natAbs_mul, Int.natAbs_natCast]
  have hsign : d.coefficient < 0 ↔ k < 0 := by
    rw [d.coefficient_neg_iff, h, Int.cast_lt_zero]
  have hword : d.toBinary64 =
      if k < 0 then (Binary64.ofInt k.natAbs).neg else Binary64.ofInt k.natAbs := by
    simp only [toBinary64, hmagnitude, hsign, Nat.pow_eq, Nat.mul_mod_left, if_true,
      Nat.mul_div_cancel _ hpos]
    rfl
  rw [hword]
  split
  · next hneg =>
    have hback : k = -(k.natAbs : Int) := by omega
    rw [Binary64.toRat_neg, ← Binary64.toRat_ofInt_neg, ← hback]
  · next hneg =>
    have hback : (k.natAbs : Int) = k := by omega
    rw [hback]

/-- **A decimal of few digits keeps its fraction**: its word is not whole, unless the decimal is. -/
theorem toRat_eq_of_toRat_toBinary64_eq {d : Decimal} (hlt : d.coefficient.natAbs < 2 ^ 47) {l : Int}
    (hword : d.toBinary64.toRat = l) : d.toRat = l := by
  have hpower : (0 : ℚ) < 10 ^ d.scale := by positivity
  have hback : d.toRat * 10 ^ d.scale = d.coefficient := div_mul_cancel₀ _ hpower.ne'
  have hdigits : (d.coefficient.natAbs : ℚ) < 2 ^ 47 := by exact_mod_cast hlt
  -- Counted in last places both are integers, and less than one apart.
  have hless : |(l * (10 ^ d.scale : Nat) - d.coefficient : ℚ)| < 1 := by
    calc |(l * (10 ^ d.scale : Nat) - d.coefficient : ℚ)|
        = |d.toBinary64.toRat - d.toRat| * 10 ^ d.scale := by
          rw [← hback, ← abs_of_pos hpower, ← abs_mul, sub_mul, hword, abs_of_pos hpower]
          push_cast
          rfl
      _ ≤ |d.toRat| * (1 / 2 ^ 47) * 10 ^ d.scale :=
        mul_le_mul_of_nonneg_right d.abs_toRat_toBinary64_sub_le hpower.le
      _ = |d.toRat * 10 ^ d.scale| * (1 / 2 ^ 47) := by
        rw [abs_mul, abs_of_pos hpower, mul_right_comm]
      _ = d.coefficient.natAbs * (1 / 2 ^ 47) := by rw [hback, Nat.cast_natAbs, Int.cast_abs]
      _ < 1 := by linarith
  have heq : l * (10 ^ d.scale : Nat) - d.coefficient = 0 := by
    rw [← Int.abs_lt_one_iff]
    exact_mod_cast hless
  rw [toRat, div_eq_iff hpower.ne']
  exact_mod_cast (Int.sub_eq_zero.mp heq).symm

end Decimal

end DocumentFilter
