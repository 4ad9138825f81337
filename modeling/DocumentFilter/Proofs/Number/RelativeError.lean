import DocumentFilter.Proofs.Number.Nearest
import Mathlib.Tactic.FieldSimp
import Mathlib.Tactic.GCongr
import Mathlib.Tactic.Linarith
import Mathlib.Tactic.NormNum

/-! Relative errors.

Rounding moves a number by one part in `2 ^ 53` at most. Two numbers are `k` roundings apart when
each is at most the other with `k` such parts on top; so counted, the errors of factors and
divisors add up, and that of a sum is the larger one. Each operation on words then adds one
(`Approximates.mul`, `Approximates.div`, `Approximates.add`), as long as the numbers stay clear of
the ends of the exponents. -/
namespace DocumentFilter

/-! ### Numbers close to each other -/

/-- What a number may grow by when it is rounded. -/
def slack : ℚ := 1 + 1 / 2 ^ 53

theorem slack_pos : 0 < slack := by norm_num [slack]

theorem one_le_slack : 1 ≤ slack := by norm_num [slack]

theorem one_le_slack_pow (k : Nat) : 1 ≤ slack ^ k := one_le_pow₀ one_le_slack

/-- Two numbers that are at most `k` roundings apart. -/
structure Near (k : Nat) (a b : ℚ) : Prop where
  le : a ≤ b * slack ^ k
  ge : b ≤ a * slack ^ k

namespace Near

variable {a b c d : ℚ} {i j k : Nat}

theorem refl (a : ℚ) : Near 0 a a := by
  constructor <;> rw [pow_zero, mul_one]

theorem symm (h : Near k a b) : Near k b a := ⟨h.ge, h.le⟩

theorem trans (hab : Near i a b) (hbc : Near j b c) : Near (i + j) a c := by
  have hpos (n : Nat) : 0 ≤ slack ^ n := (pow_pos slack_pos n).le
  constructor
  · calc a ≤ b * slack ^ i := hab.le
      _ ≤ c * slack ^ j * slack ^ i := mul_le_mul_of_nonneg_right hbc.le (hpos i)
      _ = c * slack ^ (i + j) := by rw [mul_assoc, ← pow_add, Nat.add_comm]
  · calc c ≤ b * slack ^ j := hbc.ge
      _ ≤ a * slack ^ i * slack ^ j := mul_le_mul_of_nonneg_right hab.ge (hpos j)
      _ = a * slack ^ (i + j) := by rw [mul_assoc, ← pow_add]

theorem mono (h : Near i a b) (ha : 0 ≤ a) (hb : 0 ≤ b) (hle : i ≤ j) : Near j a b := by
  have hpow : slack ^ i ≤ slack ^ j := pow_le_pow_right₀ one_le_slack hle
  exact ⟨h.le.trans (mul_le_mul_of_nonneg_left hpow hb),
    h.ge.trans (mul_le_mul_of_nonneg_left hpow ha)⟩

theorem add (hab : Near k a b) (hcd : Near k c d) : Near k (a + c) (b + d) := by
  constructor
  · rw [add_mul]
    exact add_le_add hab.le hcd.le
  · rw [add_mul]
    exact add_le_add hab.ge hcd.ge

theorem mul (hab : Near i a b) (hcd : Near j c d) (ha : 0 ≤ a) (hb : 0 ≤ b) (hc : 0 ≤ c)
    (hd : 0 ≤ d) : Near (i + j) (a * c) (b * d) := by
  have hpos : 0 ≤ slack ^ i := (pow_pos slack_pos i).le
  constructor
  · calc a * c ≤ b * slack ^ i * (d * slack ^ j) := mul_le_mul hab.le hcd.le hc (by positivity)
      _ = b * d * slack ^ (i + j) := by ring
  · calc b * d ≤ a * slack ^ i * (c * slack ^ j) := mul_le_mul hab.ge hcd.ge hd (by positivity)
      _ = a * c * slack ^ (i + j) := by ring

theorem inv (h : Near k a b) (ha : 0 < a) (hb : 0 < b) : Near k a⁻¹ b⁻¹ := by
  constructor
  · rw [inv_mul_eq_div, le_div_iff₀ hb, inv_mul_le_iff₀ ha]
    exact h.ge
  · rw [inv_mul_eq_div, le_div_iff₀ ha, inv_mul_le_iff₀ hb]
    exact h.le

theorem div (hab : Near i a b) (hcd : Near j c d) (ha : 0 ≤ a) (hb : 0 ≤ b) (hc : 0 < c)
    (hd : 0 < d) : Near (i + j) (a / c) (b / d) := by
  rw [div_eq_mul_inv, div_eq_mul_inv]
  exact hab.mul (hcd.inv hc hd) ha hb (inv_pos.mpr hc).le (inv_pos.mpr hd).le

theorem pos (h : Near k a b) (hb : 0 < b) : 0 < a :=
  pos_of_mul_pos_left (hb.trans_le h.ge) (pow_pos slack_pos k).le

/-- What numbers differ by that are some roundings apart. -/
theorem abs_sub_le {error : ℚ} (h : Near k a b) (hb : 0 ≤ b) (hslack : slack ^ k ≤ 1 + error) :
    |a - b| ≤ b * error := by
  have herror : 0 ≤ error := by linarith [one_le_slack_pow k]
  have hle : a ≤ b * (1 + error) := h.le.trans (mul_le_mul_of_nonneg_left hslack hb)
  rw [abs_le]
  refine ⟨?_, by linarith⟩
  by_cases hab : b ≤ a
  · linarith [mul_nonneg hb herror]
  · have ha : 0 ≤ a := le_of_mul_le_mul_right (by linarith [h.ge]) (pow_pos slack_pos k)
    have hge : b ≤ a * (1 + error) := h.ge.trans (mul_le_mul_of_nonneg_left hslack ha)
    linarith [mul_le_mul_of_nonneg_right (not_le.mp hab).le herror]

end Near

/-! ### Numbers of middle size -/

/-- The number is far from both ends of the exponents. -/
structure InRange (q : ℚ) : Prop where
  le : 1 / 2 ^ 100 ≤ q
  ge : q ≤ 2 ^ 100

theorem InRange.pos {q : ℚ} (h : InRange q) : 0 < q := lt_of_lt_of_le (by positivity) h.le

theorem slack_pow_forty_le : slack ^ 40 ≤ 2 := by norm_num [slack]

/-- What is close to a number of middle size is not much larger or smaller. -/
theorem InRange.near {a q : ℚ} {k : Nat} (hq : InRange q) (h : Near k a q) (hk : k ≤ 40) :
    1 / 2 ^ 101 ≤ a ∧ a ≤ 2 ^ 101 := by
  have hpow : slack ^ k ≤ 2 := (pow_le_pow_right₀ one_le_slack hk).trans slack_pow_forty_le
  have ha := h.pos hq.pos
  have hle : a ≤ q * 2 := h.le.trans (mul_le_mul_of_nonneg_left hpow hq.pos.le)
  have hge : q ≤ a * 2 := h.ge.trans (mul_le_mul_of_nonneg_left hpow ha.le)
  have hlow := hq.le
  have hhigh := hq.ge
  constructor <;> linarith

namespace Binary64

/-! ### One rounding -/

/-- A ratio that is neither tiny nor huge is rounded by one part in `2 ^ 53` at most. -/
theorem nearestMagnitude_relative {n d e : Nat} (hpos : 0 < d) (hlow : 2 ^ 52 * d ≤ n)
    (hhigh : n ≤ 2 ^ e * d) (he : e ≤ 2044) :
    nearestMagnitude n d < infiniteMagnitude ∧
      2 ^ 53 * (magnitudeUnits (nearestMagnitude n d) * d) ≤ (2 ^ 53 + 1) * n ∧
      2 ^ 53 * n ≤ (2 ^ 53 + 1) * (magnitudeUnits (nearestMagnitude n d) * d) := by
  have hfinite : nearestMagnitude n d < infiniteMagnitude := by
    have hle := nearestMagnitude_le_of_le_two_pow hpos hhigh
    unfold infiniteMagnitude
    omega
  refine ⟨hfinite, ?_⟩
  obtain ⟨m, up, heq, hat, hbefore, hhalf⟩ := exists_nearestMagnitude_eq_half n hpos
  have hrounded : nearestMagnitude n d = m + up := by omega
  -- The significand is full, so a step is a small part of the number.
  have hnormal : 2 ^ 52 ≤ m := by
    have hunits : magnitudeUnits (2 ^ 52) = 2 ^ 52 := by decide +kernel
    have hlt : magnitudeUnits (2 ^ 52) < magnitudeUnits (m + 1) := by
      rw [hunits]
      exact Nat.lt_of_mul_lt_mul_right (hlow.trans_lt hbefore)
    exact Nat.lt_succ_iff.mp (magnitudeUnits_strictMono.lt_iff_lt.mp hlt)
  have hstep : 2 ^ 52 * (2 ^ shift m * d) ≤ magnitudeUnits m * d := by
    have hfull : 2 ^ 52 ≤ significand m := by
      unfold significand
      split <;> omega
    rw [magnitudeUnits_eq, Nat.mul_assoc]
    exact Nat.mul_le_mul_right _ hfull
  rw [hrounded]
  rw [magnitudeUnits_succ, Nat.add_mul] at hbefore hhalf
  rcases hhalf with ⟨rfl, hhalf⟩ | ⟨rfl, hhalf⟩
  · rw [Nat.add_zero]
    omega
  · rw [magnitudeUnits_succ, Nat.add_mul]
    omega

/-! ### Words close to a number -/

/-- The word is finite, not negative, and at most `k` roundings from the number. -/
structure Approximates (x : Binary64) (k : Nat) (q : ℚ) : Prop where
  isFinite : x.isFinite = true
  isNegative : x.isNegative = false
  near : Near k x.toRat q

/-- A ratio close to a number of middle size is rounded to a word close to it. -/
theorem approximates_ofUnits {n d k : Nat} {q : ℚ} (hpos : 0 < d) (hq : InRange q)
    (h : Near k (n / d / unitsOfOne) q) (hk : k ≤ 40) :
    (ofUnits false n d).Approximates (k + 1) q := by
  have hd : (0 : ℚ) < d := Nat.cast_pos.mpr hpos
  have hone := unitsOfOne_rat_pos
  obtain ⟨hsmall, hlarge⟩ := hq.near h hk
  rw [div_div, le_div_iff₀ (mul_pos hd hone)] at hsmall
  rw [div_div, div_le_iff₀ (mul_pos hd hone)] at hlarge
  have hlow : 2 ^ 52 * d ≤ n := by
    have hle : 2 ^ 153 ≤ unitsOfOne := by decide +kernel
    have hle' : (2 : ℚ) ^ 153 ≤ unitsOfOne := by exact_mod_cast hle
    have hscaled : (2 : ℚ) ^ 52 * d ≤ n := by
      calc (2 : ℚ) ^ 52 * d = (1 / 2 ^ 101 : ℚ) * (d * 2 ^ 153) := by ring
        _ ≤ (1 / 2 ^ 101 : ℚ) * (d * unitsOfOne) := by gcongr
        _ ≤ n := hsmall
    exact_mod_cast hscaled
  have hhigh : n ≤ 2 ^ (101 + 1074) * d := by
    have hscaled : n ≤ 2 ^ 101 * (d * unitsOfOne) := by exact_mod_cast hlarge
    rw [← two_pow_mul_unitsOfOne]
    calc n ≤ 2 ^ 101 * (d * unitsOfOne) := hscaled
      _ = 2 ^ 101 * unitsOfOne * d := by ring
  obtain ⟨hfinite, hle, hge⟩ := nearestMagnitude_relative hpos hlow hhigh (by decide)
  have hmagnitude : nearestMagnitude n d < 0x8000000000000000 := hfinite.trans (by decide)
  refine ⟨?_, isNegative_ofUnits .., ?_⟩
  · rw [ofUnits, isFinite, magnitude_ofMagnitude _ hmagnitude]
    exact decide_eq_true hfinite
  · have hvalue : (ofUnits false n d).toRat = magnitudeUnits (nearestMagnitude n d) / unitsOfOne := by
      rw [toRat, units_ofUnits, if_neg Bool.false_ne_true, Int.cast_natCast]
    have hle' : (2 : ℚ) ^ 53 * (magnitudeUnits (nearestMagnitude n d) * d) ≤ (2 ^ 53 + 1) * n := by
      exact_mod_cast hle
    have hge' : (2 : ℚ) ^ 53 * n ≤ (2 ^ 53 + 1) * (magnitudeUnits (nearestMagnitude n d) * d) := by
      exact_mod_cast hge
    have hround : Near 1 (magnitudeUnits (nearestMagnitude n d) / unitsOfOne : ℚ)
        (n / d / unitsOfOne) := by
      constructor
      · rw [pow_one, div_mul_eq_mul_div, div_le_div_iff_of_pos_right hone, div_mul_eq_mul_div,
          le_div_iff₀ hd, slack]
        linarith
      · rw [pow_one, div_mul_eq_mul_div, div_le_div_iff_of_pos_right hone, div_le_iff₀ hd, slack]
        linarith
    rw [hvalue, Nat.add_comm]
    exact hround.trans h

/-- A whole number close to one of middle size is close to it as a word. -/
theorem approximates_ofNat {n k : Nat} {q : ℚ} (hq : InRange q) (h : Near k n q) (hk : k ≤ 40) :
    (ofNat n).Approximates (k + 1) q := by
  refine approximates_ofUnits Nat.one_pos hq ?_ hk
  rwa [Nat.cast_mul, Nat.cast_one, div_one, mul_div_cancel_right₀ _ unitsOfOne_rat_pos.ne']

theorem approximates_ofNat_zero (k : Nat) : (ofNat 0).Approximates k 0 where
  isFinite := by decide
  isNegative := by decide
  near := by
    have hzero : (ofNat 0).units = 0 := by decide
    rw [toRat, hzero, Int.cast_zero, zero_div]
    constructor <;> rw [zero_mul]

namespace Approximates

variable {x y : Binary64} {i j k : Nat} {q r : ℚ}

section
variable (h : x.Approximates k q)
include h

theorem toRat_nonneg : 0 ≤ x.toRat :=
  div_nonneg (Int.cast_nonneg (units_nonneg h.isNegative)) unitsOfOne_rat_pos.le

theorem mono (hq : 0 ≤ q) (hk : k ≤ j) : x.Approximates j q :=
  ⟨h.isFinite, h.isNegative, h.near.mono h.toRat_nonneg hq hk⟩

theorem natCast_natAbs : (x.units.natAbs : ℚ) = x.toRat * unitsOfOne := by
  rw [toRat, div_mul_cancel₀ _ unitsOfOne_rat_pos.ne', Nat.cast_natAbs,
    abs_of_nonneg (units_nonneg h.isNegative)]

theorem natAbs_pos (hq : 0 < q) : 0 < x.units.natAbs := by
  have hpos := mul_pos (h.near.pos hq) unitsOfOne_rat_pos
  rw [← h.natCast_natAbs] at hpos
  exact Nat.cast_pos.mp hpos

theorem magnitude_ne_zero (hq : 0 < q) : x.magnitude ≠ 0 := by
  have := h.natAbs_pos hq
  rw [natAbs_units] at this
  exact fun hzero => this.ne' ((magnitudeUnits_eq_zero_iff _).mpr hzero)

end

section
variable (hx : x.Approximates i q) (hy : y.Approximates j r)
include hx hy

/-! ### Operations -/

theorem mul (hq : 0 < q) (hr : 0 < r) (hrange : InRange (q * r)) (hk : i + j ≤ 40) :
    (x.mul y).Approximates (i + j + 1) (q * r) := by
  have hmul : x.mul y = ofUnits false (x.units.natAbs * y.units.natAbs) unitsOfOne := by
    rw [Binary64.mul, isNaN_of_isFinite hx.isFinite, isNaN_of_isFinite hy.isFinite,
      isInfinite_of_isFinite hx.isFinite, isInfinite_of_isFinite hy.isFinite, hx.isNegative,
      hy.isNegative]
    rfl
  rw [hmul]
  refine approximates_ofUnits (by exact_mod_cast unitsOfOne_pos) hrange ?_ hk
  have hvalue : ((x.units.natAbs * y.units.natAbs : Nat) : ℚ) / unitsOfOne / unitsOfOne =
      x.toRat * y.toRat := by
    have hne := unitsOfOne_rat_pos.ne'
    rw [Nat.cast_mul, hx.natCast_natAbs, hy.natCast_natAbs]
    field_simp
  rw [hvalue]
  exact hx.near.mul hy.near hx.toRat_nonneg hq.le hy.toRat_nonneg hr.le

theorem div (hq : 0 < q) (hr : 0 < r) (hrange : InRange (q / r)) (hk : i + j ≤ 40) :
    (x.div y).Approximates (i + j + 1) (q / r) := by
  have hdiv : x.div y = ofUnits false (x.units.natAbs * unitsOfOne) y.units.natAbs := by
    rw [Binary64.div, isNaN_of_isFinite hx.isFinite, isNaN_of_isFinite hy.isFinite,
      isInfinite_of_isFinite hx.isFinite, isInfinite_of_isFinite hy.isFinite, hx.isNegative,
      hy.isNegative, if_neg (hy.magnitude_ne_zero hr)]
    rfl
  rw [hdiv]
  refine approximates_ofUnits (hy.natAbs_pos hr) hrange ?_ hk
  have hvalue : ((x.units.natAbs * unitsOfOne : Nat) : ℚ) / y.units.natAbs / unitsOfOne =
      x.toRat / y.toRat := by
    have hne := unitsOfOne_rat_pos.ne'
    have hne' := (hy.near.pos hr).ne'
    rw [Nat.cast_mul, hx.natCast_natAbs, hy.natCast_natAbs]
    field_simp
  rw [hvalue]
  exact hx.near.div hy.near hx.toRat_nonneg hq.le (hy.near.pos hr) hr

end

theorem add (hx : x.Approximates k q) (hy : y.Approximates k r) (hr : 0 < r)
    (hrange : InRange (q + r)) (hk : k ≤ 40) : (x.add y).Approximates (k + 1) (q + r) := by
  have hx0 := units_nonneg hx.isNegative
  have hy0 := units_nonneg hy.isNegative
  have hpos := hy.natAbs_pos hr
  have hadd : x.add y = ofUnits false (x.units + y.units).natAbs 1 := by
    have hsign : ¬ x.units + y.units < 0 := by omega
    rw [Binary64.add, isNaN_of_isFinite hx.isFinite, isNaN_of_isFinite hy.isFinite,
      isInfinite_of_isFinite hx.isFinite, isInfinite_of_isFinite hy.isFinite, Bool.or_false,
      if_neg Bool.false_ne_true, if_neg Bool.false_ne_true, if_neg Bool.false_ne_true]
    dsimp only
    rw [if_neg (by omega), decide_eq_false hsign]
  rw [hadd]
  refine approximates_ofUnits Nat.one_pos hrange ?_ hk
  have hvalue : ((x.units + y.units).natAbs : ℚ) / (1 : Nat) / unitsOfOne = x.toRat + y.toRat := by
    rw [Int.natAbs_add_of_nonneg hx0 hy0, Nat.cast_add, hx.natCast_natAbs, hy.natCast_natAbs,
      ← add_mul, Nat.cast_one, div_one, mul_div_cancel_right₀ _ unitsOfOne_rat_pos.ne']
  rw [hvalue]
  exact hx.near.add hy.near

/-- To round to a whole number is to take one that is at most a half away, as a word. -/
theorem exists_round_eq (h : x.Approximates k q) :
    ∃ n : Nat, x.round = ofNat n ∧ |(n : ℚ) - x.toRat| ≤ 1 / 2 := by
  refine ⟨(2 * x.units.natAbs + unitsOfOne) / (2 * unitsOfOne), ?_, ?_⟩
  · rw [round, if_pos h.isFinite, h.isNegative]
    rfl
  · have hone := unitsOfOne_rat_pos
    have hpos : 0 < 2 * unitsOfOne := by
      have := unitsOfOne_pos
      omega
    have hdiv := Nat.div_add_mod (2 * x.units.natAbs + unitsOfOne) (2 * unitsOfOne)
    have hmod := Nat.mod_lt (2 * x.units.natAbs + unitsOfOne) hpos
    generalize (2 * x.units.natAbs + unitsOfOne) / (2 * unitsOfOne) = n at hdiv
    have hlow : 2 * unitsOfOne * n ≤ 2 * x.units.natAbs + unitsOfOne := by omega
    have hhigh : 2 * x.units.natAbs + unitsOfOne ≤ 2 * unitsOfOne * n + 2 * unitsOfOne := by omega
    have hlow' : (2 * unitsOfOne * n : ℚ) ≤ 2 * (x.toRat * unitsOfOne) + unitsOfOne := by
      rw [← h.natCast_natAbs]
      exact_mod_cast hlow
    have hhigh' : (2 * (x.toRat * unitsOfOne) + unitsOfOne : ℚ) ≤
        2 * unitsOfOne * n + 2 * unitsOfOne := by
      rw [← h.natCast_natAbs]
      exact_mod_cast hhigh
    have hbelow : (x.toRat - n) * unitsOfOne ≤ 1 / 2 * unitsOfOne := by linarith
    have habove : (n - x.toRat) * unitsOfOne ≤ 1 / 2 * unitsOfOne := by linarith
    rw [abs_le, neg_le_sub_iff_le_add, add_comm, ← sub_le_iff_le_add]
    exact ⟨le_of_mul_le_mul_right hbelow hone, le_of_mul_le_mul_right habove hone⟩

end Approximates

end Binary64

end DocumentFilter
