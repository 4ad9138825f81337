import DocumentFilter.Number.Conversion
import DocumentFilter.Proofs.Number.DecimalText
import DocumentFilter.Proofs.Number.Rational
import DocumentFilter.Proofs.Number.Rounding

/-! Floats that are short decimals.

Some floats are exactly a decimal of few digits, as all whole floats of up to fifteen digits are.
Around such a float the decimals of as many places are further apart than the floats. So its
shortest text has no choice, and the road over its significand has nothing to round: both lead to
the number itself. -/
namespace DocumentFilter

namespace Binary64

/-- The magnitude of the number `c / 10 ^ j`, with few digits. -/
structure IsShort (m c j : Nat) : Prop where
  units_eq : magnitudeUnits m * 10 ^ j = c * unitsOfOne
  lt : c < 2 ^ 52
  places_le : j ≤ 28

namespace IsShort

variable {m c j : Nat} (h : IsShort m c j)
include h

/-- The next float is closer than the next decimal. -/
theorem step_lt : 2 ^ shift m * 10 ^ j < unitsOfOne := by
  by_cases hsmall : shift m = 0
  · have hpower : 10 ^ j ≤ 10 ^ 28 := Nat.pow_le_pow_right (by decide) h.places_le
    rw [hsmall, Nat.pow_zero, Nat.one_mul]
    exact hpower.trans_lt (by decide +kernel)
  · have hsignificand : 2 ^ 52 ≤ significand m := by
      unfold shift at hsmall
      unfold significand
      split <;> omega
    have hone : 0 < unitsOfOne := Int.natCast_pos.mp unitsOfOne_pos
    have hunits := h.units_eq
    rw [magnitudeUnits_eq, Nat.mul_assoc] at hunits
    refine Nat.lt_of_mul_lt_mul_left (a := 2 ^ 52) ?_
    calc 2 ^ 52 * (2 ^ shift m * 10 ^ j) ≤ significand m * (2 ^ shift m * 10 ^ j) :=
          Nat.mul_le_mul_right _ hsignificand
      _ = c * unitsOfOne := hunits
      _ < 2 ^ 52 * unitsOfOne := Nat.mul_lt_mul_of_pos_right h.lt hone

theorem eq_zero_iff : m = 0 ↔ c = 0 := by
  have hone : unitsOfOne ≠ 0 := Nat.ne_of_gt (Int.natCast_pos.mp unitsOfOne_pos)
  have hpower : 10 ^ j ≠ 0 := Nat.ne_of_gt (Nat.pow_pos (by decide))
  have hzero : magnitudeUnits m * 10 ^ j = 0 ↔ c * unitsOfOne = 0 := by rw [h.units_eq]
  rwa [Nat.mul_eq_zero, Nat.mul_eq_zero, or_iff_left hpower, or_iff_left hone,
    magnitudeUnits_eq_zero_iff] at hzero

theorem shift_lt : shift m < 1074 := by
  have hlt : 2 ^ shift m < unitsOfOne :=
    Nat.lt_of_le_of_lt (Nat.le_mul_of_pos_right _ (Nat.pow_pos (by decide))) h.step_lt
  rw [unitsOfOne_eq] at hlt
  generalize 1074 = exponent at hlt ⊢
  exact (Nat.pow_lt_pow_iff_right (by decide)).mp hlt

end IsShort

end Binary64

/-! ### The shortest text -/

namespace Shortest

open Binary64

/-- The point of a grid nearest to a magnitude is one that reads back. -/
theorem readsBack_of_nearest? {grid : Grid} {m c : Nat} (hc : nearest? grid m = some c) :
    readsBack grid m c = true := by
  unfold nearest? at hc
  dsimp only at hc
  split at hc
  · next hlower =>
    rw [Bool.and_eq_true] at hlower
    exact Option.some.inj hc ▸ hlower.1
  · split at hc
    · next hupper => exact Option.some.inj hc ▸ hupper
    · cases hc

/-- A grid that is coarser than the one of `j` places. -/
theorem ofPlace_sub (k j : Nat) :
    0 < (Grid.ofPlace (k - j)).denominator ∧
      (Grid.ofPlace (k - j)).numerator * 10 ^ j =
        10 ^ k * (2 * unitsOfOne) * (Grid.ofPlace (k - j)).denominator := by
  unfold Grid.ofPlace
  split
  · next hcoarse =>
    obtain ⟨i, rfl⟩ : ∃ i, k = i + j := ⟨k - j, by omega⟩
    have hplace : ((i + j : Nat) - j : Int).toNat = i := by omega
    rw [hplace]
    refine ⟨Nat.one_pos, ?_⟩
    simp only [Nat.pow_eq, Nat.pow_add]
    ring
  · next hfine =>
    obtain ⟨i, rfl⟩ : ∃ i, j = i + k := ⟨j - k, by omega⟩
    have hplace : (-((k : Int) - (i + k : Nat))).toNat = i := by omega
    rw [hplace]
    refine ⟨Nat.pow_pos (by decide), ?_⟩
    simp only [Nat.pow_eq, Nat.pow_add]
    ring

/-- What reads back is not outside of the midpoints. -/
theorem readsBack_ofPlace {m k j c : Nat} (hback : readsBack (.ofPlace (k - j)) m c = true) :
    (magnitudeUnits (m - 1) + magnitudeUnits m) * 10 ^ j ≤ 2 * (c * 10 ^ k) * unitsOfOne ∧
      2 * (c * 10 ^ k) * unitsOfOne ≤ (magnitudeUnits m + magnitudeUnits (m + 1)) * 10 ^ j := by
  obtain ⟨hpos, hgrid⟩ := ofPlace_sub k j
  generalize Grid.ofPlace (k - j) = grid at hback hpos hgrid
  have hbounds : (magnitudeUnits (m - 1) + magnitudeUnits m) * grid.denominator ≤
        c * grid.numerator ∧
      c * grid.numerator ≤ (magnitudeUnits m + magnitudeUnits (m + 1)) * grid.denominator := by
    simp only [readsBack] at hback
    split at hback
    · rw [Bool.and_eq_true, decide_eq_true_eq, decide_eq_true_eq] at hback
      exact hback
    · rw [Bool.and_eq_true, decide_eq_true_eq, decide_eq_true_eq] at hback
      exact hback.imp Nat.le_of_lt Nat.le_of_lt
  have hpoint : c * grid.numerator * 10 ^ j =
      2 * (c * 10 ^ k) * unitsOfOne * grid.denominator := by
    rw [Nat.mul_assoc, hgrid]
    ring
  have hlow := Nat.mul_le_mul_right (10 ^ j) hbounds.1
  have hhigh := Nat.mul_le_mul_right (10 ^ j) hbounds.2
  rw [hpoint, Nat.mul_right_comm] at hlow
  rw [hpoint, Nat.mul_right_comm _ grid.denominator] at hhigh
  exact ⟨Nat.le_of_mul_le_mul_right hlow hpos, Nat.le_of_mul_le_mul_right hhigh hpos⟩

section
variable {m c j : Nat} (h : IsShort m c j)
include h

/-- On a grid of so many places, only the decimal itself reads back as the float. -/
theorem eq_of_readsBack {k d : Nat} (hback : readsBack (.ofPlace (k - j)) m d = true) :
    d * 10 ^ k = c := by
  obtain ⟨hlow, hhigh⟩ := readsBack_ofPlace hback
  have hstep := h.step_lt
  have hunits := h.units_eq
  have hnext : magnitudeUnits (m + 1) * 10 ^ j = c * unitsOfOne + 2 ^ shift m * 10 ^ j := by
    rw [magnitudeUnits_succ, Nat.add_mul, hunits]
  have hprevious : c * unitsOfOne ≤ magnitudeUnits (m - 1) * 10 ^ j + 2 ^ shift m * 10 ^ j := by
    rw [← hunits, ← Nat.add_mul]
    refine Nat.mul_le_mul_right _ ?_
    cases m with
    | zero => exact Nat.le_add_right ..
    | succ m =>
      have hshift : shift m ≤ shift (m + 1) := by
        unfold shift
        omega
      rw [magnitudeUnits_succ, Nat.add_sub_cancel]
      exact Nat.add_le_add_left (Nat.pow_le_pow_right (by decide) hshift) _
  have hpos : 0 < unitsOfOne := Int.natCast_pos.mp unitsOfOne_pos
  rw [Nat.add_mul, hunits] at hlow hhigh
  have hle : 2 * (d * 10 ^ k) * unitsOfOne < (2 * c + 1) * unitsOfOne := by
    rw [Nat.add_mul, Nat.mul_assoc 2 c]
    omega
  have hge : 2 * c * unitsOfOne < (2 * (d * 10 ^ k) + 1) * unitsOfOne := by
    rw [Nat.add_mul, Nat.mul_assoc 2 c]
    omega
  have := Nat.lt_of_mul_lt_mul_right hle
  have := Nat.lt_of_mul_lt_mul_right hge
  omega

/-- The grid of as many places has the decimal. -/
theorem nearest?_ofPlace (hpos : 0 < c) : nearest? (.ofPlace ((0 : Nat) - j)) m = some c := by
  obtain ⟨hdenominator, hgrid⟩ := ofPlace_sub 0 j
  generalize Grid.ofPlace ((0 : Nat) - j) = grid at hdenominator hgrid ⊢
  have hpower : 0 < 10 ^ j := Nat.pow_pos (by decide)
  have hone : 0 < unitsOfOne := Int.natCast_pos.mp unitsOfOne_pos
  have hvalue : 2 * magnitudeUnits m * grid.denominator = c * grid.numerator := by
    refine Nat.eq_of_mul_eq_mul_right hpower ?_
    calc 2 * magnitudeUnits m * grid.denominator * 10 ^ j
        = 2 * (magnitudeUnits m * 10 ^ j) * grid.denominator := by ring
      _ = c * (10 ^ 0 * (2 * unitsOfOne) * grid.denominator) := by rw [h.units_eq]; ring
      _ = c * grid.numerator * 10 ^ j := by rw [← hgrid, Nat.mul_assoc]
  have hnumerator : 0 < grid.numerator := by
    have hproduct : 0 < grid.numerator * 10 ^ j := by
      rw [hgrid]
      exact Nat.mul_pos (Nat.mul_pos Nat.one_pos (Nat.mul_pos Nat.two_pos hone)) hdenominator
    exact Nat.pos_of_mul_pos_right hproduct
  have hne := mt h.eq_zero_iff.mp (Nat.ne_of_gt hpos)
  have hbelow : magnitudeUnits (m - 1) < magnitudeUnits m :=
    magnitudeUnits_strictMono (Nat.sub_one_lt hne)
  have habove : magnitudeUnits m < magnitudeUnits (m + 1) :=
    magnitudeUnits_strictMono (Nat.lt_succ_self m)
  have hback : readsBack grid m c = true := by
    have hlow := Nat.mul_lt_mul_of_pos_right hbelow hdenominator
    have hhigh := Nat.mul_lt_mul_of_pos_right habove hdenominator
    simp only [readsBack, ← hvalue, Nat.add_mul, Nat.mul_assoc 2]
    split <;> rw [Bool.and_eq_true, decide_eq_true_eq, decide_eq_true_eq] <;> omega
  simp only [nearest?, hvalue, Nat.mul_div_cancel _ hnumerator, Nat.mul_mod_left, hback,
    Nat.mul_zero, decide_eq_true hnumerator, Bool.or_true, Bool.and_true, if_true]

/-- The search ends on that grid or on a coarser one, with the decimal. -/
theorem search_eq (hpos : 0 < c) (k fuel : Nat) (hfuel : k < fuel) :
    ∃ d p : Nat, search m (k - j) fuel = (d, (p - j : Int)) ∧ d * 10 ^ p = c := by
  induction k generalizing fuel with
  | zero =>
    obtain ⟨fuel, rfl⟩ : ∃ f, fuel = f + 1 := ⟨fuel - 1, by omega⟩
    have hlast := nearest?_ofPlace h hpos
    refine ⟨c, 0, ?_, by omega⟩
    rw [search, hlast]
  | succ k ih =>
    obtain ⟨fuel, rfl⟩ : ∃ f, fuel = f + 1 := ⟨fuel - 1, by omega⟩
    rw [search]
    cases hnearest : nearest? (Grid.ofPlace ((k + 1 : Nat) - j)) m with
    | some d =>
      exact ⟨d, k + 1, rfl, eq_of_readsBack h (readsBack_of_nearest? hnearest)⟩
    | none =>
      have hfiner : ((k + 1 : Nat) : Int) - j - 1 = (k : Nat) - j := by omega
      rw [hfiner]
      exact ih fuel (by omega)

theorem shortest_eq (hpos : 0 < c) :
    ∃ d p : Nat, shortest m = (d, (p - j : Int)) ∧ d * 10 ^ p = c := by
  rw [shortest]
  generalize (if magnitudeUnits m / unitsOfOne = 0 then 0
    else (Nat.toDigits 10 (magnitudeUnits m / unitsOfOne)).length) = top
  have hplace : (top : Int) = (top + j : Nat) - j := by omega
  have hplaces := h.places_le
  obtain ⟨d, p, hsearch, hvalue⟩ := search_eq h hpos (top + j) (top + 1075) (by omega)
  exact ⟨d, p, by rw [hplace, hsearch], hvalue⟩

end

/-- The text of the float has the digits of the decimal, with no more places. -/
theorem text_eq {x : Binary64} {c j : Nat} (h : IsShort x.magnitude c j) :
    ∃ a q, text x = (if x.isNegative then ['-'] else []) ++ Digits.positional a q ∧ q ≤ j ∧
      a * 10 ^ j = c * 10 ^ q := by
  by_cases hzero : c = 0
  · refine ⟨0, 0, ?_, Nat.zero_le _, by rw [hzero, Nat.zero_mul, Nat.zero_mul]⟩
    rw [text, if_pos (h.eq_zero_iff.mpr hzero)]
    rfl
  · obtain ⟨d, p, hshortest, hvalue⟩ := shortest_eq h (Nat.pos_of_ne_zero hzero)
    rw [text, if_neg (mt h.eq_zero_iff.mp hzero), hshortest]
    dsimp only
    by_cases hcoarse : (0 : Int) ≤ p - j
    · obtain ⟨i, rfl⟩ : ∃ i, p = i + j := ⟨p - j, by omega⟩
      have hplace : ((i + j : Nat) - j : Int).toNat = i := by omega
      refine ⟨d * 10 ^ i, 0, by rw [if_pos hcoarse, hplace, Nat.pow_eq], Nat.zero_le _, ?_⟩
      rw [Nat.mul_assoc, ← Nat.pow_add, hvalue, Nat.pow_zero, Nat.mul_one]
    · obtain ⟨i, rfl⟩ : ∃ i, j = i + p := ⟨j - p, by omega⟩
      have hplace : (-((p : Int) - (i + p : Nat))).toNat = i := by omega
      refine ⟨d, i, by rw [if_neg hcoarse, hplace], by omega, ?_⟩
      rw [Nat.pow_add, Nat.mul_left_comm, hvalue, Nat.mul_comm]

end Shortest

/-! ### Decimals that are exactly a float -/

namespace Decimal

open Binary64

/-- The decimal is exactly the float. -/
def Denotes (d : Decimal) (x : Binary64) : Prop :=
  d.coefficient * unitsOfOne = x.units * 10 ^ d.scale

theorem toRat_eq_of_denotes {d e : Decimal} {x : Binary64} (hd : d.Denotes x) (he : e.Denotes x) :
    d.toRat = e.toRat := by
  have hone : (unitsOfOne : ℚ) ≠ 0 := by
    exact_mod_cast unitsOfOne_pos.ne'
  have hunits {d : Decimal} (h : d.Denotes x) : d.toRat = x.units / unitsOfOne := by
    rw [toRat, div_eq_div_iff (pow_ne_zero _ (by decide)) hone]
    exact_mod_cast h
  rw [hunits hd, hunits he]

section
variable {x : Binary64} {c j : Nat} (h : IsShort x.magnitude c j)
include h

theorem lt_of_mul_pow_eq {a q : Nat} (hq : q ≤ j) (hvalue : a * 10 ^ j = c * 10 ^ q) :
    a < 2 ^ 52 := by
  have hpower : 10 ^ q ≤ 10 ^ j := Nat.pow_le_pow_right (by decide) hq
  have hle : a * 10 ^ j ≤ c * 10 ^ j := hvalue.trans_le (Nat.mul_le_mul_left _ hpower)
  exact Nat.lt_of_le_of_lt (Nat.le_of_mul_le_mul_right hle (Nat.pow_pos (by decide))) h.lt

/-- With whatever places the decimal is written, its digits fit and it is the float. -/
theorem exists_ofParts?_eq {a q : Nat} (hq : q ≤ j) (hvalue : a * 10 ^ j = c * 10 ^ q) :
    ∃ d, ofParts? (if x.isNegative then -(a : Int) else a) q = some d ∧ d.Denotes x := by
  have hlt := lt_of_mul_pow_eq h hq hvalue
  have hparts : (if x.isNegative then -(a : Int) else a).natAbs < limit ∧ q ≤ 28 := by
    refine ⟨?_, hq.trans h.places_le⟩
    unfold limit
    split <;> omega
  have hunits : a * unitsOfOne = magnitudeUnits x.magnitude * 10 ^ q := by
    refine Nat.eq_of_mul_eq_mul_right (Nat.pow_pos (by decide) : 0 < 10 ^ j) ?_
    calc a * unitsOfOne * 10 ^ j = a * 10 ^ j * unitsOfOne := Nat.mul_right_comm ..
      _ = c * unitsOfOne * 10 ^ q := by rw [hvalue, Nat.mul_right_comm]
      _ = magnitudeUnits x.magnitude * 10 ^ q * 10 ^ j := by rw [← h.units_eq, Nat.mul_right_comm]
  have hunits' : (a : Int) * unitsOfOne = magnitudeUnits x.magnitude * 10 ^ q := by
    exact_mod_cast hunits
  refine ⟨_, dif_pos hparts, ?_⟩
  rw [Denotes, units]
  dsimp only
  split
  · rw [Int.neg_mul, Int.neg_mul, hunits']
  · exact hunits'

theorem isFinite_of_isShort : x.isFinite = true := by
  obtain ⟨m, hm, hunits⟩ := isUnits_whole (n := 2 ^ 52) (by decide)
  have hlt : magnitudeUnits x.magnitude < magnitudeUnits m := by
    have hone : 0 < unitsOfOne := Int.natCast_pos.mp unitsOfOne_pos
    calc magnitudeUnits x.magnitude ≤ magnitudeUnits x.magnitude * 10 ^ j :=
          Nat.le_mul_of_pos_right _ (Nat.pow_pos (by decide))
      _ = c * unitsOfOne := h.units_eq
      _ < 2 ^ 52 * unitsOfOne := Nat.mul_lt_mul_of_pos_right h.lt hone
      _ = magnitudeUnits m := by rw [hunits, Int.natAbs_mul, Int.natAbs_natCast]; rfl
  exact decide_eq_true ((magnitudeUnits_strictMono.lt_iff_lt.mp hlt).trans hm)

theorem exists_ofShortest?_eq : ∃ d, ofShortest? x = some d ∧ d.Denotes x := by
  obtain ⟨a, q, htext, hq, hvalue⟩ := Shortest.text_eq h
  have hlimit : a < limit := (lt_of_mul_pow_eq h hq hvalue).trans (by decide)
  obtain ⟨d, hparts, hd⟩ := exists_ofParts?_eq h hq hvalue
  rw [ofShortest?, if_pos (isFinite_of_isShort h), htext,
    readPlain?_signed x.isNegative hlimit (hq.trans h.places_le), hparts]
  exact ⟨d, rfl, hd⟩

end

/-! ### The road over the significand -/

namespace Scaled

/-- An odd coefficient has no power of two left to make tens of. -/
theorem le_of_odd {a r q c j : Nat} (hodd : a % 2 = 1) (hvalue : a * 5 ^ r * 10 ^ j = c * 10 ^ q) :
    q ≤ j := by
  by_contra hlt
  obtain ⟨i, rfl⟩ : ∃ i, q = i + 1 + j := ⟨q - j - 1, by omega⟩
  rw [Nat.pow_add 10 (i + 1), ← Nat.mul_assoc] at hvalue
  have heq := Nat.eq_of_mul_eq_mul_right (Nat.pow_pos (by decide)) hvalue
  have hleft : Odd (a * 5 ^ r) := (Nat.odd_iff.mpr hodd).mul (Odd.pow (by decide))
  have hright : Even (c * 10 ^ (i + 1)) := (Even.pow_of_ne_zero (by decide) (by omega)).mul_left c
  exact Nat.not_even_iff_odd.mpr (heq ▸ hleft) hright

/-- The power of two is turned into tens and fives, and no digit is lost: a decimal with few digits
has few places. -/
theorem exists_timesFive_eq {a r q c j : Nat} (hc : c < 2 ^ 52) (hr : r ≤ q)
    (hvalue : a * 5 ^ r * 10 ^ j = c * 10 ^ q) :
    ∃ a' q' : Nat, timesFive ⟨a, -q⟩ r = ⟨a', -q'⟩ ∧ a' * 10 ^ j = c * 10 ^ q' ∧
      (q' ≤ j ∨ q' ≤ q - r) := by
  induction r generalizing a q with
  | zero =>
    rw [Nat.pow_zero, Nat.mul_one] at hvalue
    exact ⟨a, q, rfl, hvalue, .inr (Nat.le_refl _)⟩
  | succ r ih =>
    have hfive : a * 5 * 5 ^ r * 10 ^ j = c * 10 ^ q := by
      rw [← hvalue, Nat.pow_succ', ← Nat.mul_assoc]
    rw [timesFive]
    split
    · next hodd =>
      have hplaces := le_of_odd hodd.1 hvalue
      obtain ⟨a', q', hresult, hvalue', hfew⟩ := ih (Nat.le_of_succ_le hr) hfive
      exact ⟨a', q', hresult, hvalue', .inl (by omega)⟩
    · next hlast =>
      have heven : a % 2 = 0 := by
        -- An odd coefficient would have room for the five: with it, it is not above the decimal's.
        by_contra heven
        have hodd : a % 2 = 1 := Nat.mod_two_ne_zero.mp heven
        have hplaces := le_of_odd hodd hvalue
        obtain ⟨i, rfl⟩ : ∃ i, j = i + q := ⟨j - q, by omega⟩
        rw [Nat.pow_add 10 i, ← Nat.mul_assoc] at hvalue
        have heq := Nat.eq_of_mul_eq_mul_right (Nat.pow_pos (by decide)) hvalue
        have hle : a * 5 ≤ c := by
          calc a * 5 ≤ a * 5 * (5 ^ r * 10 ^ i) :=
                Nat.le_mul_of_pos_right _ (Nat.mul_pos (Nat.pow_pos (by decide))
                  (Nat.pow_pos (by decide)))
            _ = c := by rw [← heq, Nat.pow_succ']; ring
        exact hlast ⟨hodd, hle.trans_lt (hc.trans (by decide))⟩
      obtain ⟨b, rfl⟩ : ∃ b, a = 2 * b := ⟨a / 2, by omega⟩
      obtain ⟨p, rfl⟩ : ∃ p, q = p + 1 := ⟨q - 1, by omega⟩
      have hten : b * 5 ^ r * 10 ^ j = c * 10 ^ p := by
        refine Nat.eq_of_mul_eq_mul_left (by decide : 0 < 10) ?_
        calc 10 * (b * 5 ^ r * 10 ^ j) = 2 * b * 5 ^ (r + 1) * 10 ^ j := by ring
          _ = 10 * (c * 10 ^ p) := by rw [hvalue, Nat.pow_succ]; ring
      obtain ⟨a', q', hresult, hvalue', hfew⟩ := ih (Nat.le_of_succ_le_succ hr) hten
      have hexponent : -((p + 1 : Nat) : Int) + 1 = -p := by omega
      refine ⟨a', q', ?_, hvalue', by omega⟩
      rw [hexponent, Nat.mul_div_cancel_left b Nat.two_pos, hresult]

theorem fitPlaces_eq {s : Scaled} (h : -28 ≤ s.exponent) (fuel : Nat) : s.fitPlaces fuel = s := by
  cases fuel with
  | zero => rfl
  | succ fuel => rw [fitPlaces, if_neg (by omega)]

theorem fitPrecision_eq {s : Scaled} (h : s.coefficient < 2 ^ 52) (fuel : Nat) :
    s.fitPrecision fuel = s := by
  cases fuel with
  | zero => rfl
  | succ fuel => rw [fitPrecision, if_neg (by omega)]

/-- Zeros at the end of the fraction are dropped with their places. -/
theorem exists_dropZeros_eq (a q fuel : Nat) :
    ∃ a' q' : Nat, dropZeros ⟨a, -q⟩ fuel = ⟨a', -q'⟩ ∧ q' ≤ q ∧ a' * 10 ^ q = a * 10 ^ q' := by
  induction fuel generalizing a q with
  | zero => exact ⟨a, q, rfl, Nat.le_refl q, rfl⟩
  | succ fuel ih =>
    rw [dropZeros]
    split
    · next hzero =>
      obtain ⟨hplaces, hlast⟩ : -(q : Int) < 0 ∧ a % 10 = 0 := hzero
      obtain ⟨b, rfl⟩ : ∃ b, a = 10 * b := ⟨a / 10, by omega⟩
      obtain ⟨p, rfl⟩ : ∃ p, q = p + 1 := ⟨q - 1, by omega⟩
      have hexponent : -((p + 1 : Nat) : Int) + 1 = -p := by omega
      obtain ⟨a', q', hresult, hle, hvalue⟩ := ih b p
      refine ⟨a', q', ?_, by omega, ?_⟩
      · rw [hexponent, Nat.mul_div_cancel_left b (by decide), hresult]
      · rw [Nat.pow_succ, ← Nat.mul_assoc, hvalue]
        ring
    · exact ⟨a, q, rfl, Nat.le_refl q, rfl⟩

theorem toDecimal?_eq (a q : Nat) (negative : Bool) :
    toDecimal? ⟨a, -q⟩ negative = ofParts? (if negative then -(a : Int) else a) q := by
  have hnone : (-(q : Int)).toNat = 0 := by omega
  have hplaces : (-(-(q : Int))).toNat = q := by omega
  simp only [toDecimal?, hnone, hplaces, Nat.pow_eq, Nat.pow_zero, Nat.mul_one]

end Scaled

section
variable {x : Binary64} {c j : Nat} (h : IsShort x.magnitude c j)
include h

/-- When no power of two is left, only zeros are. -/
theorem exists_toDecimal?_eq {a q : Nat} (hq : q ≤ j) (hvalue : a * 10 ^ j = c * 10 ^ q) :
    let fitted := (Scaled.mk a (-q)).fitPlaces (-(q : Int)).natAbs
    let precise := fitted.fitPrecision fitted.exponent.natAbs
    ∃ d, (precise.dropZeros precise.exponent.natAbs).toDecimal? x.isNegative = some d ∧
      d.Denotes x := by
  have hplaces : -28 ≤ (Scaled.mk a (-q)).exponent := by
    have hle := h.places_le
    show -28 ≤ -(q : Int)
    omega
  have hlt : (Scaled.mk a (-q)).coefficient < 2 ^ 52 := lt_of_mul_pow_eq h hq hvalue
  rw [Scaled.fitPlaces_eq hplaces]
  dsimp only
  rw [Scaled.fitPrecision_eq hlt]
  obtain ⟨a', q', hresult, hle, hvalue'⟩ := Scaled.exists_dropZeros_eq a q (-(q : Int)).natAbs
  rw [hresult, Scaled.toDecimal?_eq]
  refine exists_ofParts?_eq h (hle.trans hq) ?_
  refine Nat.eq_of_mul_eq_mul_right (Nat.pow_pos (by decide) : 0 < 10 ^ q) ?_
  calc a' * 10 ^ j * 10 ^ q = a * 10 ^ q' * 10 ^ j := by rw [← hvalue', Nat.mul_right_comm]
    _ = c * 10 ^ q' * 10 ^ q := by rw [Nat.mul_right_comm, hvalue, Nat.mul_right_comm]

/-- Over its significand, too, the float is led to the decimal. -/
theorem exists_ofBinary?_eq : ∃ d, ofBinary? x = some d ∧ d.Denotes x := by
  rw [ofBinary?, isFinite_of_isShort h, Bool.not_true, if_neg Bool.false_ne_true]
  split
  · next hzero =>
    have hnone : 0 * 10 ^ j = c * 10 ^ 0 := by
      rw [h.eq_zero_iff.mp hzero, Nat.zero_mul, Nat.zero_mul]
    have hstart : (⟨0, 0⟩ : Scaled) = ⟨0, -(0 : Nat)⟩ := rfl
    rw [hstart]
    exact exists_toDecimal?_eq h (Nat.zero_le _) hnone
  · have hshift := h.shift_lt
    obtain ⟨r, hr⟩ : ∃ r, shift x.magnitude + r = 1074 := ⟨1074 - shift x.magnitude, by omega⟩
    have hpower : (shift x.magnitude : Int) - 1074 = -r := by omega
    have hcount : (-(-(r : Int))).toNat = r := by omega
    have hstart : significand x.magnitude * 5 ^ r * 10 ^ j = c * 10 ^ r := by
      have hone : unitsOfOne = 2 ^ (shift x.magnitude + r) := by rw [unitsOfOne_eq, hr]
      have hten : 10 ^ r = 2 ^ r * 5 ^ r := by rw [← Nat.mul_pow]
      refine Nat.eq_of_mul_eq_mul_right (Nat.two_pow_pos (shift x.magnitude)) ?_
      calc significand x.magnitude * 5 ^ r * 10 ^ j * 2 ^ shift x.magnitude
          = significand x.magnitude * 2 ^ shift x.magnitude * 10 ^ j * 5 ^ r := by ring
        _ = c * 2 ^ (shift x.magnitude + r) * 5 ^ r := by
          rw [← magnitudeUnits_eq, h.units_eq, hone]
        _ = c * 10 ^ r * 2 ^ shift x.magnitude := by
          rw [hten, Nat.pow_add]
          ring
    rw [hpower, if_pos (by omega), hcount]
    obtain ⟨a, q, hresult, hvalue, hfew⟩ :=
      Scaled.exists_timesFive_eq h.lt (Nat.le_refl r) hstart
    rw [hresult]
    exact exists_toDecimal?_eq h (by omega) hvalue

end

end Decimal

end DocumentFilter
