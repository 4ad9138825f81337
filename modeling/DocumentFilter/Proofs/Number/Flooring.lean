import Mathlib.Algebra.Order.Group.Int
import Mathlib.Algebra.Order.Ring.Int
import Mathlib.Tactic.Ring

/-! Floors and floored remainders.

A number is a whole count of steps, so many of which make one. Its floor is the floored quotient
of the two. A remainder toward zero is mended into the floored one by adding the divisor where
the signs differ (`fmod_eq_mended`), and to take the floor after the remainder is not quite to
take it before: `fdiv_fmod_mul` says where the two differ. -/
namespace DocumentFilter.Flooring

variable {n k u d : Int}

/-! ### Floors -/

theorem le_fdiv_iff (hu : 0 < u) : k ≤ n.fdiv u ↔ k * u ≤ n := by
  rw [Int.fdiv_eq_ediv_of_nonneg _ hu.le, Int.le_ediv_iff_mul_le hu]

theorem fdiv_lt_iff (hu : 0 < u) : n.fdiv u < k ↔ n < k * u := by
  rw [Int.fdiv_eq_ediv_of_nonneg _ hu.le, Int.ediv_lt_iff_lt_mul hu]

/-- What lies between a whole number and the next has one of the two for its floor. -/
theorem fdiv_eq_or_eq_succ (hu : 0 < u) (hlow : k * u ≤ n) (hhigh : n ≤ (k + 1) * u) :
    n.fdiv u = k ∨ n.fdiv u = k + 1 := by
  have hle := (le_fdiv_iff hu).mpr hlow
  have hlt : n < (k + 1 + 1) * u := by
    rw [Int.add_mul (k + 1)]
    omega
  have := (fdiv_lt_iff hu).mpr hlt
  omega

/-- A part of a step above a whole number does not show in the floor. -/
theorem fdiv_mul_add {f : Int} (k : Int) (hlow : 0 ≤ f) (hhigh : f < u) :
    (k * u + f).fdiv u = k := by
  rw [Int.mul_add_fdiv_right _ _ (by omega), Int.fdiv_eq_zero_of_lt hlow hhigh, Int.zero_add]

/-! ### Remainders -/

theorem tmod_nonpos {a : Int} (b : Int) (h : a ≤ 0) : a.tmod b ≤ 0 := by
  have := Int.tmod_nonneg b (Int.neg_nonneg.mpr h)
  rw [Int.neg_tmod] at this
  omega

/-- A remainder toward zero becomes the floored one by adding the divisor where the signs
differ. -/
theorem fmod_eq_mended (a b : Int) :
    a.fmod b = if a.tmod b ≠ 0 ∧ ¬ (a.tmod b < 0 ↔ b < 0) then a.tmod b + b else a.tmod b := by
  have hdvd : b ∣ a ↔ a.tmod b = 0 := Int.dvd_iff_tmod_eq_zero
  have hpos : 0 ≤ a → 0 ≤ a.tmod b := Int.tmod_nonneg b
  have hneg : a ≤ 0 → a.tmod b ≤ 0 := tmod_nonpos b
  rw [Int.fmod_eq_tmod]
  repeat' split
  all_goals omega

/-- The same for a divisor that was moved to the grid of the number. -/
theorem fmod_mul_eq_mended (hu : 0 < u) (n d : Int) :
    n.fmod (d * u) =
      if n.tmod (d * u) ≠ 0 ∧ ¬ (n.tmod (d * u) < 0 ↔ d < 0) then n.tmod (d * u) + d * u
      else n.tmod (d * u) := by
  have hsign : d * u < 0 ↔ d < 0 := by
    rw [← Int.not_le, mul_nonneg_iff_of_pos_right hu, Int.not_le]
  rw [fmod_eq_mended]
  exact if_congr (and_congr_right fun _ => not_congr (iff_congr Iff.rfl hsign)) rfl rfl

/-- Whole steps that were taken off do not change the part of a step that is left. -/
theorem fmod_mul_fmod (n d u : Int) : (n.fmod (d * u)).fmod u = n.fmod u := by
  have hsteps : d * u * n.fdiv (d * u) = u * (d * n.fdiv (d * u)) := by ring
  rw [Int.fmod_def n (d * u), hsteps, Int.sub_mul_fmod_self_left]

theorem natAbs_fmod_lt (a : Int) {b : Int} (hb : b ≠ 0) : (a.fmod b).natAbs < b.natAbs := by
  rcases Int.lt_or_gt_of_ne hb with hneg | hpos
  · obtain ⟨-, hbounds⟩ := (Int.fdiv_fmod_unique' (a := a) hneg).mp ⟨rfl, rfl⟩
    omega
  · obtain ⟨-, hbounds⟩ := (Int.fdiv_fmod_unique (a := a) hpos).mp ⟨rfl, rfl⟩
    omega

/-- A residue of the floor, with the part of a step above it, is the residue of the number when it
is one at all. -/
theorem fdiv_fmod_mul_eq {r q : Int} (hu : 0 < u) (hfloor : r + d * q = n.fdiv u)
    (hrange : 0 ≤ r * u + n.fmod u ∧ r * u + n.fmod u < d * u ∨
      d * u < r * u + n.fmod u ∧ r * u + n.fmod u ≤ 0) :
    (n.fmod (d * u)).fdiv u = r := by
  have hn : r * u + n.fmod u + d * u * q = n := by
    calc r * u + n.fmod u + d * u * q = (r + d * q) * u + n.fmod u := by ring
      _ = n.fdiv u * u + n.fmod u := by rw [hfloor]
      _ = n := Int.fdiv_mul_add_fmod n u
  have hmod : n.fmod (d * u) = r * u + n.fmod u := by
    rcases hrange with hpos | hneg
    · exact ((Int.fdiv_fmod_unique (by omega)).mpr ⟨hn, hpos⟩).2
    · exact ((Int.fdiv_fmod_unique' (by omega)).mpr ⟨hn, hneg⟩).2
  rw [hmod, fdiv_mul_add r (Int.fmod_nonneg_of_pos n hu) (Int.fmod_lt_of_pos n hu)]

/-- **The floor of a remainder is the remainder of the floor**, but where the divisor is negative
and divides the floor of a number that is not whole. There it is the divisor itself. -/
theorem fdiv_fmod_mul (hu : 0 < u) (hd : d ≠ 0) :
    (n.fmod (d * u)).fdiv u =
      if d < 0 ∧ ¬ u ∣ n ∧ d ∣ n.fdiv u then d else (n.fdiv u).fmod d := by
  have hwhole : u ∣ n ↔ n.fmod u = 0 := Int.dvd_iff_fmod_eq_zero
  have hmultiple : d ∣ n.fdiv u ↔ (n.fdiv u).fmod d = 0 := Int.dvd_iff_fmod_eq_zero
  have hf0 := Int.fmod_nonneg_of_pos n hu
  have hfu := Int.fmod_lt_of_pos n hu
  have hfloor := Int.fmod_add_mul_fdiv (n.fdiv u) d
  rcases Int.lt_or_gt_of_ne hd with hneg | hpos
  · obtain ⟨-, hlow, hhigh⟩ := (Int.fdiv_fmod_unique' (a := n.fdiv u) hneg).mp ⟨rfl, rfl⟩
    by_cases hslip : ¬ u ∣ n ∧ d ∣ n.fdiv u
    · -- The residue would be zero, but the part of a step is on the wrong side of it.
      have hpart : n.fmod u ≠ 0 := fun h => hslip.1 (hwhole.mpr h)
      have hback : d + d * ((n.fdiv u).fdiv d - 1) = n.fdiv u := by
        rw [hmultiple.mp hslip.2] at hfloor
        rw [Int.mul_sub, Int.mul_one]
        omega
      have hle : (d + 1) * u ≤ 0 := Int.mul_nonpos_of_nonpos_of_nonneg hneg hu.le
      rw [Int.add_mul, Int.one_mul] at hle
      rw [if_pos ⟨hneg, hslip⟩]
      exact fdiv_fmod_mul_eq hu hback (.inr ⟨by omega, by omega⟩)
    · have hpart : (n.fdiv u).fmod d = 0 → n.fmod u = 0 := fun h =>
        hwhole.mp (not_imp_comm.mp (not_and.mp hslip) (not_not_intro (hmultiple.mpr h)))
      have hge : (d + 1) * u ≤ (n.fdiv u).fmod d * u := Int.mul_le_mul_of_nonneg_right hlow hu.le
      have hle : (n.fdiv u).fmod d * u + n.fmod u ≤ 0 := by
        rcases Int.lt_or_eq_of_le hhigh with hlt | heq
        · have := Int.mul_le_mul_of_nonneg_right (Int.add_one_le_of_lt hlt) hu.le
          rw [Int.add_mul, Int.one_mul, Int.zero_mul] at this
          omega
        · rw [heq, hpart heq]
          omega
      rw [Int.add_mul, Int.one_mul] at hge
      rw [if_neg fun h => hslip h.2]
      exact fdiv_fmod_mul_eq hu hfloor (.inr ⟨by omega, hle⟩)
  · obtain ⟨-, hlow, hhigh⟩ := (Int.fdiv_fmod_unique (a := n.fdiv u) hpos).mp ⟨rfl, rfl⟩
    have hle : ((n.fdiv u).fmod d + 1) * u ≤ d * u := Int.mul_le_mul_of_nonneg_right hhigh hu.le
    have hge : 0 ≤ (n.fdiv u).fmod d * u := Int.mul_nonneg hlow hu.le
    rw [Int.add_mul, Int.one_mul] at hle
    rw [if_neg fun h => absurd h.1 (Int.not_lt.mpr hpos.le)]
    exact fdiv_fmod_mul_eq hu hfloor (.inl ⟨by omega, by omega⟩)

end DocumentFilter.Flooring
