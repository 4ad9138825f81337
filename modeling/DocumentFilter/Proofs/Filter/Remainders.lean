import DocumentFilter.Filter.Leaf
import DocumentFilter.Proofs.Filter.Operands
import DocumentFilter.Proofs.Number.DecimalSum
import DocumentFilter.Proofs.Number.Rounding

/-! What a number leaves when it is divided.

A number is divided as it is and its remainder is rounded down, where the rule would round the
number down and then divide. The two answers part in two ways. A negative divisor gives itself,
which is no residue, for a number that is just above one of its multiples. And where the divisor
is added to mend the sign, the sum may be rounded up to the next whole number. `leaves_iff` has
both; for all other numbers it is the rule. -/
namespace DocumentFilter

/-- How many steps of the last place make one. -/
def Decimal.unit (d : Decimal) : Int := (10 ^ d.scale : Nat)

theorem Decimal.unit_pos (d : Decimal) : 0 < d.unit :=
  Int.natCast_pos.mpr (Nat.pow_pos (by decide))

theorem Decimal.natAbs_mul_unit (d : Decimal) (k : Int) :
    (k * d.unit).natAbs = k.natAbs * 10 ^ d.scale := by
  rw [Int.natAbs_mul, unit, Int.natAbs_natCast]

namespace Value

/-! ### Numbers on a grid -/

/-- A number as a count of steps, and how many of these make one. -/
def grid? : Value → Option (Int × Int)
  | integer n => some (n.toInt, 1)
  | float x => if x.isFinite then some (x.units, Binary64.unitsOfOne) else none
  | decimal x => some (x.coefficient, x.unit)
  | _ => none

/-- What rounding may add to an answer: one, and only where the divisor was added to the remainder
of a number on the other side of zero that is not whole, but that is closer to the next whole
number than `2 ^ -52` of the divisor. -/
def Carry (n u d carry : Int) : Prop :=
  carry = 0 ∨
    carry = 1 ∧ ¬ u ∣ n ∧ (n < 0 ↔ 0 < d) ∧ (u - n.fmod u) * 2 ^ 52 ≤ d.natAbs * u

variable {n u d : Int}

/-- How far a remainder is below the next whole number is how far the number is. -/
theorem succ_fdiv_mul_sub (n u d : Int) :
    ((n.fmod (d * u)).fdiv u + 1) * u - n.fmod (d * u) = u - n.fmod u := by
  have hfloor := Int.fdiv_mul_add_fmod (n.fmod (d * u)) u
  rw [Flooring.fmod_mul_fmod] at hfloor
  rw [Int.add_mul, Int.one_mul]
  omega

theorem exists_carry (hu : 0 < u) {answer : Int}
    (h : answer = (n.fmod (d * u)).fdiv u ∨
      answer = (n.fmod (d * u)).fdiv u + 1 ∧ n.fmod (d * u) ≠ n.tmod (d * u) ∧
        ¬ u ∣ n.fmod (d * u) ∧ (u - n.fmod u) * 2 ^ 52 ≤ d.natAbs * u) :
    ∃ carry, Carry n u d carry ∧ answer = (n.fmod (d * u)).fdiv u + carry := by
  rcases h with h | ⟨h, hmended, hpart, hclose⟩
  · exact ⟨0, .inl rfl, h.trans (Int.add_zero _).symm⟩
  · refine ⟨1, .inr ⟨rfl, fun hwhole => hpart ?_, ?_, hclose⟩, h⟩
    · rw [Int.dvd_iff_fmod_eq_zero, Flooring.fmod_mul_fmod]
      exact Int.dvd_iff_fmod_eq_zero.mp hwhole
    · have hpos := Int.tmod_nonneg (a := n) (d * u)
      have hneg := Flooring.tmod_nonpos (a := n) (d * u)
      rw [Flooring.fmod_mul_eq_mended hu] at hmended
      split at hmended
      · next hsigns =>
        have hd : d ≠ 0 := by
          rintro rfl
          exact hmended (by rw [Int.zero_mul, Int.add_zero])
        omega
      · exact absurd rfl hmended

/-- The answer before any rounding is between zero and the divisor, both included. -/
theorem natAbs_fdiv_fmod_le (hu : 0 < u) (hd : d ≠ 0) :
    ((n.fmod (d * u)).fdiv u).natAbs ≤ d.natAbs ∧
      ((n.fmod (d * u)).fdiv u + 1).natAbs ≤ d.natAbs := by
  rw [Flooring.fdiv_fmod_mul hu hd]
  split
  · omega
  · rcases Int.lt_or_gt_of_ne hd with hneg | hpos
    · obtain ⟨-, hbounds⟩ := (Int.fdiv_fmod_unique' (a := n.fdiv u) hneg).mp ⟨rfl, rfl⟩
      omega
    · obtain ⟨-, hbounds⟩ := (Int.fdiv_fmod_unique (a := n.fdiv u) hpos).mp ⟨rfl, rfl⟩
      omega

/-! ### The three kinds of numbers -/

theorem signs_differ_iff (r d : Int) :
    (r != 0 && decide (r < 0) != decide (d < 0)) = true ↔ r ≠ 0 ∧ ¬ (r < 0 ↔ d < 0) := by
  rw [Bool.and_eq_true, bne_iff_ne, bne_iff_ne, Ne, Ne, decide_eq_decide]

theorem integerRemainder_eq (n divisor : Int64) :
    integerRemainder n divisor = n.toInt.fmod divisor.toInt := by
  simp only [integerRemainder, signs_differ_iff, Flooring.fmod_eq_mended]

/-- **The remainder of a float is the floored one of its exact value**, rounded where it was
mended. -/
theorem units_floatRemainder {x : Binary64} (hx : x.isFinite = true) {divisor : Int64}
    (hne : divisor.toInt ≠ 0) (hle : divisor.toInt.natAbs ≤ 2 ^ 53) :
    (floatRemainder x divisor).units =
      (Binary64.nearest (x.units.fmod (divisor.toInt * Binary64.unitsOfOne))).units := by
  have hunits := Binary64.units_ofInt hle
  have hfinite := Binary64.isFinite_ofInt hle
  have hmagnitude := Binary64.magnitude_ofInt_ne_zero hne
  have hne' := mt (Binary64.units_eq_zero_iff _).mp hmagnitude
  have hremainder := Binary64.units_remainder hx hfinite hmagnitude
  have hword := Binary64.isUnits_tmod hx hmagnitude
  have hsign := Binary64.isNegative_iff hne'
  rw [← hremainder] at hword
  have hfinite' := Binary64.isFinite_of_isUnits hword
  have hzero := Binary64.units_eq_zero_iff (x.remainder (.ofInt divisor.toInt))
  have hsign' : (x.remainder (.ofInt divisor.toInt)).magnitude ≠ 0 → _ := fun h =>
    Binary64.isNegative_iff (mt hzero.mp h)
  rw [hunits] at hremainder hsign
  rw [Flooring.fmod_eq_mended, ← hremainder]
  unfold floatRemainder
  dsimp only
  split
  · next hmend =>
    rw [Bool.and_eq_true, bne_iff_ne, bne_iff_ne, Ne, Ne, Bool.eq_iff_iff] at hmend
    rw [if_pos ⟨mt hzero.mp hmend.1, by rw [← hsign' hmend.1, ← hsign]; exact hmend.2⟩, ← hunits]
    exact Binary64.units_add hfinite' hfinite
  · next hmend =>
    rw [Bool.and_eq_true, bne_iff_ne, bne_iff_ne, Ne, Ne, Bool.eq_iff_iff] at hmend
    rw [if_neg, hword.units_nearest]
    rintro ⟨h, hsigns⟩
    have hmagnitude' := mt hzero.mpr h
    rw [← hsign' hmagnitude', ← hsign] at hsigns
    exact hmend ⟨hmagnitude', hsigns⟩

theorem exists_floor_floatRemainder {x : Binary64} (hx : x.isFinite = true) {divisor : Int64}
    (hne : divisor.toInt ≠ 0) (hlt : divisor.toInt.natAbs < 2 ^ 53) :
    ∃ carry, Carry x.units Binary64.unitsOfOne divisor.toInt carry ∧
      (floatRemainder x divisor).floor =
        (x.units.fmod (divisor.toInt * Binary64.unitsOfOne)).fdiv Binary64.unitsOfOne + carry := by
  have hpos := Binary64.unitsOfOne_pos
  obtain ⟨hlow, hhigh⟩ := natAbs_fdiv_fmod_le (n := x.units) hpos hne
  have hfloor := Binary64.floor_nearest (hlow.trans hlt.le) (hhigh.trans hlt.le)
  refine exists_carry hpos ?_
  rw [Binary64.floor, units_floatRemainder hx hne hlt.le]
  refine hfloor.imp_right fun ⟨h, hgap⟩ => ?_
  -- The sum is no word: else the next whole number would be reached already.
  have hword : ¬ Binary64.IsUnits (x.units.fmod (divisor.toInt * Binary64.unitsOfOne)) := fun hw =>
    Int.not_lt.mpr (hgap _ hw (Int.le_refl _)) (Int.lt_fdiv_add_one_mul_self _ hpos)
  refine ⟨h, fun heq => hword ?_, fun hwhole => hword ?_, ?_⟩
  · rw [heq, ← Binary64.units_ofInt hlt.le]
    exact Binary64.isUnits_tmod hx (Binary64.magnitude_ofInt_ne_zero hne)
  · rw [← Int.fdiv_mul_cancel hwhole]
    exact Binary64.isUnits_whole (hlow.trans hlt.le)
  · obtain ⟨k, hk, hbelow, hclose⟩ := Binary64.exists_isUnits_below (hhigh.trans_lt hlt)
    have hpassed : k < x.units.fmod (divisor.toInt * Binary64.unitsOfOne) :=
      Int.not_le.mp fun hle => Int.not_lt.mpr (hgap k hk hle) hbelow
    have hdivisor : max 1 ((x.units.fmod (divisor.toInt * Binary64.unitsOfOne)).fdiv
        Binary64.unitsOfOne + 1).natAbs ≤ divisor.toInt.natAbs :=
      Nat.max_le.mpr ⟨Int.natAbs_pos.mpr hne, hhigh⟩
    rw [← succ_fdiv_mul_sub x.units Binary64.unitsOfOne divisor.toInt]
    refine (Int.mul_le_mul_of_nonneg_right (Int.sub_le_sub_left hpassed.le _) ?_).trans ?_
    · decide
    · exact hclose.trans (Int.mul_le_mul_of_nonneg_right (by exact_mod_cast hdivisor) hpos.le)

section
variable (x : Decimal) {divisor : Int64} (hne : divisor.toInt ≠ 0)
  (hsigns : (x.remainder divisor.toInt).coefficient ≠ 0 ∧
    ¬ ((x.remainder divisor.toInt).coefficient < 0 ↔ divisor.toInt < 0))
include hsigns

theorem fmod_eq_coefficient_add :
    x.coefficient.fmod (divisor.toInt * x.unit) =
      (x.remainder divisor.toInt).coefficient + divisor.toInt * x.unit := by
  rw [Flooring.fmod_mul_eq_mended x.unit_pos]
  exact if_pos hsigns

/-- A remainder and the divisor, of opposite signs, add up to the floored remainder. -/
theorem exactSum_remainder :
    (x.remainder divisor.toInt).exactSum (.ofInt64 divisor) =
      x.coefficient.fmod (divisor.toInt * x.unit) := by
  rw [fmod_eq_coefficient_add x hsigns, Decimal.exactSum]
  simp only [Decimal.remainder, Decimal.ofInt64, Nat.max_zero, Nat.sub_self, Nat.sub_zero]
  exact congrArg (· + _) (Int.mul_one _)

include hne

/-- Their sum is there: its whole part is not above the divisor. -/
theorem exists_add?_remainder :
    ∃ s dropped, (x.remainder divisor.toInt).add? (.ofInt64 divisor) = some s ∧
      s.scale + dropped = x.scale ∧
      s.Shortens (x.coefficient.fmod (divisor.toInt * x.unit)) dropped := by
  have hscale : max (x.remainder divisor.toInt).scale (Decimal.ofInt64 divisor).scale = x.scale :=
    Nat.max_zero x.scale
  rw [← exactSum_remainder x hsigns, ← hscale]
  apply Decimal.exists_add?_eq
  rw [exactSum_remainder x hsigns, hscale]
  have hlt := Flooring.natAbs_fmod_lt x.coefficient (Int.mul_ne_zero hne x.unit_pos.ne')
  have hsmall : divisor.toInt.natAbs ≤ Decimal.limit - 1 := by
    have hlow := divisor.le_toInt
    have hhigh := divisor.toInt_lt
    unfold Decimal.limit
    omega
  rw [x.natAbs_mul_unit] at hlt
  exact hlt.le.trans (Nat.mul_le_mul_right _ hsmall)

end

/-- A sum that is rounded up to a whole number was not whole, and it is not far from it. -/
theorem not_dvd_and_close (x : Decimal) {d : Int} (hne : d ≠ 0) {s : Decimal} {dropped : Nat}
    (hscale : s.scale + dropped = x.scale)
    (hshort : s.Shortens (x.coefficient.fmod (d * x.unit)) dropped)
    (hclose : x.unit - x.coefficient.fmod x.unit < (10 ^ dropped : Nat)) :
    ¬ x.unit ∣ x.coefficient.fmod (d * x.unit) ∧
      (x.unit - x.coefficient.fmod x.unit) * 2 ^ 52 ≤ d.natAbs * x.unit := by
  have hpart := Int.fmod_lt_of_pos x.coefficient x.unit_pos
  constructor
  · intro hwhole
    rw [Int.dvd_iff_fmod_eq_zero, Flooring.fmod_mul_fmod] at hwhole
    have hpower : 10 ^ dropped ≤ 10 ^ x.scale := Nat.pow_le_pow_right (by decide) (by omega)
    have hunit : x.unit = (10 ^ x.scale : Nat) := rfl
    omega
  · have hdropped : dropped ≠ 0 := by
      rintro rfl
      omega
    have hstep := hshort.pow_dropped_le hdropped
    have hlt := Flooring.natAbs_fmod_lt x.coefficient (Int.mul_ne_zero hne x.unit_pos.ne')
    have hunit : (d.natAbs : Int) * x.unit = (d * x.unit).natAbs := by
      rw [x.natAbs_mul_unit, Nat.cast_mul]
      rfl
    omega

theorem exists_decimalRemainder (x : Decimal) {divisor : Int64} (hne : divisor.toInt ≠ 0) :
    ∃ carry, Carry x.coefficient x.unit divisor.toInt carry ∧
      decimalRemainder x divisor =
        (x.coefficient.fmod (divisor.toInt * x.unit)).fdiv x.unit + carry := by
  refine exists_carry x.unit_pos ?_
  unfold decimalRemainder
  rw [Decimal.remainder?, if_neg hne]
  dsimp only [Option.getD_some]
  split
  · next hmend =>
    rw [signs_differ_iff] at hmend
    obtain ⟨s, dropped, hs, hscale, hshort⟩ := exists_add?_remainder x hne hmend
    have hfloor := hshort.floor_eq
    have hne' := Int.mul_ne_zero hne x.unit_pos.ne'
    have hmended : x.coefficient.fmod (divisor.toInt * x.unit) ≠
        x.coefficient.tmod (divisor.toInt * x.unit) := by
      rw [fmod_eq_coefficient_add x hmend]
      exact fun heq => hne' (add_eq_left.mp heq)
    rw [hscale] at hfloor
    rw [hs]
    refine hfloor.imp_right fun ⟨h, hclose⟩ =>
      ⟨h, hmended, not_dvd_and_close x hne hscale hshort ?_⟩
    rw [← succ_fdiv_mul_sub x.coefficient x.unit divisor.toInt]
    exact hclose
  · next hmend =>
    rw [signs_differ_iff] at hmend
    rw [Flooring.fmod_mul_eq_mended x.unit_pos]
    exact .inl (congrArg (Int.fdiv · x.unit) (if_neg hmend).symm)

/-! ### The answer -/

theorem grid?_pos {v : Value} (hv : v.grid? = some (n, u)) : 0 < u := by
  cases v with
  | integer m =>
    obtain ⟨-, rfl⟩ := Prod.mk.inj (Option.some.inj hv)
    exact Int.one_pos
  | float x =>
    rw [grid?, Option.ite_none_right_eq_some] at hv
    obtain ⟨-, rfl⟩ := Prod.mk.inj (Option.some.inj hv.2)
    exact Binary64.unitsOfOne_pos
  | decimal x =>
    obtain ⟨-, rfl⟩ := Prod.mk.inj (Option.some.inj hv)
    exact x.unit_pos
  | _ => cases hv

theorem floor?_of_grid? {v : Value} (hv : v.grid? = some (n, u)) : v.floor? = some (n.fdiv u) := by
  cases v with
  | integer m =>
    obtain ⟨rfl, rfl⟩ := Prod.mk.inj (Option.some.inj hv)
    rw [floor?, Int.fdiv_one]
  | float x =>
    rw [grid?, Option.ite_none_right_eq_some] at hv
    obtain ⟨rfl, rfl⟩ := Prod.mk.inj (Option.some.inj hv.2)
    exact if_pos hv.1
  | decimal x =>
    obtain ⟨rfl, rfl⟩ := Prod.mk.inj (Option.some.inj hv)
    rfl
  | _ => cases hv

/-- **What a number leaves** is the residue of its floor, with two slips. A negative divisor that
divides the floor of a number that is not whole gives itself. And a carry of one may come from
rounding, for a number that is just below a whole one and on the other side of zero than the
divisor.

Two things are left open. Whether there is a carry is not decided so near to a whole number, only
bounded: `Carry` says where there is none. And floats are divided by less than `2 ^ 53` here. From
there on the divisor and the remainder asked for are both rounded to floats, and neither need be the
integer that was given. -/
theorem leaves_iff {v : Value} (hv : v.grid? = some (n, u)) {divisor : Int64}
    (hne : divisor.toInt ≠ 0) (hfloat : ∀ x, v = float x → divisor.toInt.natAbs < 2 ^ 53) :
    ∃ floor carry, v.floor? = some floor ∧ Carry n u divisor.toInt carry ∧
      ∀ remainder : Int64, v.leaves divisor remainder = true ↔
        (if divisor.toInt < 0 ∧ ¬ u ∣ n ∧ divisor.toInt ∣ floor then divisor.toInt
          else floor.fmod divisor.toInt) + carry = remainder.toInt := by
  have hu := grid?_pos hv
  refine ⟨n.fdiv u, ?_⟩
  rw [← Flooring.fdiv_fmod_mul hu hne, floor?_of_grid? hv]
  cases v with
  | integer m =>
    obtain ⟨rfl, rfl⟩ := Prod.mk.inj (Option.some.inj hv)
    refine ⟨0, rfl, .inl rfl, fun remainder => ?_⟩
    rw [leaves, beq_iff_eq, integerRemainder_eq, Int.mul_one, Int.fdiv_one, Int.add_zero]
  | float x =>
    rw [grid?, Option.ite_none_right_eq_some] at hv
    obtain ⟨rfl, rfl⟩ := Prod.mk.inj (Option.some.inj hv.2)
    have hlt := hfloat x rfl
    obtain ⟨carry, hcarry, hfloor⟩ := exists_floor_floatRemainder hv.1 hne hlt
    refine ⟨carry, rfl, hcarry, fun remainder => ?_⟩
    obtain ⟨hlow, hhigh⟩ := natAbs_fdiv_fmod_le (n := x.units) hu hne
    have hsmall : ((floatRemainder x divisor).floor).natAbs < 2 ^ 53 := by
      rw [hfloor]
      rcases hcarry with rfl | ⟨rfl, -⟩
      · rw [Int.add_zero]
        exact Nat.lt_of_le_of_lt hlow hlt
      · exact Nat.lt_of_le_of_lt hhigh hlt
    rw [leaves, hv.1, Bool.true_and, Binary64.equals_ofInt_iff hsmall, hfloor]
  | decimal x =>
    obtain ⟨rfl, rfl⟩ := Prod.mk.inj (Option.some.inj hv)
    obtain ⟨carry, hcarry, hanswer⟩ := exists_decimalRemainder x hne
    refine ⟨carry, rfl, hcarry, fun remainder => ?_⟩
    rw [leaves, beq_iff_eq, hanswer]
  | _ => cases hv

/-- A half as a float. Its floor is zero. -/
def half : Binary64 := ⟨0x3FE0000000000000⟩

theorem floor?_half : (float half).floor? = some 0 := by decide +kernel

/-- A half divided by minus three leaves minus three; it is too far from one for a carry. -/
theorem leaves_iff_of_half :
    (float half).grid? = some (half.units, (Binary64.unitsOfOne : Int)) ∧
      (-3 : Int64).toInt ≠ 0 ∧
      (∀ x, float half = float x → (-3 : Int64).toInt.natAbs < 2 ^ 53) ∧
      ∀ remainder : Int64, (float half).leaves (-3) remainder = true ↔ -3 = remainder.toInt := by
  have hgrid : (float half).grid? = some (half.units, (Binary64.unitsOfOne : Int)) := by
    rw [grid?]
    exact if_pos (by decide)
  have hslip : (-3 : Int64).toInt < 0 ∧ ¬ (Binary64.unitsOfOne : Int) ∣ half.units ∧
      (-3 : Int64).toInt ∣ 0 := by decide +kernel
  have hfar : ¬ (Binary64.unitsOfOne - half.units.fmod Binary64.unitsOfOne) * 2 ^ 52 ≤
      (-3 : Int64).toInt.natAbs * (Binary64.unitsOfOne : Int) := by decide +kernel
  have hne : (-3 : Int64).toInt ≠ 0 := by decide
  obtain ⟨floor, carry, hfloor, hcarry, hleaves⟩ := leaves_iff hgrid hne fun _ _ => by decide
  obtain rfl : floor = 0 := Option.some.inj (hfloor.symm.trans floor?_half)
  obtain rfl : carry = 0 := hcarry.resolve_right fun h => hfar h.2.2.2
  rw [if_pos hslip] at hleaves
  exact ⟨hgrid, hne, fun _ _ => by decide, hleaves⟩

/-- The residue of the floor is not what every number leaves: a half divided by minus three does
not leave zero. -/
theorem leaves_not_residue_of_floor :
    ¬ ∀ (v : Value) (floor : Int) (divisor remainder : Int64), v.floor? = some floor →
      divisor.toInt ≠ 0 →
      (v.leaves divisor remainder = true ↔ floor.fmod divisor.toInt = remainder.toInt) := by
  intro h
  have hleft : (float half).leaves (-3) 0 = false := by decide +kernel
  have hright := (h (float half) 0 (-3) 0 floor?_half (by decide)).mpr (by decide)
  rw [hleft] at hright
  exact Bool.false_ne_true hright

-- The carry: just below zero, the sum with the divisor is rounded to the divisor.
example : (float ⟨0xBC670EF54646D497⟩).leaves 3 3 = true := by decide +kernel

end Value

end DocumentFilter
