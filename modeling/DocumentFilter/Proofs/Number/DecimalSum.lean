import DocumentFilter.Number.Decimal
import DocumentFilter.Proofs.Number.Flooring
import Mathlib.Tactic.Positivity

/-! The sum of two decimals.

A sum that is too long gives up last digits, in one rounding or in two. Whichever it is, a sum does
not get past a whole number that it had not got past before (`Rounds`), so its floor moves by one
at most. Nothing is lost as long as the whole part fits. -/
namespace DocumentFilter.Decimal

/-! ### Dropping digits -/

/-- The result stands for the magnitude with that many last digits dropped: it is on the same side
of every number that has none of them. -/
structure Rounds (magnitude dropped result : Nat) : Prop where
  le : ∀ {k}, k * 10 ^ dropped ≤ magnitude → k ≤ result
  ge : ∀ {k}, magnitude ≤ k * 10 ^ dropped → result ≤ k

theorem divideToEven_eq {divisor : Nat} (hpos : 0 < divisor) (magnitude : Nat) :
    divideToEven magnitude divisor = magnitude / divisor ∨
      divideToEven magnitude divisor = magnitude / divisor + 1 ∧ 0 < magnitude % divisor := by
  unfold divideToEven
  dsimp only
  split
  · next hup =>
    rw [Bool.or_eq_true, decide_eq_true_eq, Bool.and_eq_true, beq_iff_eq] at hup
    exact .inr ⟨rfl, by omega⟩
  · exact .inl rfl

theorem rounds_divideToEven (magnitude dropped : Nat) :
    Rounds magnitude dropped (divideToEven magnitude (10 ^ dropped)) := by
  have hpos : 0 < 10 ^ dropped := Nat.pow_pos (by decide)
  have heq := divideToEven_eq hpos magnitude
  constructor
  · intro k h
    have hle : k ≤ magnitude / 10 ^ dropped := (Nat.le_div_iff_mul_le hpos).mpr h
    omega
  · intro k h
    have hle : magnitude / 10 ^ dropped ≤ k := Nat.div_le_of_le_mul (Nat.mul_comm k _ ▸ h)
    rcases heq with heq | ⟨heq, hrest⟩
    · omega
    · -- A quotient that was rounded up is below the bound by itself.
      have hdiv := Nat.div_add_mod' magnitude (10 ^ dropped)
      have hlt : magnitude / 10 ^ dropped < k := by
        rcases Nat.lt_or_eq_of_le hle with hlt | rfl
        · exact hlt
        · omega
      omega

theorem Rounds.trans {magnitude dropped middle dropped' result : Nat}
    (h : Rounds magnitude dropped middle) (h' : Rounds middle dropped' result) :
    Rounds magnitude (dropped + dropped') result := by
  constructor
  · intro k hk
    rw [Nat.pow_add, Nat.mul_comm (10 ^ dropped), ← Nat.mul_assoc] at hk
    exact h'.le (h.le hk)
  · intro k hk
    rw [Nat.pow_add, Nat.mul_comm (10 ^ dropped), ← Nat.mul_assoc] at hk
    exact h'.ge (h.ge hk)

theorem excess_le (magnitude fuel : Nat) : excess magnitude fuel ≤ fuel := by
  induction fuel generalizing magnitude with
  | zero => exact Nat.le_refl 0
  | succ fuel ih =>
    unfold excess
    split
    · exact Nat.zero_le _
    · exact Nat.succ_le_succ (ih _)

/-- Digits are given up until the rest fits, or to the last that may be. -/
theorem div_excess_lt (magnitude fuel : Nat) :
    magnitude / 10 ^ excess magnitude fuel < limit ∨ excess magnitude fuel = fuel := by
  induction fuel generalizing magnitude with
  | zero => exact .inr rfl
  | succ fuel ih =>
    unfold excess
    split
    · next hlt =>
      rw [Nat.pow_zero, Nat.div_one]
      exact .inl hlt
    · rw [Nat.pow_succ', ← Nat.div_div_eq_div_mul]
      exact (ih (magnitude / 10)).imp_right (congrArg (· + 1))

/-- No more digits are given up than are in the way. -/
theorem excess_eq_zero_or (magnitude fuel : Nat) :
    excess magnitude fuel = 0 ∨ limit * 10 ^ excess magnitude fuel ≤ 10 * magnitude := by
  induction fuel generalizing magnitude with
  | zero => exact .inl rfl
  | succ fuel ih =>
    unfold excess
    split
    · exact .inl rfl
    · next hge =>
      rw [Nat.pow_succ, ← Nat.mul_assoc]
      rcases ih (magnitude / 10) with hzero | hmore
      · rw [hzero]
        omega
      · omega

/-! ### The sum -/

/-- The exact sum of two decimals, at the places of the longer one. -/
def exactSum (a b : Decimal) : Int :=
  a.coefficient * Nat.pow 10 (max a.scale b.scale - a.scale) +
    b.coefficient * Nat.pow 10 (max a.scale b.scale - b.scale)

/-- A magnitude with the sign of a number. -/
def withSign (sign : Int) (magnitude : Nat) : Int :=
  if sign < 0 then -(magnitude : Int) else magnitude

theorem natAbs_withSign (sign : Int) (magnitude : Nat) :
    (withSign sign magnitude).natAbs = magnitude := by
  unfold withSign
  split <;> omega

/-- A magnitude without its last digits, with the sign of the sum and the places that are left. -/
def place? (sum : Int) (scale magnitude dropped : Nat) : Option Decimal :=
  if dropped ≤ scale then ofParts? (withSign sum magnitude) (scale - dropped) else none

/-- The decimal is the sum without so many of its last digits, as few as had to be dropped. -/
structure Shortens (s : Decimal) (sum : Int) (dropped : Nat) : Prop where
  sign : s.coefficient = withSign sum s.coefficient.natAbs
  rounds : Rounds sum.natAbs dropped s.coefficient.natAbs
  few : dropped = 0 ∨ (limit - 1) * 10 ^ dropped ≤ 10 * sum.natAbs

theorem exists_shortens {sum : Int} {scale magnitude dropped : Nat} (hlt : magnitude < limit)
    (hle : dropped ≤ scale) (hscale : scale ≤ 28) (hrounds : Rounds sum.natAbs dropped magnitude)
    (hfew : dropped = 0 ∨ (limit - 1) * 10 ^ dropped ≤ 10 * sum.natAbs) :
    ∃ s, place? sum scale magnitude dropped = some s ∧ s.scale + dropped = scale ∧
      s.Shortens sum dropped := by
  have habs := natAbs_withSign sum magnitude
  have hparts : (withSign sum magnitude).natAbs < limit ∧ scale - dropped ≤ 28 :=
    ⟨by rwa [habs], by omega⟩
  refine ⟨_, (if_pos hle).trans (dif_pos hparts), Nat.sub_add_cancel hle, ?_⟩
  exact ⟨congrArg (withSign sum) habs.symm, habs.symm ▸ hrounds, hfew⟩

/-- The sum, with the digits to drop and what is left of the magnitude given names. -/
theorem add?_eq {a b : Decimal} {sum : Int} {scale dropped rounded : Nat}
    (hsum : exactSum a b = sum) (hscale : max a.scale b.scale = scale)
    (hdropped : excess sum.natAbs scale = dropped)
    (hrounded : divideToEven sum.natAbs (10 ^ dropped) = rounded) :
    a.add? b =
      if rounded < limit then place? sum scale rounded dropped
      else place? sum scale (divideToEven rounded 10) (dropped + 1) := by
  subst hsum hscale hdropped hrounded
  exact apply_ite (fun parts : Nat × Nat => place? _ _ parts.1 parts.2) _ _ _

/-- **A sum with a whole part that fits is there**, rounded to the places that fit with it. -/
theorem exists_add?_eq {a b : Decimal}
    (hfit : (exactSum a b).natAbs ≤ (limit - 1) * 10 ^ max a.scale b.scale) :
    ∃ s dropped, a.add? b = some s ∧ s.scale + dropped = max a.scale b.scale ∧
      s.Shortens (exactSum a b) dropped := by
  have hplaces : max a.scale b.scale ≤ 28 := Nat.max_le.mpr ⟨a.scale_le, b.scale_le⟩
  obtain ⟨sum, hsum⟩ : ∃ sum, exactSum a b = sum := ⟨_, rfl⟩
  obtain ⟨scale, hscale⟩ : ∃ scale, max a.scale b.scale = scale := ⟨_, rfl⟩
  obtain ⟨dropped, hdropped⟩ : ∃ dropped, excess sum.natAbs scale = dropped := ⟨_, rfl⟩
  obtain ⟨rounded, hrounded⟩ : ∃ rounded, divideToEven sum.natAbs (10 ^ dropped) = rounded :=
    ⟨_, rfl⟩
  have hle := hdropped ▸ excess_le sum.natAbs scale
  have hkept := hdropped ▸ div_excess_lt sum.natAbs scale
  have hfew := hdropped ▸ excess_eq_zero_or sum.natAbs scale
  have hrounds := hrounded ▸ rounds_divideToEven sum.natAbs dropped
  rw [add?_eq hsum hscale hdropped hrounded]
  rw [hsum, hscale] at hfit ⊢
  rw [hscale] at hplaces
  by_cases hlt : rounded < limit
  · have hfew' := hfew.imp_right (Nat.mul_le_mul_right (10 ^ dropped) (Nat.sub_le limit 1)).trans
    obtain ⟨s, hs, hshort⟩ := exists_shortens hlt hle hplaces hrounds hfew'
    exact ⟨s, dropped, (if_pos hlt).trans hs, hshort⟩
  · -- Rounding up to the limit leaves a place to drop, or else the whole part would not fit.
    have hpos : 0 < 10 ^ dropped := Nat.pow_pos (by decide)
    have hroom : dropped ≠ scale := by
      rintro rfl
      exact hlt (Nat.lt_of_le_of_lt (hrounds.ge hfit) (by decide))
    have hquotient := hkept.resolve_right hroom
    have heq := divideToEven_eq hpos sum.natAbs
    have hlimit : rounded = limit := by omega
    have hfew' : (limit - 1) * 10 ^ (dropped + 1) ≤ 10 * sum.natAbs := by
      have hall : limit - 1 ≤ sum.natAbs / 10 ^ dropped := by
        rw [hrounded, hlimit] at heq
        generalize sum.natAbs / 10 ^ dropped = quotient at heq
        omega
      have hfull := (Nat.le_div_iff_mul_le hpos).mp hall
      rw [Nat.pow_succ, ← Nat.mul_assoc]
      omega
    have hsmall : divideToEven rounded 10 < limit := by
      rw [hlimit]
      decide
    have hle' : dropped + 1 ≤ scale := by omega
    obtain ⟨s, hs, hshort⟩ := exists_shortens hsmall hle' hplaces
      (hrounds.trans (rounds_divideToEven rounded 1)) (.inr hfew')
    exact ⟨s, dropped + 1, (if_neg hlt).trans hs, hshort⟩

theorem mul_pow_signed (k : Int) (dropped : Nat) :
    (k * (10 ^ dropped : Nat)).natAbs = k.natAbs * 10 ^ dropped ∧
      (0 ≤ k * (10 ^ dropped : Nat) ↔ 0 ≤ k) := by
  have hpos : (0 : Int) < (10 ^ dropped : Nat) := by positivity
  exact ⟨by rw [Int.natAbs_mul, Int.natAbs_natCast], mul_nonneg_iff_of_pos_right hpos⟩

namespace Shortens

variable {s : Decimal} {sum k : Int} {dropped : Nat} (h : s.Shortens sum dropped)
include h

theorem le_coefficient (hk : k * (10 ^ dropped : Nat) ≤ sum) : k ≤ s.coefficient := by
  obtain ⟨habs, hsign⟩ := mul_pow_signed k dropped
  rw [h.sign, withSign]
  split
  · have := h.rounds.ge (k := k.natAbs) (by omega)
    omega
  · by_cases hnonneg : 0 ≤ k
    · have := h.rounds.le (k := k.natAbs) (by omega)
      omega
    · omega

theorem coefficient_le (hk : sum ≤ k * (10 ^ dropped : Nat)) : s.coefficient ≤ k := by
  obtain ⟨habs, hsign⟩ := mul_pow_signed k dropped
  rw [h.sign, withSign]
  split
  · by_cases hnonneg : 0 ≤ k
    · omega
    · have := h.rounds.le (k := k.natAbs) (by omega)
      omega
  · have := h.rounds.ge (k := k.natAbs) (by omega)
    omega

/-- What is dropped of a sum is less than its first twenty-seven digits. -/
theorem pow_dropped_le (hne : dropped ≠ 0) : 2 ^ 92 * 10 ^ dropped ≤ sum.natAbs := by
  have hfew := h.few.resolve_left hne
  have hlimit : 10 * 2 ^ 92 * 10 ^ dropped ≤ (limit - 1) * 10 ^ dropped :=
    Nat.mul_le_mul_right _ (by decide)
  omega

/-- **The floor of a sum moves up by one at most**, and only when the exact sum is less than one
step of the last place below the next whole number. -/
theorem floor_eq :
    s.floor = sum.fdiv (10 ^ (s.scale + dropped) : Nat) ∨
      s.floor = sum.fdiv (10 ^ (s.scale + dropped) : Nat) + 1 ∧
        (sum.fdiv (10 ^ (s.scale + dropped) : Nat) + 1) * (10 ^ (s.scale + dropped) : Nat) - sum <
          (10 ^ dropped : Nat) := by
  have hmul : ∀ k : Int, k * (10 ^ (s.scale + dropped) : Nat) =
      k * (10 ^ s.scale : Nat) * (10 ^ dropped : Nat) := by
    intro k
    rw [Nat.pow_add, Nat.cast_mul, Int.mul_assoc]
  have hpos : (0 : Int) < (10 ^ (s.scale + dropped) : Nat) := by positivity
  have hpos' : (0 : Int) < (10 ^ s.scale : Nat) := by positivity
  have hlow : sum.fdiv (10 ^ (s.scale + dropped) : Nat) * (10 ^ (s.scale + dropped) : Nat) ≤ sum :=
    (Flooring.le_fdiv_iff hpos).mp (Int.le_refl _)
  have hhigh := Int.lt_fdiv_add_one_mul_self sum hpos
  have hle := h.le_coefficient (hmul _ ▸ hlow)
  have hge := h.coefficient_le (hmul _ ▸ hhigh.le)
  refine (Flooring.fdiv_eq_or_eq_succ hpos' hle hge).imp_right fun hfloor => ⟨hfloor, ?_⟩
  -- One step of the last place down, the number would be rounded to below the whole one.
  by_contra hfar
  have hstep : sum ≤ ((sum.fdiv (10 ^ (s.scale + dropped) : Nat) + 1) * (10 ^ s.scale : Nat) - 1) *
      (10 ^ dropped : Nat) := by
    rw [Int.sub_mul, Int.one_mul, ← hmul]
    omega
  have hup := (Flooring.le_fdiv_iff hpos').mp hfloor.ge
  have := h.coefficient_le hstep
  omega

end Shortens

end DocumentFilter.Decimal
