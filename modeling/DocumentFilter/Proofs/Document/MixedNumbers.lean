import DocumentFilter.Proofs.Document.Equality
import DocumentFilter.Proofs.Number.Nearest

/-! Integers beside floats.

An integer is brought to binary64 before it is compared with a float, so the float meets the nearest
word of the integer in its place. The two stand in order as the numbers do, with one exception: a
float that is nearest to an integer equals it, also where it is another number. Integers up to
`2 ^ 53` are words themselves; beyond, several integers can share one. -/
namespace DocumentFilter

namespace Value

section
variable {x : Binary64} (hx : x.isFinite = true)
include hx

theorem compare_integer_float_eq (n : Int64) :
    (integer n).compare (float x) = some (cmp (Binary64.ofInt n.toInt).toRat x.toRat) :=
  Binary64.compare_eq_cmp (Binary64.isNaN_ofInt _) (Binary64.isNaN_of_isFinite hx)

theorem equals_integer_float_iff (n : Int64) :
    (integer n).equals (float x) = true ↔ (Binary64.ofInt n.toInt).toRat = x.toRat := by
  rw [equals_iff_of_number rfl, compare_integer_float_eq hx, Option.some.injEq, cmp_eq_eq_iff]

theorem equals_integer_float_iff_isNearest (n : Int64) :
    (integer n).equals (float x) = true ↔ x.IsNearest n.toInt := by
  have hbound := Binary64.natAbs_toInt_le n
  rw [equals_integer_float_iff hx, Binary64.isNearest_intCast_iff hbound hx, eq_comm]

/-- What is not tied with the float is on the side of it that the integer is. -/
theorem compare_integer_float_of_not_isNearest {n : Int64} (h : ¬ x.IsNearest n.toInt) :
    (integer n).compare (float x) = some (cmp (n.toInt : ℚ) x.toRat) := by
  rw [← equals_integer_float_iff_isNearest hx, equals_integer_float_iff hx] at h
  rw [compare_integer_float_eq hx, Binary64.cmp_toRat_ofInt hx h]

/-- Integers up to `2 ^ 53` are not rounded. -/
theorem compare_integer_float_of_le {n : Int64} (h : n.toInt.natAbs ≤ 2 ^ 53) :
    (integer n).compare (float x) = some (cmp (n.toInt : ℚ) x.toRat) := by
  have hexact := (Binary64.toRat_eq_intCast_iff _ _).mpr (Binary64.units_ofInt h)
  rw [compare_integer_float_eq hx, hexact]

/-- An integer that shares its float with another is a large one. -/
theorem le_natAbs_of_equals_float {m n : Int64} (hne : m ≠ n)
    (hm : (integer m).equals (float x) = true) (hn : (integer n).equals (float x) = true) :
    2 ^ 53 ≤ m.toInt.natAbs := by
  rw [equals_integer_float_iff hx] at hm hn
  by_contra hlt
  have hequals : (Binary64.ofInt m.toInt).equals (Binary64.ofInt n.toInt) = true := by
    rw [Binary64.equals_iff_units_eq (Binary64.isNaN_ofInt _) (Binary64.isNaN_ofInt _),
      ← Binary64.toRat_eq_iff, hm, hn]
  exact hne (Int64.toInt_inj.mp ((Binary64.equals_ofInt_iff (Nat.lt_of_not_le hlt) _).mp hequals))

/-- **An integer equals the finite float that is nearest to it**, and stands to any other as the two
numbers do. Up to `2 ^ 53` that is the exact order. Different integers that equal one float are not
below `2 ^ 53`. -/
theorem compare_integer_float :
    (∀ n : Int64,
      (x.IsNearest n.toInt → (integer n).compare (float x) = some .eq ∧
        (integer n).equals (float x) = true) ∧
      (¬ x.IsNearest n.toInt →
        (integer n).compare (float x) = some (cmp (n.toInt : ℚ) x.toRat) ∧
          (integer n).equals (float x) = false) ∧
      (n.toInt.natAbs ≤ 2 ^ 53 →
        (integer n).compare (float x) = some (cmp (n.toInt : ℚ) x.toRat) ∧
          ((integer n).equals (float x) = true ↔ (n.toInt : ℚ) = x.toRat))) ∧
    ∀ m n : Int64, m ≠ n → (integer m).equals (float x) = true →
      (integer n).equals (float x) = true →
        2 ^ 53 ≤ m.toInt.natAbs ∧ 2 ^ 53 ≤ n.toInt.natAbs := by
  refine ⟨fun n => ⟨fun hnearest => ?tied, fun hother => ?apart, fun hle => ?small⟩,
    fun m n hne hm hn => ?shared⟩
  case tied =>
    have hequals := (equals_integer_float_iff_isNearest hx n).mpr hnearest
    exact ⟨(equals_iff_of_number rfl _).mp hequals, hequals⟩
  case apart =>
    refine ⟨compare_integer_float_of_not_isNearest hx hother, Bool.eq_false_iff.mpr fun h => ?_⟩
    exact hother ((equals_integer_float_iff_isNearest hx n).mp h)
  case small =>
    have hcompare := compare_integer_float_of_le hx hle
    refine ⟨hcompare, ?_⟩
    rw [equals_iff_of_number rfl, hcompare, Option.some.injEq, cmp_eq_eq_iff]
  case shared =>
    exact ⟨le_natAbs_of_equals_float hx hne hm hn, le_natAbs_of_equals_float hx hne.symm hn hm⟩

end

/-- The float `2 ^ 53` equals the integer after it, which is no word, and stands above seven. -/
theorem compare_integer_float_of_two_pow :
    let x : Binary64 := ⟨0x4340000000000000⟩
    x.isFinite = true ∧ x.IsNearest (9007199254740993 : Int64).toInt ∧
      (integer 9007199254740993).compare (float x) = some .eq ∧
      ¬ x.IsNearest (7 : Int64).toInt ∧
      (integer 7).compare (float x) = some (cmp ((7 : Int64).toInt : ℚ) x.toRat) ∧
      (7 : Int64).toInt.natAbs ≤ 2 ^ 53 ∧ ((7 : Int64).toInt : ℚ) ≠ x.toRat ∧
      2 ^ 53 ≤ (9007199254740993 : Int64).toInt.natAbs := by
  intro x
  have hx : x.isFinite = true := by decide
  obtain ⟨hcompare, hshared⟩ := compare_integer_float hx
  have hafter : (integer 9007199254740993).equals (float x) = true := by decide +kernel
  have hself : (integer 9007199254740992).equals (float x) = true := by decide +kernel
  have hseven : (integer 7).equals (float x) = false := by decide +kernel
  have hnearest : x.IsNearest (9007199254740993 : Int64).toInt :=
    (equals_integer_float_iff_isNearest hx _).mp hafter
  have hother : ¬ x.IsNearest (7 : Int64).toInt := fun h =>
    Bool.false_ne_true (hseven.symm.trans ((equals_integer_float_iff_isNearest hx _).mpr h))
  obtain ⟨-, hapart, hsmall⟩ := hcompare 7
  have hle : (7 : Int64).toInt.natAbs ≤ 2 ^ 53 := by decide
  have hne : ((7 : Int64).toInt : ℚ) ≠ x.toRat := fun h =>
    Bool.false_ne_true (hseven.symm.trans ((hsmall hle).2.mpr h))
  exact ⟨hx, hnearest, ((hcompare _).1 hnearest).1, hother, (hapart hother).1, hle, hne,
    (hshared 9007199254740993 9007199254740992 (by decide) hafter hself).1⟩

/-- Two integers that equal one float. Only one of them is the same number. -/
theorem equals_integer_float_shared :
    let x : Binary64 := ⟨0x4340000000000000⟩
    x.isFinite = true ∧ (9007199254740992 : Int64) ≠ 9007199254740993 ∧
      (integer 9007199254740992).equals (float x) = true ∧
      (integer 9007199254740993).equals (float x) = true ∧
      (integer 9007199254740993).compare (float x) = some .eq ∧
      cmp ((9007199254740993 : Int64).toInt : ℚ) x.toRat = .gt := by
  intro x
  have hexact : x.toRat = (9007199254740992 : Int64).toInt := by
    rw [Binary64.toRat_eq_intCast_iff]
    decide +kernel
  have hgt : cmp ((9007199254740993 : Int64).toInt : ℚ) x.toRat = .gt := by
    rw [hexact, cmp_eq_gt_iff, Int.cast_lt]
    decide
  exact ⟨by decide, by decide, by decide +kernel, by decide +kernel, by decide +kernel, hgt⟩

end Value

end DocumentFilter
