import DocumentFilter.Proofs.Filter.Grammar
import DocumentFilter.Proofs.Filter.Mirror
import DocumentFilter.Proofs.Filter.Searching
import DocumentFilter.Proofs.Number.DecimalRounding

/-! Lengths that a query asks for.

A length test takes any number, goes to the word of it in binary64, and turns the query away unless
the word is whole and not below zero. That is what the number itself has to be, with one exception:
a decimal of many digits may lose its fraction on the way (`exists_asksLength_iff`). The length that
is asked for is that of the word as well. Beyond `2 ^ 53` it is the one nearest to the number, and
not always the number itself. -/
namespace DocumentFilter

/-! ### The number and its word -/

/-- The word is finite, has the sign of the number, and is the nearest word of a whole number. -/
structure Binary64.StandsFor (x : Binary64) (q : ℚ) : Prop where
  isFinite : x.isFinite = true
  nonneg_iff : 0 ≤ x.toRat ↔ 0 ≤ q
  whole : ∀ k : Int, q = k → x.toRat = (Binary64.ofInt k).toRat

namespace Value

/-- The number that a value is, exactly. -/
def toRat? : Value → Option ℚ
  | integer n => some n.toInt
  | float x => if x.isFinite then some x.toRat else none
  | decimal d => some d.toRat
  | _ => none

/-- The value is a decimal with a fraction, and its word has none. -/
def LosesFraction (v : Value) : Prop :=
  ∃ d, v = decimal d ∧ (∃ m : Int, d.toBinary64.toRat = m) ∧ ∀ k : Int, d.toRat ≠ k

theorem standsFor_decimal (d : Decimal) : d.toBinary64.StandsFor d.toRat where
  isFinite := d.isFinite_toBinary64
  nonneg_iff := d.toRat_toBinary64_nonneg_iff
  whole _ := Decimal.toRat_toBinary64_of_whole

/-- An integer is a decimal without places. -/
theorem standsFor_integer (n : Int64) : (Binary64.ofInt n.toInt).StandsFor n.toInt := by
  have hvalue : (Decimal.ofInt64 n).toRat = n.toInt := by
    rw [Decimal.toRat, Decimal.ofInt64, pow_zero, div_one]
  have hword := Decimal.toRat_toBinary64_of_whole hvalue
  have hdecimal := standsFor_decimal (.ofInt64 n)
  rw [hvalue] at hdecimal
  exact ⟨Binary64.isFinite_ofInt_of_le (Binary64.natAbs_toInt_le n), hword ▸ hdecimal.nonneg_iff,
    hword ▸ hdecimal.whole⟩

theorem standsFor_float {x : Binary64} (hx : x.isFinite = true) : x.StandsFor x.toRat where
  isFinite := hx
  nonneg_iff := Iff.rfl
  whole k hk := by
    rw [Binary64.toRat_eq_intCast_iff] at hk
    rw [Binary64.toRat_eq_iff, Binary64.ofInt_eq_nearest, ← hk,
      (Binary64.isUnits_units hx).units_nearest]

/-- Every number has a word that stands for it. -/
theorem exists_standsFor {v : Value} {q : ℚ} (hv : v.toRat? = some q) :
    ∃ x, v.finite64? = some x ∧ x.StandsFor q := by
  cases v with
  | integer n =>
    cases hv
    exact ⟨_, rfl, standsFor_integer n⟩
  | float x =>
    rw [toRat?] at hv
    split at hv
    · next hx =>
      cases hv
      exact ⟨x, if_pos hx, standsFor_float hx⟩
    · cases hv
  | decimal d =>
    cases hv
    exact ⟨_, rfl, standsFor_decimal d⟩
  | _ => cases hv

/-- A float is its own word. -/
theorem toRat_eq_of_float {x y : Binary64} {q : ℚ} (hv : (float y).toRat? = some q)
    (hx : (float y).finite64? = some x) : x.toRat = q := by
  rw [toRat?] at hv
  rw [finite64?] at hx
  split at hv
  · next hfinite =>
    rw [if_pos hfinite] at hx
    cases hv
    cases hx
    rfl
  · cases hv

/-! ### The length -/

/-- The length that is asked for is the whole number that the word is, as far as lengths go. -/
theorem asksLength_iff {v : Value} {x : Binary64} (hx : v.finite64? = some x) (length : Nat) :
    v.AsksLength length ↔ ∃ m : Nat, x.toRat = m ∧ length = min m maxLength := by
  have hone := Binary64.unitsOfOne_pos
  simp only [AsksLength, hx, Option.some.injEq, exists_eq_left']
  constructor
  · rintro ⟨hnonneg, ⟨m, hm⟩, rfl⟩
    have hm0 : 0 ≤ m := by
      rw [hm] at hnonneg
      exact nonneg_of_mul_nonneg_right hnonneg hone
    have hfloor : x.floor = m := by
      rw [Binary64.floor, hm, Int.mul_fdiv_cancel_left _ hone.ne']
    refine ⟨m.toNat, ?_, by rw [hfloor]⟩
    rw [← Int.cast_natCast, Int.toNat_of_nonneg hm0, Binary64.toRat_eq_intCast_iff, hm, Int.mul_comm]
  · rintro ⟨m, hm, rfl⟩
    rw [← Int.cast_natCast, Binary64.toRat_eq_intCast_iff] at hm
    have hfloor : x.floor = m := by
      rw [Binary64.floor, hm, Int.mul_fdiv_cancel _ hone.ne']
    rw [hfloor, Int.toNat_natCast, hm]
    exact ⟨Int.mul_nonneg (Int.natCast_nonneg m) hone.le, Int.dvd_mul_left .., rfl⟩

/-- A whole number that is not negative is a natural number. -/
theorem exists_natCast_eq {q : ℚ} {k : Int} (hq : q = k) (hnonneg : 0 ≤ q) : ∃ m : Nat, q = m := by
  rw [hq, Int.cast_nonneg_iff] at hnonneg
  exact ⟨k.toNat, by rw [hq, ← Int.cast_natCast, Int.toNat_of_nonneg hnonneg]⟩

/-- **A length can be asked for** by a whole number that is not negative, and by a decimal that loses
its fraction. -/
theorem exists_asksLength_iff {v : Value} {q : ℚ} (hv : v.toRat? = some q) :
    (∃ length, v.AsksLength length) ↔ (∃ k : Nat, q = k) ∨ 0 ≤ q ∧ v.LosesFraction := by
  obtain ⟨x, hx, hstands⟩ := exists_standsFor hv
  have hasks : (∃ length, v.AsksLength length) ↔ ∃ m : Nat, x.toRat = m := by
    simp only [asksLength_iff hx]
    exact ⟨fun ⟨_, m, hm, _⟩ => ⟨m, hm⟩, fun ⟨m, hm⟩ => ⟨_, m, hm, rfl⟩⟩
  rw [hasks]
  constructor
  · rintro ⟨m, hm⟩
    have hnonneg : 0 ≤ q := hstands.nonneg_iff.mp (hm ▸ Nat.cast_nonneg m)
    by_cases hwhole : ∃ k : Int, q = k
    · obtain ⟨k, hk⟩ := hwhole
      exact .inl (exists_natCast_eq hk hnonneg)
    · rw [not_exists] at hwhole
      cases v with
      | integer n => exact absurd (Option.some.inj hv).symm (hwhole n.toInt)
      | float y => exact .inl ⟨m, (toRat_eq_of_float hv hx).symm.trans hm⟩
      | decimal d =>
        cases hv
        cases hx
        exact .inr ⟨hnonneg, d, rfl, ⟨m, hm⟩, hwhole⟩
      | _ => cases hv
  · rintro (⟨k, rfl⟩ | ⟨hnonneg, d, rfl, ⟨m, hm⟩, -⟩)
    · obtain ⟨m, hm⟩ := Binary64.exists_toRat_ofInt_eq k
      have hword := hstands.whole k (Int.cast_natCast k).symm
      exact exists_natCast_eq (hword.trans hm) (hstands.nonneg_iff.mpr (Nat.cast_nonneg k))
    · cases hx
      cases hv
      exact exists_natCast_eq hm (hstands.nonneg_iff.mpr hnonneg)

end Value

/-! ### The query -/

section
variable {field : String} (hfield : Connective.ofWord? field = none)
include hfield

/-- A length test is turned away just when no length can be asked for. -/
theorem isOk_check_size_iff (v : Value) :
    (Filter.ofQuery (fieldQuery field (operatorObject .size v))).check.isOk = true ↔
      ∃ length, v.AsksLength length := by
  have hcheck (query : Value) :
      (Filter.ofQuery query).check.isOk = true ↔ Grammar.Query query := by
    rw [← clausesFault?_planQuery_eq_none_iff, Filter.check, Filter.ofQuery]
    cases clausesFault? (planQuery query) <;> simp [Except.isOk, Except.toBool]
  have hkeys := isExpression_operator .size v
  rw [hcheck, fieldQuery, Grammar.query_iff]
  simp only [Value.object.injEq, exists_eq_left', Grammar.condition_iff, List.forall_mem_singleton]
  rw [operatorObject, Grammar.entry_expression_iff hfield hkeys, Grammar.expression_iff hkeys]
  simp only [List.forall_mem_singleton, Operator.ofWord?_word, Option.some.injEq, forall_eq',
    Grammar.operand_size_iff]

theorem selects_size_iff (v doc : Value) :
    (fieldQuery field (operatorObject .size v)).Selects doc ↔
      ∃ length, v.AsksLength length ∧
        ArrayAt doc (.ofName field) fun items => items.length = length := by
  rw [selects_fieldQuery_operator hfield, OperatorHolds.eq_def, Operator.ofWord?_word]

end

theorem Value.landings_whole_nil (v : Value) : v.landings .whole [] = [.reached v] := by
  cases v with
  | array items => rw [landings]
  | _ => exact landings_nil rfl .whole

/-- A key without dots leads to an array just when there is one under it. -/
theorem arrayAt_field_iff {field : String} (hdots : '.' ∉ field.toList) (v : Value)
    (property : List Value → Prop) :
    ArrayAt (.object [(field, v)]) (.ofName field) property ↔
      ∃ items, v = .array items ∧ property items := by
  have hget : Entries.get? [(field, v)] field = some v := by
    rw [Entries.get?_cons, if_pos rfl]
  have hlandings : (Value.object [(field, v)]).landings .whole [.ofKey field] = [.reached v] := by
    rw [Value.landings_object_cons]
    simp only [Step.ofKey, hget]
    exact v.landings_whole_nil
  rw [arrayAt_iff, Route.ofName_of_not_mem hdots, hlandings]
  simp only [List.mem_singleton, Landing.reached.injEq, eq_comm]

/-- The query asks whether there is an array of so many items under the field. -/
def AsksForItems (query : Value) (field : String) (length : Nat) : Prop :=
  ∀ v, query.Selects (.object [(field, v)]) ↔ ∃ items, v = .array items ∧ items.length = length

theorem asksForItems_of_asksLength {field : String} (hfield : Connective.ofWord? field = none)
    (hdots : '.' ∉ field.toList) {v : Value} {length : Nat} (h : v.AsksLength length) :
    AsksForItems (fieldQuery field (operatorObject .size v)) field length := by
  intro w
  have hunique {other : Nat} (hother : v.AsksLength other) : other = length := by
    obtain ⟨x, hx, -, -, rfl⟩ := h
    obtain ⟨y, hy, -, -, rfl⟩ := hother
    cases hx.symm.trans hy
    rfl
  rw [selects_size_iff hfield]
  simp only [arrayAt_field_iff hdots]
  constructor
  · rintro ⟨other, hother, items, rfl, rfl⟩
    exact ⟨items, rfl, hunique hother⟩
  · exact fun hitems => ⟨length, h, hitems⟩

/-! ### The length and the number -/

/-- For a whole number it is the nearest word that is asked for, and the number itself up to
`2 ^ 53`, or of a float. -/
theorem exists_asksLength_of_whole {v : Value} {k : Nat} (hv : v.toRat? = some (k : ℚ))
    (hlt : k < maxLength) :
    ∃ length, v.AsksLength length ∧
      (∃ x : Binary64, x.isFinite = true ∧ x.IsNearest k ∧ (length : ℚ) = min x.toRat maxLength) ∧
      (k ≤ 2 ^ 53 ∨ v.kind = .float → length = k) := by
  obtain ⟨x, hx, hstands⟩ := Value.exists_standsFor hv
  obtain ⟨length, hlength⟩ := (Value.exists_asksLength_iff hv).mpr (.inl ⟨k, rfl⟩)
  obtain ⟨m, hm, rfl⟩ := (Value.asksLength_iff hx length).mp hlength
  have hword := hstands.whole k (Int.cast_natCast k).symm
  have hbound : (k : Int).natAbs ≤ 2 ^ 64 := by
    unfold maxLength at hlt
    omega
  have hnearest := (Binary64.isNearest_intCast_iff hbound hstands.isFinite).mpr hword
  rw [Int.cast_natCast] at hnearest
  refine ⟨_, hlength, ⟨x, hstands.isFinite, hnearest, by rw [hm, Nat.cast_min]⟩, fun hexact => ?_⟩
  have hsame : x.toRat = k := by
    rcases hexact with hsmall | hkind
    · have hexact := (Binary64.toRat_eq_intCast_iff _ _).mpr (Binary64.units_ofInt (n := k) hsmall)
      rw [hword, hexact, Int.cast_natCast]
    · cases v with
      | float y => exact Value.toRat_eq_of_float hv hx
      | _ => cases hkind
  rw [hm, Nat.cast_inj] at hsame
  omega

/-- What is asked for in place of a lost fraction is close to the number. -/
theorem exists_asksLength_of_losesFraction {v : Value} {q : ℚ} (hv : v.toRat? = some q)
    (hnonneg : 0 ≤ q) (hlt : q < maxLength) (hlost : v.LosesFraction) :
    ∃ length, v.AsksLength length ∧ |(length : ℚ) - q| ≤ q * (1 / 2 ^ 47) := by
  obtain ⟨length, hlength⟩ := (Value.exists_asksLength_iff hv).mpr (.inr ⟨hnonneg, hlost⟩)
  refine ⟨length, hlength, ?_⟩
  obtain ⟨d, rfl, -⟩ := hlost
  cases hv
  obtain ⟨m, hm, rfl⟩ := (Value.asksLength_iff rfl length).mp hlength
  have hclose := d.abs_toRat_toBinary64_sub_le
  rw [hm, abs_of_nonneg hnonneg, abs_le] at hclose
  rw [Nat.cast_min, abs_le]
  rcases min_cases (m : ℚ) maxLength with ⟨heq, -⟩ | ⟨heq, hcut⟩
  · rw [heq]
    exact hclose
  · rw [heq]
    exact ⟨by linarith, by linarith⟩

/-- **A length test takes whole numbers that are not negative**, and decimals that lose their
fraction in binary64. It asks for the number exactly if that is a float or at most `2 ^ 53`, for the
nearest word of a larger integer or decimal, and for a length within one part in `2 ^ 47` of a
decimal that loses its fraction. None of up to fourteen digits does. -/
theorem Filter.size_answers {v : Value} {q : ℚ} (hv : v.toRat? = some q) {field : String}
    (hfield : Connective.ofWord? field = none) (hdots : '.' ∉ field.toList) :
    let query := fieldQuery field (operatorObject .size v)
    ((Filter.ofQuery query).check.isOk = true ↔ (∃ k : Nat, q = k) ∨ 0 ≤ q ∧ v.LosesFraction) ∧
    (∀ k : Nat, q = k → k < maxLength → ∃ length, AsksForItems query field length ∧
      (∃ x : Binary64, x.isFinite = true ∧ x.IsNearest k ∧ (length : ℚ) = min x.toRat maxLength) ∧
      (k ≤ 2 ^ 53 ∨ v.kind = .float → length = k)) ∧
    (0 ≤ q → q < maxLength → v.LosesFraction → ∃ length, AsksForItems query field length ∧
      |(length : ℚ) - q| ≤ q * (1 / 2 ^ 47)) ∧
    ∀ d, v = .decimal d → d.coefficient.natAbs < 2 ^ 47 → ¬ v.LosesFraction := by
  intro query
  refine ⟨?checked, fun k hk hlt => ?whole, fun hnonneg hlt hlost => ?lost, fun d hd hlt => ?kept⟩
  case checked => rw [isOk_check_size_iff hfield, Value.exists_asksLength_iff hv]
  case whole =>
    obtain ⟨length, hlength, hnearest⟩ := exists_asksLength_of_whole (hk ▸ hv) hlt
    exact ⟨length, asksForItems_of_asksLength hfield hdots hlength, hnearest⟩
  case lost =>
    obtain ⟨length, hlength, hclose⟩ := exists_asksLength_of_losesFraction hv hnonneg hlt hlost
    exact ⟨length, asksForItems_of_asksLength hfield hdots hlength, hclose⟩
  case kept =>
    rintro ⟨e, he, ⟨m, hm⟩, hfraction⟩
    obtain rfl := Value.decimal.inj (hd.symm.trans he)
    exact hfraction m (Decimal.toRat_eq_of_toRat_toBinary64_eq hlt hm)

/-- One, and one in the last of twenty-eight places. -/
def justAboveOne : Decimal := ⟨10000000000000000000000000001, 28, by decide, by decide⟩

theorem toRat_justAboveOne_ne (k : Int) : justAboveOne.toRat ≠ k := by
  intro h
  rw [Decimal.toRat, div_eq_iff (pow_ne_zero _ (by decide))] at h
  have hcoefficient : justAboveOne.coefficient = k * 10 ^ justAboveOne.scale := by exact_mod_cast h
  simp only [justAboveOne] at hcoefficient
  omega

theorem losesFraction_justAboveOne : (Value.decimal justAboveOne).LosesFraction := by
  refine ⟨_, rfl, ⟨1, ?_⟩, toRat_justAboveOne_ne⟩
  rw [Binary64.toRat_eq_intCast_iff]
  decide +kernel

/-- A decimal that loses its fraction, and a whole decimal written with places. -/
theorem Filter.size_answers_of_decimals :
    let v : Value := .decimal justAboveOne
    let whole : Value := .decimal ⟨30, 1, by decide, by decide⟩
    Connective.ofWord? "a" = none ∧ '.' ∉ "a".toList ∧
      v.toRat? = some justAboveOne.toRat ∧ v.LosesFraction ∧
      (Filter.ofQuery (fieldQuery "a" (operatorObject .size v))).check.isOk = true ∧
      (∃ length, AsksForItems (fieldQuery "a" (operatorObject .size v)) "a" length ∧
        |(length : ℚ) - justAboveOne.toRat| ≤ justAboveOne.toRat * (1 / 2 ^ 47)) ∧
      whole.toRat? = some 3 ∧ ¬ whole.LosesFraction ∧
      AsksForItems (fieldQuery "a" (operatorObject .size whole)) "a" 3 := by
  intro v whole
  have hfield : Connective.ofWord? "a" = none := rfl
  have hdots : '.' ∉ "a".toList := by decide
  have hv : v.toRat? = some justAboveOne.toRat := rfl
  have hlost : v.LosesFraction := losesFraction_justAboveOne
  have hwhole : whole.toRat? = some 3 := by
    show some (Decimal.toRat _) = some 3
    norm_num [Decimal.toRat]
  have hvalue : justAboveOne.toRat = 10000000000000000000000000001 / 10 ^ 28 := by
    norm_num [Decimal.toRat, justAboveOne]
  have hnonneg : 0 ≤ justAboveOne.toRat := by
    rw [hvalue]
    norm_num
  have hlt : justAboveOne.toRat < maxLength := by
    rw [hvalue]
    norm_num [maxLength]
  obtain ⟨hchecked, -, hasked, -⟩ := size_answers hv hfield hdots
  obtain ⟨-, hexact, -, hkept⟩ := size_answers hwhole hfield hdots
  obtain ⟨length, hlength, -, hsame⟩ := hexact 3 rfl (by decide)
  obtain rfl := hsame (.inl (by decide))
  exact ⟨hfield, hdots, hv, hlost, hchecked.mpr (.inr ⟨hnonneg, hlost⟩), hasked hnonneg hlt hlost,
    hwhole, hkept _ rfl (by decide), hlength⟩

/-- A number that is not whole, and yet is taken for the length of an array of one item; and a whole
number that is taken for the length before it. -/
theorem Filter.size_counts_rounded :
    (∀ k : Nat, justAboveOne.toRat ≠ k) ∧
      (Filter.ofQuery (fieldQuery "a" (operatorObject .size (.decimal justAboveOne)))).check.isOk =
        true ∧
      (fieldQuery "a" (operatorObject .size (.decimal justAboveOne))).Selects
        (.object [("a", .array [.null])]) ∧
      sizeOperand (.integer 9007199254740993) = .ok 9007199254740992 := by
  refine ⟨fun k => ?_, by decide +kernel, by decide +kernel, by decide +kernel⟩
  rw [← Int.cast_natCast]
  exact toRat_justAboveOne_ne k

end DocumentFilter
