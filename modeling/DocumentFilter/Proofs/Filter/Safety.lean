import DocumentFilter.Filter.Basic
import DocumentFilter.Proofs.Document.Members
import DocumentFilter.Proofs.Filter.Pointwise
import DocumentFilter.Proofs.Filter.Remainders

/-! Plans that are safe to run.

A test may take for granted what planning made sure of. No divisor is zero, so that every value can
be divided by it; an expression has a test; an array is compared with values or put to element
tests, and never to a mixture of both. All of this holds at every depth of every plan, also of a
plan with faults in it.

What a value leaves is computed with something to fall back on at each step that may have no result.
`leaves?` has nothing to fall back on, and where every step has a result the two give the same
answer (`leaves?_of_dividesBy`). -/
namespace DocumentFilter

/-! ### Division -/

/-- The integers of 128 bits. -/
def Fits128 (n : Int) : Prop := -2 ^ 127 ≤ n ∧ n < 2 ^ 127

instance : DecidablePred Fits128 := fun _ => inferInstanceAs (Decidable (_ ∧ _))

/-- An integer of 128 bits, if it is one. -/
def int128? (n : Int) : Option Int := if Fits128 n then some n else none

theorem int128?_of_fits {n : Int} (h : Fits128 n) : int128? n = some n := if_pos h

namespace Value

/-- Every step of dividing the value has a result. Integers are divided in 128 bits. The remainder
of a decimal is mended only from the other side of zero and by more than its size, and then their
sum is there. -/
def DividesBy (divisor : Int64) : Value → Prop
  | integer n =>
    divisor.toInt ≠ 0 ∧ Fits128 (n.toInt.tdiv divisor.toInt) ∧
      Fits128 (n.toInt.tmod divisor.toInt) ∧ Fits128 (integerRemainder n divisor)
  | float _ => (Binary64.ofInt divisor.toInt).magnitude ≠ 0
  | decimal x =>
    ∃ r, x.remainder? divisor.toInt = some r ∧
      (r.coefficient ≠ 0 ∧ ¬ (r.coefficient < 0 ↔ divisor.toInt < 0) →
        r.coefficient.natAbs < divisor.toInt.natAbs * 10 ^ r.scale ∧
          ∃ sum, r.add? (.ofInt64 divisor) = some sum)
  | _ => True

/-- Does the value leave the remainder? As `leaves`, but without an answer where a step of the
division has no result. -/
def leaves? (divisor remainder : Int64) : Value → Option Bool
  | integer n =>
    if divisor.toInt = 0 then none
    else do
      let _ ← int128? (n.toInt.tdiv divisor.toInt)
      let r ← int128? (n.toInt.tmod divisor.toInt)
      let mended ←
        if r != 0 && decide (r < 0) != decide (divisor.toInt < 0) then int128? (r + divisor.toInt)
        else some r
      return mended == remainder.toInt
  | float x =>
    if (Binary64.ofInt divisor.toInt).magnitude = 0 then none
    else some ((float x).leaves divisor remainder)
  | decimal x => do
    let r ← x.remainder? divisor.toInt
    let mended ←
      if r.coefficient != 0 && decide (r.coefficient < 0) != decide (divisor.toInt < 0) then
        r.add? (.ofInt64 divisor)
      else some r
    return mended.floor == remainder.toInt
  | _ => some false

/-- Where every step has a result, nothing is fallen back on. -/
theorem leaves?_of_dividesBy {divisor : Int64} {v : Value} (h : v.DividesBy divisor)
    (remainder : Int64) : v.leaves? divisor remainder = some (v.leaves divisor remainder) := by
  cases v with
  | integer n =>
    obtain ⟨hne, hquotient, hremainder, hmended⟩ := h
    simp only [leaves?, if_neg hne, int128?_of_fits hquotient, int128?_of_fits hremainder,
      Option.bind_eq_bind, Option.bind_some, leaves]
    unfold integerRemainder at hmended ⊢
    dsimp only at hmended ⊢
    split at hmended
    · next hsigns =>
      rw [if_pos hsigns, if_pos hsigns, int128?_of_fits hmended]
      rfl
    · next hsigns =>
      rw [if_neg hsigns, if_neg hsigns]
      rfl
  | float x => exact if_neg h
  | decimal x =>
    obtain ⟨r, hr, hmend⟩ := h
    simp only [leaves?, leaves, decimalRemainder, hr, Option.getD_some, Option.bind_eq_bind,
      Option.bind_some]
    split
    · next hsigns =>
      obtain ⟨-, sum, hsum⟩ := hmend ((signs_differ_iff ..).mp hsigns)
      rw [hsum]
      rfl
    · rfl
  | _ => rfl

theorem fits128_of_natAbs_le {n : Int} {m : Int64} (h : n.natAbs ≤ m.toInt.natAbs) : Fits128 n := by
  have hlow := m.le_toInt
  have hhigh := m.toInt_lt
  unfold Fits128
  omega

/-- **Every value can be divided by what is not zero.** -/
theorem dividesBy_of_ne_zero {divisor : Int64} (hne : divisor.toInt ≠ 0) (v : Value) :
    v.DividesBy divisor := by
  cases v with
  | integer n =>
    refine ⟨hne, fits128_of_natAbs_le (m := n) ?_, fits128_of_natAbs_le (m := n) ?_,
      fits128_of_natAbs_le (m := divisor) ?_⟩
    · rw [Int.natAbs_tdiv]
      exact Nat.div_le_self ..
    · rw [Int.natAbs_tmod]
      exact Nat.mod_le ..
    · rw [integerRemainder_eq]
      exact (Flooring.natAbs_fmod_lt _ hne).le
  | float x => exact Binary64.magnitude_ofInt_ne_zero hne
  | decimal x =>
    refine ⟨x.remainder divisor.toInt, if_neg hne, fun hsigns => ⟨?_, ?_⟩⟩
    · have hpos := Int.natAbs_pos.mpr (Int.mul_ne_zero hne x.unit_pos.ne')
      show (x.coefficient.tmod (divisor.toInt * x.unit)).natAbs < _ * 10 ^ x.scale
      rw [Int.natAbs_tmod, ← x.natAbs_mul_unit]
      exact Nat.mod_lt _ hpos
    · obtain ⟨sum, -, hsum, -⟩ := exists_add?_remainder x hne hsigns
      exact ⟨sum, hsum⟩
  | _ => trivial

end Value

/-! ### Safe plans -/

/-- A test with no plan inside and nothing to divide by. -/
def Test.isPlain : Test → Bool
  | .eq _ | .ne _ | .relation _ _ | .among _ | .notAmong _ | .notPattern _ | .exist _ | .pattern _
  | .size _ | .invalid _ => true
  | _ => false

mutual

inductive Clause.Safe : Clause → Prop
  | connective {c : Connective} {conditions : List Condition}
      (h : ∀ condition ∈ conditions, ∀ clause ∈ condition, clause.Safe) :
      Clause.Safe (.connective c conditions)
  | literal {route : Route} {operand : Value} : Clause.Safe (.literal route operand)
  | expression {route : Route} {tests : Expression} (h : Expression.Safe tests) :
      Clause.Safe (.expression route tests)
  | invalid {fault : Fault} : Clause.Safe (.invalid fault)

/-- An expression has a test. -/
inductive Expression.Safe : Expression → Prop
  | tests {tests : Expression} (hne : tests ≠ []) (h : ∀ test ∈ tests, test.Safe) :
      Expression.Safe tests

/-- No test divides by zero or falls back on anything when it divides, takes an element test for a
value, or has no element test to put to an array. -/
inductive Test.Safe : Test → Prop
  | plain {test : Test} (h : test.isPlain = true) : Test.Safe test
  | notExpression {tests : Expression} (h : Expression.Safe tests) :
      Test.Safe (.notExpression tests)
  | modulo {divisor remainder : Int64} (hne : divisor ≠ 0) (h : ∀ v : Value, v.DividesBy divisor)
      (hleaves : ∀ v : Value,
        v.leaves? divisor remainder = some (v.leaves divisor remainder)) :
      Test.Safe (.modulo divisor remainder)
  | allValues {operands : List Value} (h : hasElementTest operands = false) :
      Test.Safe (.allValues operands)
  | allElements {elements : List ElementTest} (hne : elements ≠ [])
      (h : ∀ e ∈ elements, e.Safe) : Test.Safe (.allElements elements)
  | element {e : ElementTest} (h : e.Safe) : Test.Safe (.element e)

inductive ElementTest.Safe : ElementTest → Prop
  | condition {clauses : Condition} (h : ∀ clause ∈ clauses, clause.Safe) :
      ElementTest.Safe (.condition clauses)
  | expression {tests : Expression} (h : Expression.Safe tests) :
      ElementTest.Safe (.expression tests)

end

/-! ### Planning -/

theorem planTest?_eq_none_iff (field : String) (context : PatternContext) (key : String)
    (v : Value) :
    planTest? field context key v = none ↔
      Operator.ofWord? key = none ∨
        Operator.ofWord? key = some .options ∧ context.hasPattern = true := by
  rw [planTest?.eq_def]
  cases ho : Operator.ofWord? key with
  | none => simp
  | some o =>
    cases o with
    | options => cases context.hasPattern <;> simp
    | not | all | element =>
      simp only [reduceCtorEq, Option.some.injEq, false_and, or_false, iff_false]
      repeat' split
      all_goals exact Option.some_ne_none _
    | _ => simp

/-- An expression has a test: options alone are a fault, and the pattern that they may stand beside
has one. -/
theorem planExpression_ne_nil {field : String} {entries : Entries}
    (hkeys : isExpression entries = true) : planExpression field entries ≠ [] := by
  rw [isExpression, Bool.and_eq_true, List.all_eq_true] at hkeys
  rw [planExpression, planTests_eq_filterMap, Ne, List.filterMap_eq_nil_iff]
  intro hnone
  have hoptions : ∀ e ∈ entries, Operator.ofWord? e.1 = some .options ∧
      (PatternContext.of entries).hasPattern = true := by
    intro e he
    refine ((planTest?_eq_none_iff ..).mp (hnone e he)).resolve_left fun h => ?_
    have hsome := hkeys.2 e he
    rw [h] at hsome
    cases hsome
  cases entries with
  | nil => exact absurd hkeys.1 (by decide)
  | cons e rest =>
    have hpattern := Entries.get?_isSome_iff.mp (hoptions e (List.mem_cons_self ..)).2
    obtain ⟨e', he', hkey⟩ := List.mem_map.mp hpattern
    have hoption := (hoptions e' he').1
    rw [hkey] at hoption
    cases hoption

/-- A test of an operand is safe when it is for every operand that can be read. -/
theorem safe_testOf {ε α : Type} {fault : ε → Fault} {test : α → Test} {operand : Except ε α}
    (h : ∀ a, operand = .ok a → (test a).Safe) : (testOf fault test operand).Safe := by
  cases operand with
  | ok a => exact h a rfl
  | error e => exact .plain rfl

/-- Wrapped element tests, when each of them is safe: one item with an element test is enough for
the list not to be empty. -/
theorem safe_allElements (field : String) {items : List Value} (htest : hasElementTest items = true)
    (h : ∀ item ∈ items, ∀ entries, item.unwrapped? = some entries →
      (elementOf field entries).Safe) :
    (testOf id .allElements (planElements field 0 items)).Safe := by
  by_cases hall : ∀ item ∈ items, item.unwrapped?.isSome = true
  · rw [planElements_of_wrapped field 0 items hall]
    refine .allElements ?_ ?_
    · obtain ⟨item, hitem, -⟩ := List.any_eq_true.mp htest
      obtain ⟨entries, hentries⟩ := Option.isSome_iff_exists.mp (hall item hitem)
      exact List.ne_nil_of_mem
        (List.mem_map_of_mem (List.mem_filterMap.mpr ⟨item, hitem, hentries⟩))
    · rw [List.forall_mem_map, List.forall_mem_filterMap]
      exact h
  · obtain ⟨fault, hfault⟩ := planElements_of_not_wrapped field 0 items hall
    rw [hfault]
    exact .plain rfl

mutual

theorem safe_of_mem_planClauses (entries : Entries) :
    ∀ clause ∈ planClauses entries, clause.Safe := by
  rw [planClauses_eq_map, List.forall_mem_map]
  exact fun e _ => safe_planClause e.1 e.2
  termination_by (sizeOf entries, 0)
  decreasing_by exact .left _ _ (Entries.sizeOf_lt_of_mem ‹_›)

theorem safe_of_mem_planQuery (query : Value) : ∀ clause ∈ planQuery query, clause.Safe := by
  cases query with
  | object entries => exact safe_of_mem_planClauses entries
  | _ => exact fun _ h => List.mem_singleton.mp h ▸ .invalid
  termination_by (sizeOf query, 0)

theorem safe_planClause (key : String) (v : Value) : (planClause key v).Safe := by
  rw [planClause.eq_def]
  cases Connective.ofWord? key with
  | some c =>
    cases v with
    | array queries =>
      by_cases h : ∀ query ∈ queries, ∃ entries, query = .object entries
      · simp only [planConditions_of_objects c 0 queries h]
        refine .connective (List.forall_mem_map.mpr fun query hquery => ?_)
        exact safe_of_mem_planQuery query
      · obtain ⟨fault, hfault⟩ := planConditions_of_not_objects c 0 queries h
        simp only [hfault]
        exact .invalid
    | _ => exact .invalid
  | none =>
    cases v with
    | object entries =>
      by_cases hkeys : isExpression entries = true
      · simp only [if_pos hkeys]
        exact .expression (safe_planExpression key entries hkeys)
      · simp only [if_neg hkeys]
        exact .literal
    | _ => exact .literal
  termination_by (sizeOf v, 0)

theorem safe_planExpression (field : String) (entries : Entries)
    (hkeys : isExpression entries = true) : Expression.Safe (planExpression field entries) := by
  refine .tests (planExpression_ne_nil hkeys) ?_
  rw [planExpression, planTests_eq_filterMap, List.forall_mem_filterMap]
  exact fun e _ => safe_of_planTest?_eq field _ e.1 e.2
  termination_by (sizeOf entries, 0)
  decreasing_by exact .left _ _ (Entries.sizeOf_lt_of_mem ‹_›)

theorem safe_of_planTest?_eq (field : String) (context : PatternContext) (key : String)
    (v : Value) : ∀ test, planTest? field context key v = some test → test.Safe := by
  rw [planTest?.eq_def]
  cases Operator.ofWord? key with
  | none => exact fun _ h => nomatch h
  | some o =>
    cases o with
    | eq | ne | gt | gte | lt | lte | exist =>
      rintro _ ⟨⟩
      exact .plain rfl
    | among | notAmong =>
      rintro _ ⟨⟩
      cases v <;> exact .plain rfl
    | not =>
      cases v with
      | regex p =>
        rintro _ ⟨⟩
        exact .plain rfl
      | object entries =>
        by_cases hkeys : isExpression entries = true
        · simp only [if_pos hkeys, Option.some.injEq, forall_eq']
          exact .notExpression (safe_planExpression field entries hkeys)
        · simp only [if_neg hkeys, Option.some.injEq, forall_eq']
          exact .plain rfl
      | _ =>
        rintro _ ⟨⟩
        exact .plain rfl
    | pattern =>
      rintro _ ⟨⟩
      exact safe_testOf fun _ _ => .plain rfl
    | options =>
      cases context.hasPattern
      · rintro _ ⟨⟩
        exact .plain rfl
      · rintro _ ⟨⟩
    | modulo =>
      rintro _ ⟨⟩
      refine safe_testOf fun pair hpair => ?_
      obtain ⟨-, -, -, -, -, hne⟩ := (moduloOperand_eq_ok_iff v pair.1 pair.2).mp hpair
      have hdivides := Value.dividesBy_of_ne_zero fun h => hne (Int64.toInt_inj.mp h)
      exact .modulo hne hdivides fun v => Value.leaves?_of_dividesBy (hdivides v) pair.2
    | size =>
      rintro _ ⟨⟩
      exact safe_testOf fun _ _ => .plain rfl
    | all =>
      cases v with
      | array items =>
        by_cases hwrappers : hasElementTest items = true
        · simp only [if_pos hwrappers, Option.some.injEq, forall_eq']
          exact safe_allElements field hwrappers
            fun item hitem entries hentries => safe_elementOf field entries
        · simp only [if_neg hwrappers, Option.some.injEq, forall_eq']
          exact .allValues (Bool.eq_false_iff.mpr hwrappers)
      | _ =>
        rintro _ ⟨⟩
        exact .plain rfl
    | element =>
      cases v with
      | object entries =>
        simp only [some_element_elementOf, Option.some.injEq, forall_eq']
        exact .element (safe_elementOf field entries)
      | _ =>
        rintro _ ⟨⟩
        exact .plain rfl
  termination_by (sizeOf v, 0)
  decreasing_by
    · decreasing_tactic
    · have hlt := Value.sizeOf_lt_of_unwrapped? hentries
      have := Value.sizeOf_lt_of_mem hitem
      exact .left _ _ (by omega)
    · decreasing_tactic

theorem safe_elementOf (field : String) (entries : Entries) : (elementOf field entries).Safe := by
  rw [elementOf]
  by_cases hkeys : isExpression entries = true
  · rw [if_pos hkeys]
    exact .expression (safe_planExpression field entries hkeys)
  · rw [if_neg hkeys]
    exact .condition (safe_of_mem_planClauses entries)
  termination_by (sizeOf entries, 1)

end

/-- A filter is safe when every clause of its condition is. -/
def Filter.Safe (f : Filter) : Prop := ∀ clause ∈ f.condition, clause.Safe

/-- **Every filter is safe to run**, whatever the query it was made of: no document makes a test of
it divide by zero, leave the range of its numbers or fall back on a number that it did not
compute. -/
theorem Filter.safe_ofQuery (query : Value) : (Filter.ofQuery query).Safe :=
  safe_of_mem_planQuery query

end DocumentFilter
