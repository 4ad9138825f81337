import DocumentFilter.Filter.Basic
import DocumentFilter.Proofs.Document.Members
import DocumentFilter.Proofs.Filter.Pointwise

/-! The grammar of queries.

A rule says what may stand in its place and names no plan and no fault. An object with
nothing but operators as keys is an expression wherever an expression may stand, also
where it could be read as a condition on fields of those names. The check of a filter
turns away exactly the queries that the rules do not make. -/
namespace DocumentFilter

/-- Operators that take any value. -/
def Operator.takesAny : Operator → Bool
  | eq | ne | gt | gte | lt | lte | exist => true
  | _ => false

/-- Operators that take any list. -/
def Operator.takesList : Operator → Bool
  | among | notAmong => true
  | _ => false

theorem Operator.takesAny_of_takesList {o : Operator} (h : o.takesList = true) :
    o.takesAny = false := by
  cases o <;> first | rfl | cases h

namespace Grammar

mutual

/-- A query is an object that is a condition. -/
inductive Query : Value → Prop
  | object {entries : Entries} (h : Condition entries) : Query (.object entries)

inductive Condition : Entries → Prop
  | entries {entries : Entries} (h : ∀ e ∈ entries, Entry e.1 e.2) : Condition entries

/-- An entry of a condition: a connective of queries, a literal, or an expression. -/
inductive Entry : String → Value → Prop
  | connective {key : String} {c : Connective} {queries : List Value}
      (hkey : Connective.ofWord? key = some c) (h : ∀ query ∈ queries, Query query) :
      Entry key (.array queries)
  | literal {key : String} {v : Value} (hkey : Connective.ofWord? key = none)
      (h : ∀ entries, v = .object entries → isExpression entries = false) : Entry key v
  | expression {key : String} {entries : Entries} (hkey : Connective.ofWord? key = none)
      (h : Expression entries) : Entry key (.object entries)

/-- An object of operators, each with an operand of its own. -/
inductive Expression : Entries → Prop
  | operators {entries : Entries} (hkeys : isExpression entries = true)
      (h : ∀ e ∈ entries, ∀ o, Operator.ofWord? e.1 = some o → Operand entries o e.2) :
      Expression entries

/-- What an operator takes, among all the entries of its expression. -/
inductive Operand : Entries → Operator → Value → Prop
  | any {siblings : Entries} {o : Operator} {v : Value} (h : o.takesAny = true) :
      Operand siblings o v
  | list {siblings : Entries} {o : Operator} {items : List Value} (h : o.takesList = true) :
      Operand siblings o (.array items)
  | notPattern {siblings : Entries} {p : Pattern} : Operand siblings .not (.regex p)
  | notExpression {siblings entries : Entries} (h : Expression entries) :
      Operand siblings .not (.object entries)
  | pattern {siblings : Entries} {v : Value} {p : Pattern}
      (h : v.patternBeside? (siblings.get? Operator.options.word) = some p) :
      Operand siblings .pattern v
  | options {siblings : Entries} {v : Value}
      (h : (siblings.get? Operator.pattern.word).isSome = true) : Operand siblings .options v
  | modulo {siblings : Entries} {v : Value} {divisor remainder : Int64}
      (h : v.AsksRemainder divisor remainder) : Operand siblings .modulo v
  | size {siblings : Entries} {v : Value} {length : Nat} (h : v.AsksLength length) :
      Operand siblings .size v
  | values {siblings : Entries} {items : List Value} (h : hasElementTest items = false) :
      Operand siblings .all (.array items)
  | wrapped {siblings : Entries} {items : List Value}
      (hitems : ∀ item ∈ items, item.unwrapped?.isSome = true)
      (h : ∀ item ∈ items, ∀ entries, item.unwrapped? = some entries → ElementTest entries) :
      Operand siblings .all (.array items)
  | element {siblings entries : Entries} (h : ElementTest entries) :
      Operand siblings .element (.object entries)

/-- An element test. Only what is no expression is read as a condition. -/
inductive ElementTest : Entries → Prop
  | expression {entries : Entries} (h : Expression entries) : ElementTest entries
  | condition {entries : Entries} (hkeys : isExpression entries = false)
      (h : Condition entries) : ElementTest entries

end

/-! ### The rules, read backwards -/

theorem query_iff {v : Value} : Query v ↔ ∃ entries, v = .object entries ∧ Condition entries :=
  ⟨fun | .object h => ⟨_, rfl, h⟩, fun ⟨_, hv, h⟩ => hv ▸ .object h⟩

theorem condition_iff {entries : Entries} : Condition entries ↔ ∀ e ∈ entries, Entry e.1 e.2 :=
  ⟨fun | .entries h => h, .entries⟩

theorem entry_connective_iff {key : String} {c : Connective} {v : Value}
    (hkey : Connective.ofWord? key = some c) :
    Entry key v ↔ ∃ queries, v = .array queries ∧ ∀ query ∈ queries, Query query := by
  constructor
  · intro h
    cases h with
    | connective _ h => exact ⟨_, rfl, h⟩
    | literal hnone _ => simp [hnone] at hkey
    | expression hnone _ => simp [hnone] at hkey
  · rintro ⟨queries, rfl, h⟩
    exact .connective hkey h

theorem entry_expression_iff {key : String} {entries : Entries}
    (hkey : Connective.ofWord? key = none) (hkeys : isExpression entries = true) :
    Entry key (.object entries) ↔ Expression entries := by
  constructor
  · intro h
    cases h with
    | literal _ h => simp [h entries rfl] at hkeys
    | expression _ h => exact h
  · exact .expression hkey

theorem expression_iff {entries : Entries} (hkeys : isExpression entries = true) :
    Expression entries ↔
      ∀ e ∈ entries, ∀ o, Operator.ofWord? e.1 = some o → Operand entries o e.2 :=
  ⟨fun | .operators _ h => h, .operators hkeys⟩

theorem Expression.keys {entries : Entries} (h : Expression entries) :
    isExpression entries = true := by
  cases h with
  | operators hkeys _ => exact hkeys

theorem elementTest_expression_iff {entries : Entries} (hkeys : isExpression entries = true) :
    ElementTest entries ↔ Expression entries := by
  constructor
  · intro h
    cases h with
    | expression h => exact h
    | condition hnot _ => simp [hnot] at hkeys
  · exact .expression

theorem elementTest_condition_iff {entries : Entries} (hkeys : isExpression entries = false) :
    ElementTest entries ↔ Condition entries := by
  constructor
  · intro h
    cases h with
    | expression h => simp [h.keys] at hkeys
    | condition _ h => exact h
  · exact .condition hkeys

section
variable {siblings : Entries} {v : Value}

theorem operand_list_iff {o : Operator} (ho : o.takesList = true) :
    Operand siblings o v ↔ ∃ items, v = .array items := by
  constructor
  · intro h
    cases h with
    | any h => simp [Operator.takesAny_of_takesList ho] at h
    | list _ => exact ⟨_, rfl⟩
    | _ => cases ho
  · rintro ⟨items, rfl⟩
    exact .list ho

theorem operand_not_iff :
    Operand siblings .not v ↔
      (∃ p, v = .regex p) ∨ ∃ entries, v = .object entries ∧ Expression entries := by
  constructor
  · intro h
    cases h with
    | any h | list h => cases h
    | notPattern => exact .inl ⟨_, rfl⟩
    | notExpression h => exact .inr ⟨_, rfl, h⟩
  · rintro (⟨p, rfl⟩ | ⟨entries, rfl, h⟩)
    · exact .notPattern
    · exact .notExpression h

theorem operand_pattern_iff :
    Operand siblings .pattern v ↔
      ∃ p, v.patternBeside? (siblings.get? Operator.options.word) = some p := by
  constructor
  · intro h
    cases h with
    | any h | list h => cases h
    | pattern h => exact ⟨_, h⟩
  · exact fun ⟨p, h⟩ => .pattern h

theorem operand_options_iff :
    Operand siblings .options v ↔ (siblings.get? Operator.pattern.word).isSome = true := by
  constructor
  · intro h
    cases h with
    | any h | list h => cases h
    | options h => exact h
  · exact .options

theorem operand_modulo_iff :
    Operand siblings .modulo v ↔ ∃ divisor remainder, v.AsksRemainder divisor remainder := by
  constructor
  · intro h
    cases h with
    | any h | list h => cases h
    | modulo h => exact ⟨_, _, h⟩
  · exact fun ⟨divisor, remainder, h⟩ => .modulo h

theorem operand_size_iff : Operand siblings .size v ↔ ∃ length, v.AsksLength length := by
  constructor
  · intro h
    cases h with
    | any h | list h => cases h
    | size h => exact ⟨_, h⟩
  · exact fun ⟨length, h⟩ => .size h

theorem operand_all_iff :
    Operand siblings .all v ↔
      ∃ items, v = .array items ∧ (hasElementTest items = true →
        (∀ item ∈ items, item.unwrapped?.isSome = true) ∧
          ∀ item ∈ items, ∀ entries, item.unwrapped? = some entries → ElementTest entries) := by
  constructor
  · intro h
    cases h with
    | any h | list h => cases h
    | values h => exact ⟨_, rfl, fun htest => by simp [h] at htest⟩
    | wrapped hitems h => exact ⟨_, rfl, fun _ => ⟨hitems, h⟩⟩
  · rintro ⟨items, rfl, h⟩
    by_cases htest : hasElementTest items = true
    · exact .wrapped (h htest).1 (h htest).2
    · exact .values (Bool.eq_false_iff.mpr htest)

theorem operand_element_iff :
    Operand siblings .element v ↔ ∃ entries, v = .object entries ∧ ElementTest entries := by
  constructor
  · intro h
    cases h with
    | any h | list h => cases h
    | element h => exact ⟨_, rfl, h⟩
  · rintro ⟨entries, rfl, h⟩
    exact .element h

end

end Grammar

/-! ### The check finds the grammar -/

/-- A test of an operand has no fault when the operand can be read. -/
theorem fault?_testOf_eq_none_iff {ε α : Type} {fault : ε → Fault} {test : α → Test}
    {operand : Except ε α} {reads : α → Prop} (hreads : ∀ a, operand = .ok a ↔ reads a)
    (htest : ∀ a, (test a).fault? = none) :
    (testOf fault test operand).fault? = none ↔ ∃ a, reads a := by
  cases operand with
  | ok a => simp only [testOf, htest, ← hreads, Except.ok.injEq, exists_eq']
  | error e => simp [testOf, Test.fault?, ← hreads]

/-- Wrapped element tests, when the check of each finds the grammar. -/
theorem fault?_wrapped_eq_none_iff (field : String) (items : List Value)
    (h : ∀ item ∈ items, ∀ entries, item.unwrapped? = some entries →
      ((elementOf field entries).fault? = none ↔ Grammar.ElementTest entries)) :
    (testOf id .allElements (planElements field 0 items)).fault? = none ↔
      (∀ item ∈ items, item.unwrapped?.isSome = true) ∧
        ∀ item ∈ items, ∀ entries, item.unwrapped? = some entries →
          Grammar.ElementTest entries := by
  by_cases hall : ∀ item ∈ items, item.unwrapped?.isSome = true
  · rw [planElements_of_wrapped field 0 items hall, and_iff_right hall, testOf, Test.fault?,
      elementsFault?_eq_findSome?, List.findSome?_map, List.findSome?_eq_none_iff,
      List.forall_mem_filterMap]
    exact forall₂_congr fun item hitem => forall₂_congr fun entries => h item hitem entries
  · obtain ⟨fault, hfault⟩ := planElements_of_not_wrapped field 0 items hall
    rw [hfault]
    simp only [testOf, Test.fault?, reduceCtorEq, false_iff]
    exact fun hboth => hall hboth.1

mutual

theorem clausesFault?_planClauses_eq_none_iff (entries : Entries) :
    clausesFault? (planClauses entries) = none ↔ Grammar.Condition entries := by
  rw [clausesFault?_eq_findSome?, planClauses_eq_map, List.findSome?_map,
    List.findSome?_eq_none_iff, Grammar.condition_iff]
  exact forall₂_congr fun e _ => fault?_planClause_eq_none_iff e.1 e.2
  termination_by (sizeOf entries, 0)
  decreasing_by exact .left _ _ (Entries.sizeOf_lt_of_mem ‹_›)

theorem clausesFault?_planQuery_eq_none_iff (query : Value) :
    clausesFault? (planQuery query) = none ↔ Grammar.Query query := by
  cases query with
  | object entries =>
    simp only [Grammar.query_iff, Value.object.injEq, exists_eq_left']
    exact clausesFault?_planClauses_eq_none_iff entries
  | _ => simp [planQuery, clausesFault?, Clause.fault?, Grammar.query_iff]
  termination_by (sizeOf query, 0)

theorem fault?_planClause_eq_none_iff (key : String) (v : Value) :
    (planClause key v).fault? = none ↔ Grammar.Entry key v := by
  rw [planClause.eq_def]
  cases hkey : Connective.ofWord? key with
  | some c =>
    rw [Grammar.entry_connective_iff hkey]
    cases v with
    | array queries =>
      simp only [Value.array.injEq, exists_eq_left']
      by_cases h : ∀ query ∈ queries, ∃ entries, query = .object entries
      · rw [planConditions_of_objects c 0 queries h, Clause.fault?,
          conditionsFault?_eq_findSome?, List.findSome?_map, List.findSome?_eq_none_iff]
        exact forall₂_congr fun query _ => clausesFault?_planQuery_eq_none_iff query
      · obtain ⟨fault, hfault⟩ := planConditions_of_not_objects c 0 queries h
        rw [hfault]
        simp only [Clause.fault?, reduceCtorEq, false_iff]
        intro hall
        refine h fun query hquery => ?_
        obtain ⟨entries, hentries, -⟩ := Grammar.query_iff.mp (hall query hquery)
        exact ⟨entries, hentries⟩
    | _ => simp [Clause.fault?]
  | none =>
    cases v with
    | object entries =>
      simp only
      by_cases hkeys : isExpression entries = true
      · rw [if_pos hkeys, Grammar.entry_expression_iff hkey hkeys, Clause.fault?]
        exact testsFault?_planExpression_eq_none_iff key entries hkeys
      · rw [if_neg hkeys, Clause.fault?]
        refine iff_of_true rfl (.literal hkey ?_)
        rintro _ ⟨⟩
        exact Bool.eq_false_iff.mpr hkeys
    | _ => exact iff_of_true rfl (.literal hkey (by simp))
  termination_by (sizeOf v, 0)

theorem testsFault?_planExpression_eq_none_iff (field : String) (entries : Entries)
    (hkeys : isExpression entries = true) :
    testsFault? (planExpression field entries) = none ↔ Grammar.Expression entries := by
  rw [planExpression, testsFault?_eq_findSome?, planTests_eq_filterMap,
    List.findSome?_eq_none_iff, List.forall_mem_filterMap, Grammar.expression_iff hkeys]
  refine forall₂_congr fun e _ => ?_
  cases ho : Operator.ofWord? e.1 with
  | none => simp [planTest?.eq_def, ho]
  | some o =>
    simp only [Option.some.injEq, forall_eq']
    exact fault?_planTest?_eq_none_iff field entries e.2 ho
  termination_by (sizeOf entries, 0)
  decreasing_by exact .left _ _ (Entries.sizeOf_lt_of_mem ‹_›)

theorem fault?_planTest?_eq_none_iff (field : String) (siblings : Entries) {key : String}
    (v : Value) {o : Operator} (ho : Operator.ofWord? key = some o) :
    (∀ test, planTest? field (.of siblings) key v = some test → test.fault? = none) ↔
      Grammar.Operand siblings o v := by
  rw [planTest?.eq_def, ho]
  cases o with
  | eq | ne | gt | gte | lt | lte | exist =>
    simp only [Option.some.injEq, forall_eq']
    exact iff_of_true rfl (.any rfl)
  | among | notAmong =>
    rw [Grammar.operand_list_iff rfl]
    cases v <;> simp [listTest, Test.fault?]
  | not =>
    rw [Grammar.operand_not_iff]
    cases v with
    | regex p => simp [Test.fault?]
    | object entries =>
      simp only [Value.object.injEq, exists_eq_left', reduceCtorEq, exists_false, false_or]
      by_cases hkeys : isExpression entries = true
      · simp only [if_pos hkeys, Option.some.injEq, forall_eq', Test.fault?]
        exact testsFault?_planExpression_eq_none_iff field entries hkeys
      · simp only [if_neg hkeys, Option.some.injEq, forall_eq', Test.fault?, reduceCtorEq,
          false_iff]
        exact fun h => hkeys h.keys
    | _ => simp [Test.fault?]
  | pattern =>
    simp only [Option.some.injEq, forall_eq', Grammar.operand_pattern_iff]
    exact fault?_testOf_eq_none_iff (patternOperand_eq_ok_iff field v _) fun _ => rfl
  | options =>
    rw [Grammar.operand_options_iff]
    by_cases h : (siblings.get? Operator.pattern.word).isSome = true
    · simp [PatternContext.of, h]
    · simp [PatternContext.of, h, Test.fault?]
  | modulo =>
    simp only [Option.some.injEq, forall_eq', Grammar.operand_modulo_iff]
    refine (fault?_testOf_eq_none_iff
      (fun pair : Int64 × Int64 => moduloOperand_eq_ok_iff v pair.1 pair.2) fun _ => rfl).trans ?_
    exact Prod.exists
  | size =>
    simp only [Option.some.injEq, forall_eq', Grammar.operand_size_iff]
    exact fault?_testOf_eq_none_iff (sizeOperand_eq_ok_iff v) fun _ => rfl
  | all =>
    rw [Grammar.operand_all_iff]
    cases v with
    | array items =>
      simp only [Value.array.injEq, exists_eq_left']
      by_cases h : hasElementTest items = true
      · simp only [h, if_true, Option.some.injEq, forall_eq', forall_const]
        exact fault?_wrapped_eq_none_iff field items
          fun item hitem entries hentries => fault?_elementOf_eq_none_iff field entries
      · simp [h, Test.fault?]
    | _ => simp [Test.fault?]
  | element =>
    rw [Grammar.operand_element_iff]
    cases v with
    | object entries =>
      simp only [some_element_elementOf, Option.some.injEq, forall_eq', Test.fault?,
        Value.object.injEq, exists_eq_left']
      exact fault?_elementOf_eq_none_iff field entries
    | _ => simp [Test.fault?]
  termination_by (sizeOf v, 0)
  decreasing_by
    · decreasing_tactic
    · have hlt := Value.sizeOf_lt_of_unwrapped? hentries
      have := Value.sizeOf_lt_of_mem hitem
      exact .left _ _ (by omega)
    · decreasing_tactic

theorem fault?_elementOf_eq_none_iff (field : String) (entries : Entries) :
    (elementOf field entries).fault? = none ↔ Grammar.ElementTest entries := by
  rw [elementOf]
  by_cases hkeys : isExpression entries = true
  · rw [if_pos hkeys, Grammar.elementTest_expression_iff hkeys, ElementTest.fault?]
    exact testsFault?_planExpression_eq_none_iff field entries hkeys
  · rw [if_neg hkeys, Grammar.elementTest_condition_iff (Bool.eq_false_iff.mpr hkeys),
      ElementTest.fault?]
    exact clausesFault?_planClauses_eq_none_iff entries
  termination_by (sizeOf entries, 1)

end

/-- **The check turns away exactly what no rule makes.** It walks a plan and the rules a
query, and no fault that either meets is lost on the way out of nested parts. -/
theorem Filter.check_isOk_iff (query : Value) :
    (Filter.ofQuery query).check.isOk = true ↔ Grammar.Query query := by
  rw [← clausesFault?_planQuery_eq_none_iff, Filter.check, Filter.ofQuery]
  cases clausesFault? (planQuery query) <;> simp [Except.isOk, Except.toBool]

/-- A well-formed condition on a field with the name of an operator, which is turned away
as an element test: there it is an expression, and its operand no list. -/
theorem element_of_condition_rejected :
    Grammar.Condition [("$in", .integer 5)] ∧
      (Filter.ofQuery (.object [("x", .object [("$elemMatch",
        .object [("$in", .integer 5)])])])).check.isOk = false := by
  refine ⟨.entries fun e he => ?_, by rfl⟩
  rw [List.mem_singleton.mp he]
  exact .literal rfl fun _ h => nomatch h

end DocumentFilter
