import DocumentFilter.Filter.Basic
import DocumentFilter.Proofs.Document.Landings
import DocumentFilter.Proofs.Filter.Pointwise

/-! What a query means, without a plan.

`Describes` reads a query and a document side by side: it looks at the keys of the query
where it meets them and asks for the landings of a route in the document. It knows no
plan, no faults and no order of evaluation; what is malformed holds of nothing. A filter
accepts exactly the documents that its query describes: every part of a plan holds just
when the part of the query that it was made from does. -/
namespace DocumentFilter

/-! ### Single tests on a field -/

/-- The field equals the operand; null equals what is missing. -/
def EqualAt (operand doc : Value) (route : Route) : Prop :=
  doc.Meets .items route (fun v => v.matchesOperand operand = true) (operand.isNull = true)

/-- The field equals some operand. -/
def AmongAt (operands : List Value) (doc : Value) (route : Route) : Prop :=
  doc.Meets .items route (fun v => ∃ operand ∈ operands, v.matchesOperand operand = true)
    (∃ operand ∈ operands, operand.isNull = true)

def RelatedAt (r : Relation) (operand doc : Value) (route : Route) : Prop :=
  doc.Meets .items route (fun v => v.relatesTo r operand = true) (r.holdsOfMissing operand = true)

/-- The pattern is found in the field. -/
def FoundAt (p : Pattern) (doc : Value) (route : Route) : Prop :=
  doc.Meets .items route (fun v => v.contains p = true) False

/-- The route ends in an array with this property. -/
def ArrayAt (doc : Value) (route : Route) (property : List Value → Prop) : Prop :=
  doc.Meets .whole route (fun v => ∃ items, v = .array items ∧ property items) False

/-! ### The meaning -/

mutual

/-- The query describes the document. -/
def Value.Describes (query doc : Value) : Prop :=
  match query with
  | .object entries => ConditionHolds entries doc
  | _ => False
  termination_by (sizeOf query, 0)

def ConditionHolds (entries : Entries) (doc : Value) : Prop :=
  ∀ e ∈ entries, EntryHolds e.1 e.2 doc
  termination_by (sizeOf entries, 0)
  decreasing_by exact .left _ _ (Entries.sizeOf_lt_of_mem ‹_›)

/-- One entry of a condition: a connective over conditions, or what a field has to be. -/
def EntryHolds (key : String) (v doc : Value) : Prop :=
  match Connective.ofWord? key, v with
  | some c, .array queries =>
    (∀ query ∈ queries, ∃ entries, query = .object entries) ∧
      match c with
      | .and => ∀ query ∈ queries, query.Describes doc
      | .or => ∃ query, ∃ _ : query ∈ queries, query.Describes doc
      | .nor => ∀ query ∈ queries, ¬ query.Describes doc
  | some _, _ => False
  | none, .object entries =>
    if isExpression entries then ExpressionHolds entries doc (.ofName key)
    else EqualAt (.object entries) doc (.ofName key)
  | none, v => EqualAt v doc (.ofName key)
  termination_by (sizeOf v, 0)

/-- Every operator of the expression holds of the field. -/
def ExpressionHolds (entries : Entries) (doc : Value) (route : Route) : Prop :=
  ∀ e ∈ entries, OperatorHolds entries e.1 e.2 doc route
  termination_by (sizeOf entries, 0)
  decreasing_by exact .left _ _ (Entries.sizeOf_lt_of_mem ‹_›)

/-- One operator of an expression, among all the entries of it. -/
def OperatorHolds (siblings : Entries) (key : String) (v doc : Value) (route : Route) : Prop :=
  match Operator.ofWord? key with
  | none => True
  | some .eq => EqualAt v doc route
  | some .ne => ¬ EqualAt v doc route
  | some .gt => RelatedAt .gt v doc route
  | some .gte => RelatedAt .gte v doc route
  | some .lt => RelatedAt .lt v doc route
  | some .lte => RelatedAt .lte v doc route
  | some .among => ∃ operands, v = .array operands ∧ AmongAt operands doc route
  | some .notAmong => ∃ operands, v = .array operands ∧ ¬ AmongAt operands doc route
  | some .not =>
    match v with
    | .regex p => ¬ FoundAt p doc route
    | .object entries => isExpression entries = true ∧ ¬ ExpressionHolds entries doc route
    | _ => False
  | some .exist => (∃ w, .reached w ∈ doc.landings .whole route) ↔ v.isTruthy = true
  | some .pattern =>
    ∃ p, v.patternBeside? (siblings.get? Operator.options.word) = some p ∧ FoundAt p doc route
  | some .options => (siblings.get? Operator.pattern.word).isSome = true
  | some .modulo =>
    ∃ d r, v.AsksRemainder d r ∧ doc.Meets .items route (fun w => w.leaves d r = true) False
  | some .size =>
    ∃ n, v.AsksLength n ∧ ArrayAt doc route fun items => items.length = n
  | some .all =>
    match v with
    | .array operands =>
      if hasElementTest operands then
        (∀ o ∈ operands, o.unwrapped?.isSome) ∧
          ArrayAt doc route fun items =>
            ∀ o ∈ operands, ∀ entries, o.unwrapped? = some entries →
              ∃ item ∈ items, ElementHolds entries item
      else
        operands ≠ [] ∧
          ArrayAt doc route fun items =>
            ∀ o ∈ operands, (∃ item ∈ items, item.matchesOperand o = true) ∨
              (Value.array items).matchesOperand o = true
    | _ => False
  | some .element =>
    match v with
    | .object entries => ArrayAt doc route fun items => ∃ item ∈ items, ElementHolds entries item
    | _ => False
  termination_by (sizeOf v, 0)
  decreasing_by
    · decreasing_tactic
    -- What a wrapper holds is smaller than the wrapper, and that than the list of them.
    · have := Value.sizeOf_lt_of_unwrapped? ‹_›
      have := Value.sizeOf_lt_of_mem ‹_›
      exact .left _ _ (by omega)
    · decreasing_tactic

/-- An element test: an expression on the item, or a query of its own. -/
def ElementHolds (entries : Entries) (item : Value) : Prop :=
  if isExpression entries then ExpressionHolds entries item [] else ConditionHolds entries item
  termination_by (sizeOf entries, 1)

end

/-- An operator sees of the entries beside it only what patterns and options do. -/
theorem operatorHolds_congr {siblings siblings' : Entries}
    (h : PatternContext.of siblings' = PatternContext.of siblings) (key : String) (v doc : Value)
    (route : Route) :
    OperatorHolds siblings key v doc route ↔ OperatorHolds siblings' key v doc route := by
  have hpattern : (siblings'.get? Operator.pattern.word).isSome =
      (siblings.get? Operator.pattern.word).isSome := congrArg PatternContext.hasPattern h
  have hoptions : siblings'.get? Operator.options.word = siblings.get? Operator.options.word :=
    congrArg PatternContext.options h
  rw [OperatorHolds.eq_def, OperatorHolds.eq_def siblings', hpattern, hoptions]

/-! ### Matching finds the meaning -/

theorem fieldEquals_iff (operand doc : Value) (route : Route) :
    fieldEquals operand doc route = true ↔ EqualAt operand doc route :=
  Value.search_iff ..

theorem fieldContains_iff (p : Pattern) (doc : Value) (route : Route) :
    fieldContains p doc route = true ↔ FoundAt p doc route :=
  (Value.search_iff ..).trans (Value.Meets.congr (fun _ => .rfl) (by simp))

theorem fieldAmong_iff (operands : List Value) (doc : Value) (route : Route) :
    fieldAmong operands doc route = true ↔ AmongAt operands doc route :=
  (Value.search_iff ..).trans (Value.Meets.congr (fun _ => List.any_eq_true) List.any_eq_true)

/-- A search for an array with a property. -/
theorem search_array_iff {test : Value → Bool} {property : List Value → Prop} (doc : Value)
    (route : Route) (h : ∀ v, test v = true ↔ ∃ items, v = .array items ∧ property items) :
    doc.search test false .whole route = true ↔ ArrayAt doc route property :=
  (Value.search_iff ..).trans (Value.Meets.congr h (by simp))

theorem any_items?_iff (v : Value) (test : List Value → Bool) :
    v.items?.any test = true ↔ ∃ items, v = .array items ∧ test items = true := by
  cases v <;> simp [Value.items?]

theorem not_iff_of_iff {b : Bool} {p : Prop} (h : b = true ↔ p) : (!b) = true ↔ ¬ p := by
  rw [← h, Bool.not_eq_true', Bool.not_eq_true]

/-- A test of an operand holds when the operand can be read, and then as what was read. -/
theorem accepts_testOf {ε α : Type} {fault : ε → Fault} {test : α → Test} {operand : Except ε α}
    {doc : Value} {route : Route} {reads holds : α → Prop}
    (hreads : ∀ a, operand = .ok a ↔ reads a)
    (hholds : ∀ a, (test a).accepts doc route = true ↔ holds a) :
    (testOf fault test operand).accepts doc route = true ↔ ∃ a, reads a ∧ holds a := by
  cases operand with
  | ok a =>
    simp only [testOf, hholds, ← hreads, Except.ok.injEq, exists_eq_left']
  | error e => simp [testOf, Test.accepts, ← hreads]

theorem fieldLeaves_iff (divisor remainder : Int64) (doc : Value) (route : Route) :
    (Test.modulo divisor remainder).accepts doc route = true ↔
      doc.Meets .items route (fun v => v.leaves divisor remainder = true) False :=
  (Value.search_iff ..).trans (Value.Meets.congr (fun _ => .rfl) (by simp))

theorem fieldLength_iff (length : Nat) (doc : Value) (route : Route) :
    (Test.size length).accepts doc route = true ↔
      ArrayAt doc route fun items => items.length = length :=
  search_array_iff doc route fun v => by simp [Value.hasLength, any_items?_iff]

theorem fieldHoldsAll_iff (operands : List Value) (doc : Value) (route : Route) :
    (Test.allValues operands).accepts doc route = true ↔
      operands ≠ [] ∧ ArrayAt doc route fun items =>
        ∀ o ∈ operands, (∃ item ∈ items, item.matchesOperand o = true) ∨
          (Value.array items).matchesOperand o = true := by
  have h (v : Value) : v.holdsAll operands = true ↔ ∃ items, v = .array items ∧
      ∀ o ∈ operands, (∃ item ∈ items, item.matchesOperand o = true) ∨
        (Value.array items).matchesOperand o = true := by
    rw [Value.holdsAll, any_items?_iff]
    refine exists_congr fun items => and_congr_right fun hv => ?_
    simp only [hv, List.all_eq_true, Bool.or_eq_true, List.any_eq_true]
  rw [Test.accepts, Bool.and_eq_true, search_array_iff doc route h]
  simp

/-- A connective over queries whose plans find their meanings. -/
theorem accepts_connective (c : Connective) (queries : List Value) (doc : Value)
    (h : ∀ query ∈ queries, (allClauses (planQuery query) doc = true ↔ query.Describes doc)) :
    (Clause.connective c (queries.map planQuery)).accepts doc = true ↔
      match c with
      | .and => ∀ query ∈ queries, query.Describes doc
      | .or => ∃ query, ∃ _ : query ∈ queries, query.Describes doc
      | .nor => ∀ query ∈ queries, ¬ query.Describes doc := by
  cases c with
  | and =>
    rw [Clause.accepts, allConditions_eq_all, List.all_map, List.all_eq_true]
    exact forall₂_congr h
  | or =>
    rw [Clause.accepts, anyCondition_eq_any, List.any_map, List.any_eq_true]
    exact exists_congr fun query =>
      ⟨fun ⟨hq, ha⟩ => ⟨hq, (h query hq).mp ha⟩, fun ⟨hq, hd⟩ => ⟨hq, (h query hq).mpr hd⟩⟩
  | nor =>
    rw [Clause.accepts, anyCondition_eq_any, List.any_map, Bool.not_eq_true', List.any_eq_false]
    exact forall₂_congr fun query hq => not_congr (h query hq)

/-- Wrapped element tests whose plans find their meanings. -/
theorem accepts_wrapped (field : String) (operands : List Value) (doc : Value) (route : Route)
    (h : ∀ o ∈ operands, ∀ entries, o.unwrapped? = some entries → ∀ item,
      ((elementOf field entries).accepts item = true ↔ ElementHolds entries item)) :
    (testOf id .allElements (planElements field 0 operands)).accepts doc route = true ↔
      (∀ o ∈ operands, o.unwrapped?.isSome) ∧
        ArrayAt doc route fun items =>
          ∀ o ∈ operands, ∀ entries, o.unwrapped? = some entries →
            ∃ item ∈ items, ElementHolds entries item := by
  by_cases hall : ∀ o ∈ operands, o.unwrapped?.isSome = true
  · rw [planElements_of_wrapped field 0 operands hall, and_iff_right hall]
    refine search_array_iff doc route fun w => ?_
    rw [any_items?_iff]
    refine exists_congr fun items => and_congr_right fun _ => ?_
    rw [allElements_eq_all, List.all_map, List.all_filterMap, List.all_eq_true]
    refine forall₂_congr fun o ho => ?_
    cases hentries : o.unwrapped? with
    | none => simp
    | some entries => simp [h o ho entries hentries]
  · obtain ⟨fault, hfault⟩ := planElements_of_not_wrapped field 0 operands hall
    rw [hfault]
    simp only [testOf, Test.accepts, Bool.false_eq_true, false_iff]
    exact fun hboth => hall hboth.1

mutual

theorem allClauses_planClauses (entries : Entries) (doc : Value) :
    allClauses (planClauses entries) doc = true ↔ ConditionHolds entries doc := by
  rw [allClauses_eq_all, planClauses_eq_map, List.all_map, List.all_eq_true, ConditionHolds]
  exact forall₂_congr fun e _ => accepts_planClause e.1 e.2 doc
  termination_by (sizeOf entries, 0)
  decreasing_by exact .left _ _ (Entries.sizeOf_lt_of_mem ‹_›)

theorem allClauses_planQuery (query doc : Value) :
    allClauses (planQuery query) doc = true ↔ query.Describes doc := by
  cases query with
  | object entries =>
    rw [Value.Describes]
    exact allClauses_planClauses entries doc
  | _ => simp [planQuery, allClauses, Clause.accepts, Value.Describes]
  termination_by (sizeOf query, 0)

theorem accepts_planClause (key : String) (v doc : Value) :
    (planClause key v).accepts doc = true ↔ EntryHolds key v doc := by
  rw [EntryHolds.eq_def, planClause.eq_def]
  cases hc : Connective.ofWord? key with
  | none =>
    cases v with
    | object entries =>
      simp only
      by_cases h : isExpression entries = true
      · rw [if_pos h, if_pos h, Clause.accepts]
        exact allTests_planExpression key entries doc (.ofName key)
      · rw [if_neg h, if_neg h, Clause.accepts]
        exact fieldEquals_iff ..
    | _ => exact fieldEquals_iff ..
  | some c =>
    cases v with
    | array queries =>
      simp only
      by_cases h : ∀ query ∈ queries, ∃ entries, query = .object entries
      · rw [planConditions_of_objects c 0 queries h]
        have hall := accepts_connective c queries doc fun query _ => allClauses_planQuery query doc
        exact hall.trans (and_iff_right h).symm
      · obtain ⟨fault, hfault⟩ := planConditions_of_not_objects c 0 queries h
        rw [hfault]
        simp only [Clause.accepts, Bool.false_eq_true, false_iff]
        exact fun hboth => h hboth.1
    | _ => simp [Clause.accepts]
  termination_by (sizeOf v, 0)

theorem allTests_planExpression (field : String) (entries : Entries) (doc : Value) (route : Route) :
    allTests (planExpression field entries) doc route = true ↔
      ExpressionHolds entries doc route := by
  rw [planExpression, allTests_eq_all, planTests_eq_filterMap, List.all_filterMap,
    List.all_eq_true, ExpressionHolds]
  refine forall₂_congr fun e _ => ?_
  rw [← accepts_planTest? field]
  cases planTest? field (PatternContext.of entries) e.1 e.2 <;> simp
  termination_by (sizeOf entries, 0)
  decreasing_by exact .left _ _ (Entries.sizeOf_lt_of_mem ‹_›)

/-- A test that is passed over holds. -/
theorem accepts_planTest? (field : String) (siblings : Entries) (key : String) (v doc : Value)
    (route : Route) :
    (planTest? field (.of siblings) key v).all (fun test => test.accepts doc route) = true ↔
      OperatorHolds siblings key v doc route := by
  rw [OperatorHolds.eq_def, planTest?.eq_def]
  cases Operator.ofWord? key with
  | none => simp
  | some o =>
    cases o with
    | eq => exact fieldEquals_iff v doc route
    | ne => exact not_iff_of_iff (fieldEquals_iff v doc route)
    | gt | gte | lt | lte => exact Value.search_iff ..
    | among =>
      cases v with
      | array operands => simp [listTest, Test.accepts, fieldAmong_iff]
      | _ => simp [listTest, Test.accepts]
    | notAmong =>
      cases v with
      | array operands =>
        simp only [listTest, Option.all_some, Test.accepts, Value.array.injEq, exists_eq_left']
        exact not_iff_of_iff (fieldAmong_iff operands doc route)
      | _ => simp [listTest, Test.accepts]
    | not =>
      cases v with
      | regex p => exact not_iff_of_iff (fieldContains_iff p doc route)
      | object entries =>
        simp only
        by_cases h : isExpression entries = true
        · rw [if_pos h, and_iff_right h]
          exact not_iff_of_iff (allTests_planExpression field entries doc route)
        · rw [if_neg h]
          simp [Test.accepts, h]
      | _ => simp [Test.accepts]
    | exist =>
      have h : doc.search (fun _ => true) false .whole route = true ↔
          ∃ w, .reached w ∈ doc.landings .whole route :=
        (Value.search_iff ..).trans (by simp [Value.Meets])
      rw [← h, ← Bool.eq_iff_iff]
      exact beq_iff_eq
    | pattern =>
      exact accepts_testOf (fun p => patternOperand_eq_ok_iff field v _ p)
        fun p => fieldContains_iff p doc route
    | options =>
      by_cases h : (siblings.get? Operator.pattern.word).isSome = true
      · simp [PatternContext.of, h]
      · simp [PatternContext.of, h, Test.accepts]
    | modulo =>
      refine (accepts_testOf (fun pair : Int64 × Int64 => moduloOperand_eq_ok_iff v pair.1 pair.2)
        fun pair => fieldLeaves_iff pair.1 pair.2 doc route).trans ?_
      exact ⟨fun ⟨pair, h⟩ => ⟨pair.1, pair.2, h⟩, fun ⟨d, r, h⟩ => ⟨(d, r), h⟩⟩
    | size => exact accepts_testOf (sizeOperand_eq_ok_iff v) (fieldLength_iff · doc route)
    | all =>
      cases v with
      | array operands =>
        simp only
        by_cases h : hasElementTest operands = true
        · rw [if_pos h, if_pos h]
          exact accepts_wrapped field operands doc route
            fun o ho entries hentries item => accepts_elementOf field entries item
        · rw [if_neg h, if_neg h]
          exact fieldHoldsAll_iff operands doc route
      | _ => simp [Test.accepts]
    | element =>
      cases v with
      | object entries =>
        have h (w : Value) : (w.items?.any fun items =>
            items.any fun item => (elementOf field entries).accepts item) = true ↔
              ∃ items, w = .array items ∧ ∃ item ∈ items, ElementHolds entries item := by
          simp only [any_items?_iff, List.any_eq_true, accepts_elementOf field entries]
        simp only [some_element_elementOf, Option.all_some, Test.accepts]
        exact search_array_iff doc route h
      | _ => simp [Test.accepts]
  termination_by (sizeOf v, 0)
  decreasing_by
    · decreasing_tactic
    · have hlt := Value.sizeOf_lt_of_unwrapped? hentries
      have := Value.sizeOf_lt_of_mem ho
      exact .left _ _ (by omega)
    · decreasing_tactic

theorem accepts_elementOf (field : String) (entries : Entries) (item : Value) :
    (elementOf field entries).accepts item = true ↔ ElementHolds entries item := by
  rw [elementOf, ElementHolds]
  split
  · rw [ElementTest.accepts]
    exact allTests_planExpression field entries item []
  · rw [ElementTest.accepts]
    exact allClauses_planClauses entries item
  termination_by (sizeOf entries, 1)

end

/-- **A filter accepts what its query describes.** However conditions, expressions and
element tests are nested, and whatever is malformed in them, the plan and the query have
one meaning. -/
theorem Filter.accepts_iff_describes (query doc : Value) :
    (Filter.ofQuery query).accepts doc = true ↔ query.Describes doc :=
  allClauses_planQuery query doc

end DocumentFilter
