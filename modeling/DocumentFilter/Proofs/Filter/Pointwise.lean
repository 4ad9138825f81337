import DocumentFilter.Filter.Checking
import DocumentFilter.Filter.Matching
import DocumentFilter.Proofs.Filter.Operands

/-! Plans, member by member.

Planning, matching and checking go through the lists of a query and of its plan one
member at a time. Here each of those passes is the list operation that it amounts to:
planning a condition is a map, matching it is `all`, checking it is the first fault of
any member. The two passes that can stop early succeed exactly when every member has the
right shape, and then they are maps as well (`planConditions_of_objects`,
`planElements_of_wrapped`). -/
namespace DocumentFilter

/-! ### Planning -/

theorem planClauses_eq_map (entries : Entries) :
    planClauses entries = entries.map fun e => planClause e.1 e.2 := by
  induction entries with
  | nil => rfl
  | cons e rest ih => rw [planClauses, ih, List.map_cons]

theorem planTests_eq_filterMap (field : String) (context : PatternContext) (entries : Entries) :
    planTests field context entries =
      entries.filterMap fun e => planTest? field context e.1 e.2 := by
  induction entries with
  | nil => rfl
  | cons e rest ih =>
    rw [planTests, ih, List.filterMap_cons]
    cases planTest? field context e.1 e.2 <;> rfl

theorem planConditions_of_objects (c : Connective) (index : Nat) (items : List Value)
    (h : ∀ v ∈ items, ∃ entries, v = .object entries) :
    planConditions c index items = .ok (items.map planQuery) := by
  induction items generalizing index with
  | nil => rfl
  | cons v rest ih =>
    obtain ⟨entries, rfl⟩ := h v (List.mem_cons_self ..)
    rw [planConditions, ih (index + 1) fun w hw => h w (List.mem_cons_of_mem _ hw)]
    rfl

/-- One item that is no object is enough for a fault. -/
theorem planConditions_of_not_objects (c : Connective) (index : Nat) (items : List Value)
    (h : ¬ ∀ v ∈ items, ∃ entries, v = .object entries) :
    ∃ fault, planConditions c index items = .error fault := by
  induction items generalizing index with
  | nil => exact absurd (fun _ hv => nomatch hv) h
  | cons v rest ih =>
    cases v with
    | object entries =>
      have hrest : ¬ ∀ w ∈ rest, ∃ entries, w = .object entries :=
        fun hall => h (List.forall_mem_cons.mpr ⟨⟨entries, rfl⟩, hall⟩)
      obtain ⟨fault, hfault⟩ := ih (index + 1) hrest
      rw [planConditions, hfault]
      exact ⟨fault, rfl⟩
    | _ => exact ⟨_, rfl⟩

/-- The plan of an element test: an expression on the item, or a query of its own. -/
def elementOf (field : String) (entries : Entries) : ElementTest :=
  if isExpression entries then .expression (planExpression field entries)
  else .condition (planClauses entries)

theorem planElement_object (field : String) (entries : Entries) :
    planElement field (.object entries) = .ok (elementOf field entries) := by
  rw [planElement, elementOf, planExpression]
  split <;> rfl

theorem some_element_elementOf (field : String) (entries : Entries) :
    (if isExpression entries then
        some (Test.element (.expression (planTests field (.of entries) entries)))
      else some (Test.element (.condition (planClauses entries)))) =
      some (Test.element (elementOf field entries)) := by
  rw [elementOf, planExpression]
  split <;> rfl

theorem planWrapped_eq_ok (field : String) (index : Nat) (entries : Entries) :
    planWrapped field index [(elementWord, .object entries)] = .ok (elementOf field entries) := by
  rw [planWrapped, if_pos rfl, planElement_object]

theorem planWrapped_eq_error (field : String) (index : Nat) {entries : Entries}
    (h : Value.unwrapped? (.object entries) = none) :
    ∃ fault, planWrapped field index entries = .error fault := by
  unfold planWrapped
  split
  · next key v =>
    split
    · next hkey =>
      -- The word is right, so it is the operand that is no object.
      cases v with
      | object inner =>
        rw [Value.unwrapped?_eq_some_iff.mpr (by rw [hkey])] at h
        cases h
      | _ => exact ⟨_, rfl⟩
    · exact ⟨_, rfl⟩
  · exact ⟨_, rfl⟩

theorem planElements_of_wrapped (field : String) (index : Nat) (items : List Value)
    (h : ∀ v ∈ items, v.unwrapped?.isSome) :
    planElements field index items =
      .ok ((items.filterMap Value.unwrapped?).map (elementOf field)) := by
  induction items generalizing index with
  | nil => rfl
  | cons v rest ih =>
    obtain ⟨entries, hv⟩ := Option.isSome_iff_exists.mp (h v (List.mem_cons_self ..))
    rw [List.filterMap_cons_some hv, Value.unwrapped?_eq_some_iff.mp hv, planElements,
      planWrapped_eq_ok, ih (index + 1) fun w hw => h w (List.mem_cons_of_mem _ hw)]
    rfl

/-- One item that is no wrapper of an object is enough for a fault. -/
theorem planElements_of_not_wrapped (field : String) (index : Nat) (items : List Value)
    (h : ¬ ∀ v ∈ items, v.unwrapped?.isSome = true) :
    ∃ fault, planElements field index items = .error fault := by
  induction items generalizing index with
  | nil => exact absurd (fun _ hv => nomatch hv) h
  | cons v rest ih =>
    cases v with
    | object entries =>
      rw [planElements]
      by_cases hv : (Value.unwrapped? (.object entries)).isSome = true
      · have hrest : ¬ ∀ w ∈ rest, w.unwrapped?.isSome = true :=
          fun hall => h (List.forall_mem_cons.mpr ⟨hv, hall⟩)
        obtain ⟨fault, hfault⟩ := ih (index + 1) hrest
        rw [hfault]
        cases planWrapped field index entries <;> exact ⟨_, rfl⟩
      · obtain ⟨fault, hfault⟩ := planWrapped_eq_error field index (by simpa using hv)
        rw [hfault]
        exact ⟨fault, rfl⟩
    | _ => exact ⟨_, rfl⟩

/-! ### Matching -/

theorem allClauses_eq_all (clauses : List Clause) (doc : Value) :
    allClauses clauses doc = clauses.all fun clause => clause.accepts doc := by
  induction clauses with
  | nil => rfl
  | cons clause rest ih => rw [allClauses, ih, List.all_cons]

theorem allConditions_eq_all (conditions : List Condition) (doc : Value) :
    allConditions conditions doc = conditions.all fun condition => allClauses condition doc := by
  induction conditions with
  | nil => rfl
  | cons condition rest ih => rw [allConditions, ih, List.all_cons]

theorem anyCondition_eq_any (conditions : List Condition) (doc : Value) :
    anyCondition conditions doc = conditions.any fun condition => allClauses condition doc := by
  induction conditions with
  | nil => rfl
  | cons condition rest ih => rw [anyCondition, ih, List.any_cons]

theorem allTests_eq_all (tests : List Test) (doc : Value) (route : Route) :
    allTests tests doc route = tests.all fun test => test.accepts doc route := by
  induction tests with
  | nil => rfl
  | cons test rest ih => rw [allTests, ih, List.all_cons]

theorem allElements_eq_all (elements : List ElementTest) (items : List Value) :
    allElements elements items = elements.all fun e => items.any fun item => e.accepts item := by
  induction elements with
  | nil => rfl
  | cons e rest ih => rw [allElements, ih, List.all_cons]

/-! ### Checking -/

theorem clausesFault?_eq_findSome? (clauses : List Clause) :
    clausesFault? clauses = clauses.findSome? Clause.fault? := by
  induction clauses with
  | nil => rfl
  | cons clause rest ih =>
    rw [clausesFault?, ih, List.findSome?_cons]
    cases clause.fault? <;> rfl

theorem conditionsFault?_eq_findSome? (conditions : List Condition) :
    conditionsFault? conditions = conditions.findSome? clausesFault? := by
  induction conditions with
  | nil => rfl
  | cons condition rest ih =>
    rw [conditionsFault?, ih, List.findSome?_cons]
    cases clausesFault? condition <;> rfl

theorem testsFault?_eq_findSome? (tests : List Test) :
    testsFault? tests = tests.findSome? Test.fault? := by
  induction tests with
  | nil => rfl
  | cons test rest ih =>
    rw [testsFault?, ih, List.findSome?_cons]
    cases test.fault? <;> rfl

theorem elementsFault?_eq_findSome? (elements : List ElementTest) :
    elementsFault? elements = elements.findSome? ElementTest.fault? := by
  induction elements with
  | nil => rfl
  | cons e rest ih =>
    rw [elementsFault?, ih, List.findSome?_cons]
    cases e.fault? <;> rfl

end DocumentFilter
