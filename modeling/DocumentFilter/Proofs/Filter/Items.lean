import DocumentFilter.Proofs.Filter.Searching

/-! Tests on the items of an array.

An element test asks for one item that passes it alone, a list test for an array that has
something for each member of the list. Weaker questions follow from both. The operators of an
element test that search would find their item on the field as well; each member of a list is
found where the whole list was. The way back is open only where the route does not fork, for the
members may be found in different arrays. -/
namespace DocumentFilter

/-! ### One item -/

/-- What an operator finds in an item, it finds in the field. -/
theorem operatorHolds_of_item {o : Operator} {key : String} (hkey : Operator.ofWord? key = some o)
    (ho : o.searches = true ∨ o = .options) {siblings : Entries} {operand doc : Value}
    {route : Route} {items : List Value} {item : Value}
    (hitems : .reached (.array items) ∈ doc.landings .whole route) (hitem : item ∈ items)
    (h : OperatorHolds siblings key operand item []) :
    OperatorHolds siblings key operand doc route := by
  cases ho with
  | inl ho =>
    rw [operatorHolds_search_iff hkey ho] at h ⊢
    exact h.of_item hitems hitem
  | inr ho =>
    subst ho
    rw [operatorHolds_options_iff hkey] at h ⊢
    exact h

section
variable {field : String} (hfield : Connective.ofWord? field = none)
include hfield

theorem selects_element_iff (entries : Entries) (doc : Value) :
    (fieldQuery field (operatorObject .element (.object entries))).Selects doc ↔
      ArrayAt doc (.ofName field) fun items => ∃ item ∈ items, ElementHolds entries item := by
  rw [selects_fieldQuery_operator hfield, OperatorHolds.eq_def, Operator.ofWord?_word]

/-- **An element test implies the test of the field**, if the operators of its expression search:
the item that passes the test is offered by the field. -/
theorem Filter.selects_of_element {expression : Entries}
    (hexpression : isExpression expression = true)
    (hsearch : ∀ e ∈ expression, ∃ o, Operator.ofWord? e.1 = some o ∧
      (o.searches = true ∨ o = .options)) (doc : Value)
    (h : (fieldQuery field (operatorObject .element (.object expression))).Selects doc) :
    (fieldQuery field (.object expression)).Selects doc := by
  rw [selects_element_iff hfield, arrayAt_iff] at h
  obtain ⟨items, hitems, item, hitem, hholds⟩ := h
  rw [ElementHolds, if_pos hexpression, ExpressionHolds] at hholds
  rw [selects_fieldQuery_expression hfield hexpression, ExpressionHolds]
  intro e he
  obtain ⟨o, hkey, ho⟩ := hsearch e he
  exact operatorHolds_of_item hkey ho hitems hitem (hholds e he)

end

/-- An item that is an array meets both bounds with different items of its own. Two items that meet
one bound each are enough for the field and not for the element test. -/
theorem Filter.selects_of_element_of_range :
    let nested : Value := .object [("a", .array [.array [.integer 0, .integer 9]])]
    let flat : Value := .object [("a", .array [.integer 0, .integer 9])]
    let range : Entries := [("$gt", .integer 2), ("$lt", .integer 5)]
    Connective.ofWord? "a" = none ∧ isExpression range = true ∧
      (∀ e ∈ range, ∃ o, Operator.ofWord? e.1 = some o ∧ (o.searches = true ∨ o = .options)) ∧
      (fieldQuery "a" (operatorObject .element (.object range))).Selects nested ∧
      (fieldQuery "a" (.object range)).Selects nested ∧
      ¬ (fieldQuery "a" (operatorObject .element (.object range))).Selects flat ∧
      (fieldQuery "a" (.object range)).Selects flat := by
  intro nested flat range
  have hfield : Connective.ofWord? "a" = none := rfl
  have hsearch : ∀ e ∈ range, ∃ o, Operator.ofWord? e.1 = some o ∧
      (o.searches = true ∨ o = .options) :=
    List.forall_mem_cons.mpr
      ⟨⟨.gt, rfl, .inl rfl⟩, List.forall_mem_singleton.mpr ⟨.lt, rfl, .inl rfl⟩⟩
  have helement : (fieldQuery "a" (operatorObject .element (.object range))).Selects nested := by
    decide
  exact ⟨hfield, rfl, hsearch, helement, selects_of_element hfield rfl hsearch nested helement,
    by decide, by decide⟩

/-! ### A list of items -/

/-- A list of element tests, each in an object of its own. -/
def elementTests (tests : List Entries) : Value :=
  .array (tests.map fun entries => operatorObject .element (.object entries))

theorem unwrapped?_operatorObject (entries : Entries) :
    (operatorObject .element (.object entries)).unwrapped? = some entries := by
  simp [operatorObject, Value.unwrapped?, elementWord]

theorem hasElementTest_elementTests {tests : List Entries} (hne : tests ≠ []) :
    hasElementTest (tests.map fun entries => operatorObject .element (.object entries)) = true := by
  obtain ⟨entries, hentries⟩ := List.exists_mem_of_ne_nil tests hne
  rw [hasElementTest, List.any_map, List.any_eq_true]
  refine ⟨entries, hentries, ?_⟩
  simp [operatorObject, elementWord, Entries.get?_cons]

section
variable {field : String} (hfield : Connective.ofWord? field = none)
include hfield

theorem selects_values_iff {operands : List Value} (hnone : hasElementTest operands = false)
    (doc : Value) :
    (fieldQuery field (operatorObject .all (.array operands))).Selects doc ↔
      operands ≠ [] ∧ ArrayAt doc (.ofName field) fun items =>
        ∀ o ∈ operands, (∃ item ∈ items, item.matchesOperand o = true) ∨
          (Value.array items).matchesOperand o = true := by
  rw [selects_fieldQuery_operator hfield, OperatorHolds.eq_def, Operator.ofWord?_word]
  simp only [hnone, Bool.false_eq_true, if_false]

theorem selects_elementTests_iff {tests : List Entries} (hne : tests ≠ []) (doc : Value) :
    (fieldQuery field (operatorObject .all (elementTests tests))).Selects doc ↔
      ArrayAt doc (.ofName field) fun items =>
        ∀ entries ∈ tests, ∃ item ∈ items, ElementHolds entries item := by
  rw [selects_fieldQuery_operator hfield, OperatorHolds.eq_def, Operator.ofWord?_word]
  simp [elementTests, hasElementTest_elementTests hne, unwrapped?_operatorObject]

/-- **A list against its members.** A field that has all values of a list equals each of them, and
one that passes a list of element tests passes each of them. The converse holds of element tests
where the route does not fork, and of a single one in any case. -/
theorem Filter.selects_all_parts (doc : Value) :
    (∀ operands : List Value, hasElementTest operands = false →
      (fieldQuery field (operatorObject .all (.array operands))).Selects doc →
        ∀ v ∈ operands, (fieldQuery field (operatorObject .eq v)).Selects doc) ∧
    (∀ tests : List Entries, tests ≠ [] →
      ((fieldQuery field (operatorObject .all (elementTests tests))).Selects doc →
        ∀ e ∈ tests, (fieldQuery field (operatorObject .element (.object e))).Selects doc) ∧
      (doc.Unforked (.ofName field) →
        (∀ e ∈ tests, (fieldQuery field (operatorObject .element (.object e))).Selects doc) →
          (fieldQuery field (operatorObject .all (elementTests tests))).Selects doc)) ∧
    ∀ e : Entries,
      (fieldQuery field (operatorObject .all (elementTests [e]))).Selects doc ↔
        (fieldQuery field (operatorObject .element (.object e))).Selects doc := by
  refine ⟨fun operands hnone h v hv => ?values,
    fun tests hne => ⟨fun h => ?each, fun hroute h => ?all⟩, fun e => ?single⟩
  case values =>
    rw [selects_values_iff hfield hnone, arrayAt_iff] at h
    obtain ⟨-, items, hitems, hall⟩ := h
    rw [selects_eq_iff hfield]
    cases hall v hv with
    | inl hitem =>
      obtain ⟨item, hitem, hmatch⟩ := hitem
      have hlanding := Value.landings_subset_of_item hitems hitem item.self_mem_landings
      exact .inl ⟨item, hlanding, hmatch⟩
    | inr hmatch =>
      have hlanding := Value.landings_subset_of_reached hitems (Value.array items).self_mem_landings
      exact .inl ⟨.array items, hlanding, hmatch⟩
  case each =>
    rw [selects_elementTests_iff hfield hne] at h
    simp only [selects_element_iff hfield]
    exact arrayAt_of_forall h
  case all =>
    simp only [selects_element_iff hfield] at h
    rw [selects_elementTests_iff hfield hne]
    exact arrayAt_forall_of_unforked hne hroute h
  case single =>
    rw [selects_elementTests_iff hfield (List.cons_ne_nil e []), selects_element_iff hfield]
    simp only [List.forall_mem_singleton]

end

/-- Two element tests that different items of one array pass, by a route with an index. Without the
index the route forks, and the tests are passed in different arrays. -/
theorem Filter.selects_all_parts_of_fork :
    let doc : Value := .object [("a", .array [.object [("b", .array [.integer 1, .integer 5])],
      .object [("b", .array [.integer 9])]])]
    let low : Entries := [("$lt", .integer 2)]
    let high : Entries := [("$gt", .integer 4)]
    let higher : Entries := [("$gt", .integer 8)]
    Connective.ofWord? "a.0.b" = none ∧ doc.Unforked (.ofName "a.0.b") ∧
      (fieldQuery "a.0.b" (operatorObject .all (elementTests [low, high]))).Selects doc ∧
      (fieldQuery "a.0.b" (operatorObject .element (.object high))).Selects doc ∧
      (fieldQuery "a.0.b" (operatorObject .eq (.integer 5))).Selects doc ∧
      (∀ e ∈ [low, higher], (fieldQuery "a.b" (operatorObject .element (.object e))).Selects doc) ∧
      ¬ (fieldQuery "a.b" (operatorObject .all (elementTests [low, higher]))).Selects doc := by
  intro doc low high higher
  have hfield : Connective.ofWord? "a.0.b" = none := rfl
  have hroute : doc.Unforked (.ofName "a.0.b") := by
    intro child hchild
    cases hchild
    refine ⟨_, rfl, fun child hchild => trivial⟩
  obtain ⟨hvalues, htests, -⟩ := selects_all_parts hfield doc
  obtain ⟨heach, hall⟩ := htests [low, high] (List.cons_ne_nil _ _)
  have hboth := hall hroute (by decide)
  exact ⟨hfield, hroute, hboth,
    heach hboth high (List.mem_cons_of_mem _ (List.mem_singleton_self _)),
    hvalues [.integer 1, .integer 5] rfl (by decide) _
      (List.mem_cons_of_mem _ (List.mem_singleton_self _)), by decide, by decide⟩

end DocumentFilter
