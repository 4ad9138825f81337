import DocumentFilter.Proofs.Document.Landings
import DocumentFilter.Proofs.Document.Parts

/-! The two reaches of a search, side by side.

A search that asks the items of arrays and one that does not follow a route to the same places.
They differ at its end alone, where the first goes on from each value into its items
(`landings_items_eq_flatMap`). So a field that is nowhere to one is nowhere to the other, and
whatever an item of an array offers, the field with the array offers.

A route forks at every array that it does not enter by an index. One that does not fork ends in
one place, and one that meets no empty array ends somewhere. -/
namespace DocumentFilter

/-- Where a search that asks items as well gets to from the end of a route. -/
def Landing.spread : Landing → List Landing
  | reached v => v.landings .items []
  | missing => [missing]

namespace Value

/-! ### From whole values to items -/

/-- **The reaches differ at the end of a route alone**: a search that asks items goes on from where
the other one stops. -/
theorem landings_items_eq_flatMap (v : Value) (route : Route) :
    v.landings .items route = (v.landings .whole route).flatMap Landing.spread := by
  fun_induction landings .whole v route with
  | case1 items => simp [Landing.spread]
  | case2 v hv => simp [Landing.spread]
  | case3 entries step rest child hchild ih =>
    rw [landings_object_cons, hchild]
    exact ih
  | case4 entries step rest hnone =>
    rw [landings_object_cons, hnone]
    rfl
  | case5 items step rest item hitem ih =>
    rw [landings_array_cons, hitem]
    exact ih
  | case6 items step rest hnone ih =>
    rw [landings_array_cons, hnone, List.flatMap_assoc, List.flatMap_def, List.flatMap_def]
    exact congrArg List.flatten (List.map_congr_left ih)
  | case7 v step rest hobject harray =>
    rw [landings_leaf_cons hobject harray]
    rfl

variable {doc : Value} {route : Route}

theorem missing_mem_landings_items (h : .missing ∈ doc.landings .whole route) :
    .missing ∈ doc.landings .items route := by
  rw [landings_items_eq_flatMap]
  exact List.mem_flatMap.mpr ⟨.missing, h, List.mem_singleton_self _⟩

/-- What lies inside a value at the end of a route is reached with the value. -/
theorem landings_subset_of_reached {v : Value} (h : .reached v ∈ doc.landings .whole route) :
    v.landings .items [] ⊆ doc.landings .items route := by
  intro l hl
  rw [landings_items_eq_flatMap]
  exact List.mem_flatMap.mpr ⟨.reached v, h, hl⟩

theorem landings_subset_of_item {items : List Value} {item : Value}
    (h : .reached (array items) ∈ doc.landings .whole route) (hitem : item ∈ items) :
    item.landings .items [] ⊆ doc.landings .items route := by
  intro l hl
  apply landings_subset_of_reached h
  rw [landings_array_nil]
  exact List.mem_cons_of_mem _ (List.mem_flatMap.mpr ⟨item, hitem, hl⟩)

/-- An item is reached only from a value that is there. -/
theorem exists_reached_of_reached_item {v : Value} (h : .reached v ∈ doc.landings .items route) :
    ∃ w, .reached w ∈ doc.landings .whole route := by
  rw [landings_items_eq_flatMap] at h
  obtain ⟨l, hl, hv⟩ := List.mem_flatMap.mp h
  cases l with
  | reached w => exact ⟨w, hl⟩
  | missing => cases List.mem_singleton.mp hv

/-- What an item of an array at the end of a route meets, the route meets. -/
theorem Meets.of_item {items : List Value} {item : Value} {test : Value → Prop} {missing : Prop}
    (hitems : .reached (array items) ∈ doc.landings .whole route) (hitem : item ∈ items)
    (h : item.Meets .items [] test missing) : doc.Meets .items route test missing := by
  have hsubset := landings_subset_of_item hitems hitem
  cases h with
  | inl h =>
    obtain ⟨v, hv, htest⟩ := h
    exact .inl ⟨v, hsubset hv, htest⟩
  | inr h => exact .inr ⟨h.1, hsubset h.2⟩

/-! ### Routes that do not fork -/

/-- The route goes one way: it enters each array on it by an index that is in bounds. -/
def Unforked (doc : Value) (route : Route) : Prop :=
  match route, doc with
  | [], _ => True
  | step :: rest, object entries =>
    ∀ child, Entries.get? entries step.key = some child → child.Unforked rest
  | step :: rest, array items =>
    ∃ item, step.index.bind (items[·]?) = some item ∧ item.Unforked rest
  | _ :: _, _ => True
  termination_by structural route

/-- **A route that does not fork ends in one place.** -/
theorem exists_landings_eq_singleton (h : doc.Unforked route) :
    ∃ l, doc.landings .whole route = [l] := by
  fun_induction landings .whole doc route with
  | case1 items => exact ⟨_, rfl⟩
  | case2 v hv => exact ⟨_, rfl⟩
  | case3 entries step rest child hchild ih => exact ih (h child hchild)
  | case4 entries step rest hnone => exact ⟨_, rfl⟩
  | case5 items step rest item hitem ih =>
    obtain ⟨item', hitem', hrest⟩ := h
    cases hitem.symm.trans hitem'
    exact ih hrest
  | case6 items step rest hnone ih =>
    obtain ⟨item, hitem, -⟩ := h
    cases hnone.symm.trans hitem
  | case7 v step rest hobject harray => exact ⟨_, rfl⟩

/-! ### Routes that end somewhere -/

/-- No array in the value is empty. -/
abbrev HoldsNoEmptyArray : Value → Prop := Everywhere fun w => ∀ items ∈ w.items?, items ≠ []

/-- **Only an empty array ends a route in nothing at all**, neither in a value nor in one that is
missing. -/
theorem landings_ne_nil (h : doc.HoldsNoEmptyArray) (route : Route) :
    doc.landings .whole route ≠ [] := by
  fun_induction landings .whole doc route with
  | case1 items => simp
  | case2 v hv => simp
  | case3 entries step rest child hchild ih => exact ih (h.entry _ (Entries.mem_of_get? hchild))
  | case4 entries step rest hnone => simp
  | case5 items step rest item hitem ih =>
    obtain ⟨i, _, hi⟩ := Option.bind_eq_some_iff.mp hitem
    exact ih (h.item item (List.mem_of_getElem? hi))
  | case6 items step rest hnone ih =>
    obtain ⟨item, hitem⟩ := List.exists_mem_of_ne_nil items (h.self items rfl)
    intro hnil
    exact ih item hitem (h.item item hitem) (List.flatMap_eq_nil_iff.mp hnil item hitem)
  | case7 v step rest hobject harray => simp

end Value

end DocumentFilter
