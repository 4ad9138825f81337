import DocumentFilter.Proofs.Document.Reaches
import Mathlib.Data.List.Forall2

/-! Documents with more items in their arrays.

A document grows when items are put into its arrays, at any depth, and all else stays: scalars, the
keys of objects and their order, the order of the items that were there. Along a route without
indices the grown document is reached wherever the document was, in the grown value
(`exists_grown_landing`): arrays on the way are only tried with more items, and what is missing from
an object is missing from the grown one. An index would be another matter, for it may come to stand
for a new item. -/
namespace DocumentFilter

namespace Value

def isScalar : Value → Bool
  | array _ | object _ => false
  | _ => true

mutual

/-- The second value is the first with items put into its arrays. -/
inductive Grown : Value → Value → Prop
  | scalar {v : Value} (h : v.isScalar = true) : Grown v v
  | object {entries entries' : Entries} (members : List.Forall₂ GrownEntry entries entries') :
      Grown (object entries) (object entries')
  /-- The items of the first array have grown into some of those of the second, in order. -/
  | array {items items' : List Value} (members : List.SublistForall₂ Grown items items') :
      Grown (array items) (array items')

inductive GrownEntry : String × Value → String × Value → Prop
  | value {key : String} {v v' : Value} (h : Grown v v') : GrownEntry (key, v) (key, v')

end

theorem Grown.eq_of_isScalar {v v' : Value} (h : v.Grown v') (hv : v.isScalar = true) : v' = v := by
  cases h with
  | scalar => rfl
  | object | array => cases hv

/-! ### Members -/

/-- A key that an object has, the grown object has, and one that it lacks is lacking there too. -/
theorem get?_of_grown {entries entries' : Entries} (h : List.Forall₂ GrownEntry entries entries')
    (key : String) : Option.Rel Grown (entries.get? key) (entries'.get? key) := by
  induction h with
  | nil => exact .none
  | cons first _ ih =>
    obtain @⟨k, v, v', hv⟩ := first
    simp only [Entries.get?_cons]
    split
    · exact .some hv
    · exact ih

end Value

/-! ### Landings -/

/-- What was reached has grown, and what was missing still is. -/
inductive Landing.Grown : Landing → Landing → Prop
  | reached {v v' : Value} (h : v.Grown v') : Landing.Grown (.reached v) (.reached v')
  | missing : Landing.Grown .missing .missing

namespace Value

/-- An array loses no landing if its items lose none. -/
theorem exists_grown_landing_of_items {items items' : List Value}
    (members : List.SublistForall₂ Grown items items') {reach : Reach} {route : Route}
    (h : ∀ item ∈ items, ∀ {item' : Value}, item.Grown item' →
      ∀ l ∈ item.landings reach route, ∃ l' ∈ item'.landings reach route, l.Grown l') :
    ∀ l ∈ items.flatMap fun item => item.landings reach route,
      ∃ l' ∈ items'.flatMap fun item => item.landings reach route, l.Grown l' := by
  intro l hl
  obtain ⟨item, hitem, hl⟩ := List.mem_flatMap.mp hl
  obtain ⟨item', hitem', hgrown⟩ := exists_of_sublistForall₂ members hitem
  obtain ⟨l', hl', hll'⟩ := h item hitem hgrown l hl
  exact ⟨l', List.mem_flatMap.mpr ⟨item', hitem', hl'⟩, hll'⟩

/-- **Growth loses no landing** of a route without indices. -/
theorem exists_grown_landing {doc doc' : Value} (h : doc.Grown doc') {route : Route}
    (hroute : ∀ step ∈ route, step.index = none) (reach : Reach) :
    ∀ l ∈ doc.landings reach route, ∃ l' ∈ doc'.landings reach route, l.Grown l' := by
  fun_induction landings reach doc route generalizing doc' with
  | case1 items ih =>
    intro l hl
    cases h with
    | scalar h => cases h
    | @array _ items' members =>
      cases List.mem_cons.mp hl with
      | inl hself => exact ⟨_, self_mem_landings _, hself ▸ .reached (.array members)⟩
      | inr hinside =>
        cases reach with
        | whole => cases hinside
        | items =>
          have hitems := exists_grown_landing_of_items members fun item hitem _ hgrown =>
            ih item hitem hgrown hroute
          obtain ⟨l', hl', hll'⟩ := hitems l hinside
          rw [landings_array_nil]
          exact ⟨l', List.mem_cons_of_mem _ hl', hll'⟩
  | case2 v hv =>
    intro l hl
    rw [List.mem_singleton.mp hl]
    exact ⟨_, self_mem_landings _, .reached h⟩
  | case3 entries step rest child hchild ih =>
    cases h with
    | scalar h => cases h
    | @object _ entries' members =>
      have hget := get?_of_grown members step.key
      rw [landings_object_cons]
      rw [hchild] at hget
      generalize entries'.get? step.key = found at hget ⊢
      cases hget with
      | some hgrown => exact ih hgrown (List.forall_mem_cons.mp hroute).2
  | case4 entries step rest hnone =>
    cases h with
    | scalar h => cases h
    | @object _ entries' members =>
      have hget := get?_of_grown members step.key
      rw [landings_object_cons]
      rw [hnone] at hget
      generalize entries'.get? step.key = found at hget ⊢
      cases hget with
      | none => exact List.forall_mem_singleton.mpr ⟨_, List.mem_singleton_self _, .missing⟩
  | case5 items step rest item hitem ih =>
    rw [hroute step (List.mem_cons_self ..)] at hitem
    cases hitem
  | case6 items step rest hnone ih =>
    cases h with
    | scalar h => cases h
    | array members =>
      rw [landings_array_cons, hroute step (List.mem_cons_self ..)]
      exact exists_grown_landing_of_items members fun item hitem _ hgrown =>
        ih item hitem hgrown hroute
  | case7 v step rest hobject harray =>
    cases h with
    | scalar h =>
      rw [landings_leaf_cons hobject harray]
      exact List.forall_mem_singleton.mpr ⟨_, List.mem_singleton_self _, .missing⟩
    | object => exact absurd rfl (hobject _)
    | array => exact absurd rfl (harray _)

/-- What a document meets, the grown document meets, if growth does not undo the test. -/
theorem Meets.of_grown {doc doc' : Value} (h : doc.Grown doc') {route : Route}
    (hroute : ∀ step ∈ route, step.index = none) {reach : Reach} {test : Value → Prop}
    {missing : Prop} (htest : ∀ v v', v.Grown v' → test v → test v')
    (hmeets : doc.Meets reach route test missing) : doc'.Meets reach route test missing := by
  have hlandings := exists_grown_landing h hroute reach
  cases hmeets with
  | inl hreached =>
    obtain ⟨v, hv, hpass⟩ := hreached
    obtain ⟨l', hl', hgrown⟩ := hlandings _ hv
    cases hgrown with
    | reached hgrown => exact .inl ⟨_, hl', htest v _ hgrown hpass⟩
  | inr hmissing =>
    obtain ⟨l', hl', hgrown⟩ := hlandings _ hmissing.2
    cases hgrown with
    | missing => exact .inr ⟨hmissing.1, hl'⟩

end Value

end DocumentFilter
