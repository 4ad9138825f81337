import DocumentFilter.Document.Search
import DocumentFilter.Proofs.Document.Members

/-! Landings: the ends of a route in a document.

A route may fork at every array on its way, so it ends in a list of landings: values it
has reached, and places where its next value is missing. `landings` lists them without
any test in mind. A search puts its test to them in this order and stops at the first
success, whatever effects the test has (`searchM_eq_tryLandings`); so its outcome and the
values it looks at are read off the list. -/
namespace DocumentFilter

/-- One end of a route. -/
inductive Landing where
  | reached (v : Value)
  | missing

namespace Landing

def value? : Landing → Option Value
  | reached v => some v
  | missing => none

/-- Does a search succeed here? -/
def succeeds (test : Value → Bool) (missing : Bool) : Landing → Bool
  | reached v => test v
  | .missing => missing

@[simp] theorem value?_reached (v : Value) : (reached v).value? = some v := rfl

@[simp] theorem value?_missing : missing.value? = none := rfl

@[simp] theorem succeeds_reached (test : Value → Bool) (m : Bool) (v : Value) :
    (reached v).succeeds test m = test v := rfl

@[simp] theorem succeeds_missing (test : Value → Bool) (m : Bool) :
    missing.succeeds test m = m := rfl

/-- The landings that a search gets to: those up to its first success, or all of them. -/
def visited (test : Value → Bool) (missing : Bool) (ls : List Landing) : List Landing :=
  ls.take (ls.findIdx (·.succeeds test missing) + 1)

theorem visited_cons (test : Value → Bool) (missing : Bool) (l : Landing) (ls : List Landing) :
    visited test missing (l :: ls) =
      l :: if l.succeeds test missing then [] else visited test missing ls := by
  unfold visited
  rw [List.findIdx_cons]
  cases l.succeeds test missing <;> simp

end Landing

namespace Value

/-! ### Where a route leads -/

/-- The landings of a route, in the order of the document. -/
def landings (reach : Reach) (v : Value) (route : Route) : List Landing :=
  match v, route with
  | array items, [] =>
    .reached (array items) ::
      match reach with
      | .items => items.flatMap fun item => landings reach item []
      | .whole => []
  | v, [] => [.reached v]
  | object entries, step :: rest =>
    match _h : Entries.get? entries step.key with
    | some child => landings reach child rest
    | none => [.missing]
  | array items, step :: rest =>
    match _h : step.index.bind (items[·]?) with
    | some item => landings reach item rest
    | none => items.flatMap fun item => landings reach item (step :: rest)
  | _, _ :: _ => [.missing]
  termination_by sizeOf v
  decreasing_by
    · exact sizeOf_lt_of_mem ‹_›
    · exact sizeOf_lt_of_get? ‹_›
    · obtain ⟨i, _, hi⟩ := Option.bind_eq_some_iff.mp ‹_›
      exact sizeOf_lt_of_mem (List.mem_of_getElem? hi)
    · exact sizeOf_lt_of_mem ‹_›

theorem landings_object_cons (reach : Reach) (entries : Entries) (step : Step)
    (rest : Route) :
    (object entries).landings reach (step :: rest) =
      match entries.get? step.key with
      | some child => child.landings reach rest
      | none => [.missing] := by
  rw [landings]
  split
  · next child hchild => rw [hchild]
  · next hnone => rw [hnone]

theorem landings_array_cons (reach : Reach) (items : List Value) (step : Step) (rest : Route) :
    (array items).landings reach (step :: rest) =
      match step.index.bind (items[·]?) with
      | some item => item.landings reach rest
      | none => items.flatMap fun item => item.landings reach (step :: rest) := by
  rw [landings]
  split
  · next item hitem => rw [hitem]
  · next hnone => rw [hnone]

/-- A route goes on in objects and in arrays alone. -/
theorem landings_leaf_cons {v : Value} (hobject : ∀ entries, v ≠ object entries)
    (harray : ∀ items, v ≠ array items) (reach : Reach) (step : Step) (rest : Route) :
    v.landings reach (step :: rest) = [.missing] := by
  rw [landings]
  · exact hobject
  · exact harray

theorem landings_array_nil (items : List Value) :
    (array items).landings .items [] =
      .reached (array items) :: items.flatMap fun item => item.landings .items [] := by
  rw [landings]

/-- What is no array offers nothing but itself at the end of a route. -/
theorem landings_nil {v : Value} (hv : v.items? = none) (reach : Reach) :
    v.landings reach [] = [.reached v] := by
  rw [landings]
  intro items hitems
  rw [hitems] at hv
  cases hv

/-- A route that ends at a value reaches it. -/
theorem self_mem_landings {reach : Reach} (v : Value) : .reached v ∈ v.landings reach [] := by
  cases v with
  | array items =>
    rw [landings.eq_def]
    exact List.mem_cons_self ..
  | _ =>
    rw [landings_nil rfl]
    exact List.mem_singleton_self _

/-- Some landing passes the test, or one is missing and that counts. -/
def Meets (doc : Value) (reach : Reach) (route : Route) (test : Value → Prop) (missing : Prop) :
    Prop :=
  (∃ v, .reached v ∈ doc.landings reach route ∧ test v) ∨
    (missing ∧ .missing ∈ doc.landings reach route)

theorem Meets.congr {doc : Value} {reach : Reach} {route : Route} {test test' : Value → Prop}
    {missing missing' : Prop} (h : ∀ v, test v ↔ test' v) (hm : missing ↔ missing') :
    doc.Meets reach route test missing ↔ doc.Meets reach route test' missing' := by
  simp only [Meets, h, hm]

/-- A search for either of two things finds one or the other. -/
theorem Meets.or_iff {doc : Value} {reach : Reach} {route : Route} {test test' : Value → Prop}
    {missing missing' : Prop} :
    doc.Meets reach route (fun v => test v ∨ test' v) (missing ∨ missing') ↔
      doc.Meets reach route test missing ∨ doc.Meets reach route test' missing' := by
  simp only [Meets, and_or_left, exists_or, or_and_right]
  exact or_or_or_comm

/-- A search for something of any form finds one form of it. -/
theorem Meets.exists_iff {α : Type} {doc : Value} {reach : Reach} {route : Route}
    {test : α → Value → Prop} {missing : α → Prop} :
    doc.Meets reach route (fun v => ∃ a, test a v) (∃ a, missing a) ↔
      ∃ a, doc.Meets reach route (test a) (missing a) := by
  constructor
  · rintro (⟨v, hv, a, htest⟩ | ⟨⟨a, hcounts⟩, hmissing⟩)
    · exact ⟨a, .inl ⟨v, hv, htest⟩⟩
    · exact ⟨a, .inr ⟨hcounts, hmissing⟩⟩
  · rintro ⟨a, ⟨v, hv, htest⟩ | ⟨hcounts, hmissing⟩⟩
    · exact .inl ⟨v, hv, a, htest⟩
    · exact .inr ⟨⟨a, hcounts⟩, hmissing⟩

/-- What does not depend on the value may be settled before the search. -/
theorem Meets.and_iff {p : Prop} {doc : Value} {reach : Reach} {route : Route}
    {test : Value → Prop} {missing : Prop} :
    doc.Meets reach route (fun v => p ∧ test v) (p ∧ missing) ↔
      p ∧ doc.Meets reach route test missing := by
  by_cases hp : p <;> simp [Meets, hp]

/-- A search for any of a list of things finds one of them. -/
theorem Meets.exists_mem_iff {α : Type} {doc : Value} {reach : Reach} {route : Route}
    {as : List α} {test : α → Value → Prop} {missing : α → Prop} :
    doc.Meets reach route (fun v => ∃ a ∈ as, test a v) (∃ a ∈ as, missing a) ↔
      ∃ a ∈ as, doc.Meets reach route (test a) (missing a) :=
  Meets.exists_iff.trans (exists_congr fun _ => Meets.and_iff)

/-! ### The order of a search -/

section
variable {m : Type → Type} [Monad m]

/-- Puts a test to landings until it succeeds. -/
def tryLandings (test : Value → m Bool) (missing : Bool) : List Landing → m Bool
  | [] => return false
  | .reached v :: rest => orElseM (test v) fun _ => tryLandings test missing rest
  | .missing :: rest => orElseM (return missing) fun _ => tryLandings test missing rest

theorem searchEntriesM_eq (test : Value → m Bool) (missing : Bool) (reach : Reach)
    (entries : Entries) (key : String) (route : Route) :
    searchEntriesM test missing reach entries key route =
      match entries.get? key with
      | some child => searchM test missing reach child route
      | none => return missing := by
  induction entries with
  | nil => rfl
  | cons e rest ih =>
    obtain ⟨k, v⟩ := e
    rw [searchEntriesM, Entries.get?_cons]
    split
    · rfl
    · exact ih

theorem searchItemM_eq (test : Value → m Bool) (missing : Bool) (reach : Reach)
    (items : List Value) (i : Nat) (route : Route) :
    searchItemM test missing reach items i route =
      match items[i]? with
      | some item => searchM test missing reach item route
      | none => return missing := by
  induction items generalizing i with
  | nil => rfl
  | cons v rest ih =>
    cases i with
    | zero => rfl
    | succ i => rw [searchItemM, ih, List.getElem?_cons_succ]

theorem searchM_array_cons (test : Value → m Bool) (missing : Bool) (reach : Reach)
    (items : List Value) (step : Step) (rest : Route) :
    searchM test missing reach (array items) (step :: rest) =
      match step.index.bind (items[·]?) with
      | some item => searchM test missing reach item rest
      | none => searchItemsM test missing reach items (step :: rest) := by
  rw [searchM]
  cases step.index with
  | none => rfl
  | some i =>
    rw [Option.bind_some]
    by_cases h : i < items.length
    · simp only [if_pos h, searchItemM_eq, List.getElem?_eq_getElem h]
    · simp only [if_neg h, List.getElem?_eq_none (Nat.le_of_not_lt h)]

variable [LawfulMonad m]

theorem orElseM_true (second : Unit → m Bool) : orElseM (return true) second = return true := by
  simp [orElseM]

theorem orElseM_false (second : Unit → m Bool) : orElseM (return false) second = second () := by
  simp [orElseM]

/-- A last try that fails adds nothing. -/
theorem orElseM_return_false (first : m Bool) : orElseM first (fun _ => return false) = first := by
  have h : (fun found : Bool => if found = true then pure true else pure false) =
      (pure : Bool → m Bool) := by
    funext found
    cases found <;> rfl
  simp only [orElseM, h, bind_pure]

theorem orElseM_assoc (a : m Bool) (b c : Unit → m Bool) :
    orElseM (orElseM a b) c = orElseM a fun _ => orElseM (b ()) c := by
  simp only [orElseM, bind_assoc]
  congr 1
  funext found
  cases found <;> simp

theorem tryLandings_append (test : Value → m Bool) (missing : Bool) (xs ys : List Landing) :
    tryLandings test missing (xs ++ ys) =
      orElseM (tryLandings test missing xs) fun _ => tryLandings test missing ys := by
  induction xs with
  | nil => rw [tryLandings, orElseM_false, List.nil_append]
  | cons l rest ih => cases l <;> simp only [List.cons_append, tryLandings, ih, orElseM_assoc]

/-- A search through items is one through the landings of each in turn. -/
theorem searchItemsM_eq (test : Value → m Bool) (missing : Bool) (reach : Reach)
    (items : List Value) (route : Route)
    (h : ∀ item ∈ items, searchM test missing reach item route =
      tryLandings test missing (item.landings reach route)) :
    searchItemsM test missing reach items route =
      tryLandings test missing (items.flatMap fun item => item.landings reach route) := by
  induction items with
  | nil => rfl
  | cons v rest ih =>
    rw [searchItemsM, h v (List.mem_cons_self ..), List.flatMap_cons, tryLandings_append,
      ih fun item hitem => h item (List.mem_cons_of_mem _ hitem)]

/-- **A search puts its test to the landings**, in their order, until it succeeds. -/
theorem searchM_eq_tryLandings (test : Value → m Bool) (missing : Bool) (reach : Reach) (v : Value)
    (route : Route) :
    searchM test missing reach v route = tryLandings test missing (v.landings reach route) := by
  -- The cases are those of `landings`; at an array the items are searched by the lemma above.
  fun_induction landings reach v route with
  | case1 items ih =>
    simp only [searchM, tryLandings]
    congr 1
    funext _
    cases reach with
    | items => exact searchItemsM_eq test missing .items items [] ih
    | whole => rfl
  | case2 v hv =>
    rw [tryLandings, tryLandings, orElseM_return_false, searchM]
    exact hv
  | case3 entries step rest child hchild ih =>
    rw [searchM, searchEntriesM_eq, hchild]
    exact ih
  | case4 entries step rest hnone =>
    rw [searchM, searchEntriesM_eq, hnone, tryLandings, tryLandings, orElseM_return_false]
  | case5 items step rest item hitem ih =>
    rw [searchM_array_cons, hitem]
    exact ih
  | case6 items step rest hnone ih =>
    rw [searchM_array_cons, hnone, searchItemsM_eq test missing reach items (step :: rest) ih]
  | case7 v step rest hobject harray =>
    rw [tryLandings, tryLandings, orElseM_return_false, searchM]
    · exact hobject
    · exact harray

end

/-! ### Outcome and trace -/

theorem search_eq_any (test : Value → Bool) (missing : Bool) (reach : Reach) (v : Value)
    (route : Route) :
    v.search test missing reach route =
      (v.landings reach route).any (·.succeeds test missing) := by
  rw [search, searchM_eq_tryLandings]
  induction v.landings reach route with
  | nil => rfl
  | cons l rest ih =>
    rw [List.any_cons, ← ih]
    cases l with
    | reached w =>
      rw [tryLandings, Landing.succeeds_reached]
      cases test w
      · rw [orElseM_false, Bool.false_or]
      · rw [orElseM_true, Bool.true_or]; rfl
    | missing =>
      rw [tryLandings, Landing.succeeds_missing]
      cases missing
      · rw [orElseM_false, Bool.false_or]
      · rw [orElseM_true, Bool.true_or]; rfl

theorem search_iff (test : Value → Bool) (missing : Bool) (reach : Reach) (v : Value)
    (route : Route) :
    v.search test missing reach route = true ↔
      v.Meets reach route (fun w => test w = true) (missing = true) := by
  rw [search_eq_any, List.any_eq_true]
  constructor
  · rintro ⟨l, hl, hs⟩
    cases l with
    | reached w => exact .inl ⟨w, hl, hs⟩
    | missing => exact .inr ⟨hs, hl⟩
  · rintro (⟨w, hw, ht⟩ | ⟨hm, hl⟩)
    · exact ⟨.reached w, hw, ht⟩
    · exact ⟨.missing, hl, hm⟩

/-- A test that notes down the values it is put to, the last one first. -/
def noting (test : Value → Bool) (v : Value) : StateM (List Value) Bool := do
  modify (v :: ·)
  return test v

theorem run_tryLandings_noting (test : Value → Bool) (missing : Bool) (ls : List Landing)
    (log : List Value) :
    (tryLandings (noting test) missing ls).run log =
      (ls.any (·.succeeds test missing),
        ((Landing.visited test missing ls).filterMap Landing.value?).reverse ++ log) := by
  induction ls generalizing log with
  | nil => rfl
  | cons l rest ih =>
    rw [Landing.visited_cons, List.any_cons]
    cases l with
    | reached w =>
      rw [tryLandings]
      cases h : test w
      · have hrun :
            (orElseM (noting test w) fun _ => tryLandings (noting test) missing rest).run log =
              (tryLandings (noting test) missing rest).run (w :: log) := by
          simp [orElseM, noting, h]
        rw [hrun, ih]
        simp [h]
      · have hrun :
            (orElseM (noting test w) fun _ => tryLandings (noting test) missing rest).run log =
              (true, w :: log) := by
          simp [orElseM, noting, h]
          rfl
        rw [hrun]
        simp [h]
    | missing =>
      rw [tryLandings]
      cases missing
      · rw [orElseM_false, ih]
        simp [List.filterMap_cons]
      · rfl

theorem searchTrace_eq (test : Value → Bool) (missing : Bool) (reach : Reach) (v : Value)
    (route : Route) :
    v.searchTrace test missing reach route =
      (v.search test missing reach route,
        (Landing.visited test missing (v.landings reach route)).filterMap Landing.value?) := by
  show (((searchM (noting test) missing reach v route).run []).1,
    ((searchM (noting test) missing reach v route).run []).2.reverse) = _
  rw [searchM_eq_tryLandings, run_tryLandings_noting, search_eq_any]
  simp

/-- **A search is exact.** It succeeds just when some landing makes it, and it looks at the
values reached up to the first that does, in order, or at all of them when none does. -/
theorem search_exact (test : Value → Bool) (missing : Bool) (reach : Reach) (v : Value)
    (route : Route) :
    (v.search test missing reach route = true ↔
      (∃ w, .reached w ∈ v.landings reach route ∧ test w = true) ∨
        (missing = true ∧ .missing ∈ v.landings reach route)) ∧
    v.searchTrace test missing reach route =
      (v.search test missing reach route,
        (Landing.visited test missing (v.landings reach route)).filterMap Landing.value?) :=
  ⟨search_iff test missing reach v route, searchTrace_eq test missing reach v route⟩

end Value

end DocumentFilter
