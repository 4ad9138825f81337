import DocumentFilter.Proofs.Document.Parts
import DocumentFilter.Proofs.Filter.Grammar
import DocumentFilter.Proofs.Filter.Meaning
import Mathlib.Data.List.Forall2

/-! Queries in another order.

The entries of conditions and of expressions may stand in any order, and so may the conditions
under a connective, the values of a membership test and the element tests of a list; the inside of
a literal may not. What a query means and whether it is well-formed is said of all members or of
some member of these lists, so neither depends on the order. One operator looks at another entry,
a pattern at its options; it finds them wherever they stand, because an object has at most one
entry under a key. -/
namespace DocumentFilter

/-! ### Lists in another order -/

/-- The second list is the first in another order, with related members. -/
def Rearranged {α : Type} (R : α → α → Prop) (xs ys : List α) : Prop :=
  ∃ mid, xs.Perm mid ∧ List.Forall₂ R mid ys

namespace Rearranged

variable {α : Type} {R : α → α → Prop} {xs ys : List α}

theorem exists_right (h : Rearranged R xs ys) {x : α} (hx : x ∈ xs) : ∃ y ∈ ys, R x y := by
  obtain ⟨mid, order, members⟩ := h
  exact exists_of_forall₂ members (order.mem_iff.mp hx)

theorem exists_left (h : Rearranged R xs ys) {y : α} (hy : y ∈ ys) : ∃ x ∈ xs, R x y := by
  obtain ⟨mid, order, members⟩ := h
  have hflip : List.Forall₂ (flip R) ys mid := List.Forall₂.flip members
  obtain ⟨x, hx, hr⟩ := exists_of_forall₂ hflip hy
  exact ⟨x, order.mem_iff.mpr hx, hr⟩

/-- What is said of all members does not depend on their order. -/
theorem forall_iff {P Q : α → Prop} (h : Rearranged R xs ys)
    (hpq : ∀ x ∈ xs, ∀ y, R x y → (P x ↔ Q y)) : (∀ x ∈ xs, P x) ↔ ∀ y ∈ ys, Q y := by
  constructor
  · intro hall y hy
    obtain ⟨x, hx, hr⟩ := h.exists_left hy
    exact (hpq x hx y hr).mp (hall x hx)
  · intro hall x hx
    obtain ⟨y, hy, hr⟩ := h.exists_right hx
    exact (hpq x hx y hr).mpr (hall y hy)

/-- Nor does what is said of some member. -/
theorem exists_iff {P Q : α → Prop} (h : Rearranged R xs ys)
    (hpq : ∀ x ∈ xs, ∀ y, R x y → (P x ↔ Q y)) : (∃ x ∈ xs, P x) ↔ ∃ y ∈ ys, Q y := by
  constructor
  · rintro ⟨x, hx, hp⟩
    obtain ⟨y, hy, hr⟩ := h.exists_right hx
    exact ⟨y, hy, (hpq x hx y hr).mp hp⟩
  · rintro ⟨y, hy, hq⟩
    obtain ⟨x, hx, hr⟩ := h.exists_left hy
    exact ⟨x, hx, (hpq x hx y hr).mpr hq⟩

/-- What related members have in common occurs equally often. -/
theorem map_perm {β : Type} {f : α → β} (h : Rearranged R xs ys) (hf : ∀ x y, R x y → f x = f y) :
    (xs.map f).Perm (ys.map f) := by
  obtain ⟨mid, order, members⟩ := h
  have hmap : mid.map f = ys.map f := by
    rw [← List.forall₂_eq_eq_eq, List.forall₂_map_left_iff, List.forall₂_map_right_iff]
    exact members.imp hf
  rw [← hmap]
  exact order.map f

end Rearranged

/-! ### Wrapped element tests -/

theorem Value.unwrapped?_eq_none {entries : Entries} (h : entries.length ≠ 1) :
    (object entries).unwrapped? = none := by
  cases hinner : (object entries).unwrapped? with
  | none => rfl
  | some inner =>
    cases unwrapped?_eq_some_iff.mp hinner
    exact absurd rfl h

theorem Value.Everywhere.unwrapped {p : Value → Prop} {items : List Value} {v : Value}
    {entries : Entries} (h : (Value.array items).Everywhere p) (hv : v ∈ items)
    (hentries : v.unwrapped? = some entries) : (Value.object entries).Everywhere p := by
  have hv := h.item v hv
  rw [Value.unwrapped?_eq_some_iff.mp hentries] at hv
  exact hv.entry _ (List.mem_singleton_self _)

theorem Value.sizeOf_lt_of_wrapped {items : List Value} {v : Value} {entries : Entries}
    (hv : v ∈ items) (hentries : v.unwrapped? = some entries) :
    sizeOf entries < sizeOf (Value.array items) := by
  have hwrapper := Value.sizeOf_lt_of_unwrapped? hentries
  have hitem := Value.sizeOf_lt_of_mem hv
  omega

/-! ### Reordered queries -/

namespace Reordered

mutual

/-- A query as it is, or with its entries reordered. -/
inductive Query : Value → Value → Prop
  | same (query : Value) : Query query query
  | condition {entries mid entries' : Entries} (order : entries.Perm mid)
      (members : List.Forall₂ Entry mid entries') : Query (.object entries) (.object entries')

/-- An entry of a condition: its conditions or the operators of its expression may be reordered,
a literal may not. -/
inductive Entry : String × Value → String × Value → Prop
  | same (e : String × Value) : Entry e e
  | connective {key : String} {c : Connective} {queries mid queries' : List Value}
      (hkey : Connective.ofWord? key = some c) (order : queries.Perm mid)
      (members : List.Forall₂ Query mid queries') :
      Entry (key, .array queries) (key, .array queries')
  | expression {key : String} {entries mid entries' : Entries}
      (hkey : Connective.ofWord? key = none) (hkeys : isExpression entries = true)
      (order : entries.Perm mid) (members : List.Forall₂ Operand mid entries') :
      Entry (key, .object entries) (key, .object entries')

/-- An entry of an expression: an operator and what it takes. -/
inductive Operand : String × Value → String × Value → Prop
  | same (e : String × Value) : Operand e e
  | list {key : String} {o : Operator} {items items' : List Value}
      (hkey : Operator.ofWord? key = some o) (ho : o.takesList = true)
      (order : items.Perm items') : Operand (key, .array items) (key, .array items')
  | not {key : String} {entries mid entries' : Entries}
      (hkey : Operator.ofWord? key = some .not) (order : entries.Perm mid)
      (members : List.Forall₂ Operand mid entries') :
      Operand (key, .object entries) (key, .object entries')
  | values {key : String} {items items' : List Value} (hkey : Operator.ofWord? key = some .all)
      (hnone : hasElementTest items = false) (order : items.Perm items') :
      Operand (key, .array items) (key, .array items')
  | wrapped {key : String} {items mid items' : List Value}
      (hkey : Operator.ofWord? key = some .all) (hsome : hasElementTest items = true)
      (order : items.Perm mid) (members : List.Forall₂ Wrapper mid items') :
      Operand (key, .array items) (key, .array items')
  | element {key : String} {entries entries' : Entries}
      (hkey : Operator.ofWord? key = some .element) (h : ElementTest entries entries') :
      Operand (key, .object entries) (key, .object entries')

/-- An item of a list of element tests. The test may be reordered also where its wrapper has more
entries than it should. -/
inductive Wrapper : Value → Value → Prop
  | same (v : Value) : Wrapper v v
  | element {entries entries' : Entries} (before after : Entries)
      (h : ElementTest entries entries') :
      Wrapper (.object (before ++ (elementWord, .object entries) :: after))
        (.object (before ++ (elementWord, .object entries') :: after))

/-- An element test, which is an expression or a condition. -/
inductive ElementTest : Entries → Entries → Prop
  | expression {entries mid entries' : Entries} (hkeys : isExpression entries = true)
      (order : entries.Perm mid) (members : List.Forall₂ Operand mid entries') :
      ElementTest entries entries'
  | condition {entries mid entries' : Entries} (hkeys : isExpression entries = false)
      (order : entries.Perm mid) (members : List.Forall₂ Entry mid entries') :
      ElementTest entries entries'

end

/-! ### What stays in place -/

theorem Entry.key_eq {e f : String × Value} (h : Entry e f) : e.1 = f.1 := by cases h <;> rfl

theorem Operand.key_eq {e f : String × Value} (h : Operand e f) : e.1 = f.1 := by cases h <;> rfl

/-- Options are a literal. -/
theorem Operand.eq_of_options {e f : String × Value} (h : Operand e f)
    (hkey : Operator.ofWord? e.1 = some .options) : e = f := by
  cases h with
  | same => rfl
  | list hlist ho =>
    cases hlist.symm.trans hkey
    cases ho
  | not hother | values hother | wrapped hother | element hother => cases hother.symm.trans hkey

theorem isExpression_eq_of_perm {entries entries' : Entries}
    (h : (Entries.keys entries).Perm (Entries.keys entries')) :
    isExpression entries = isExpression entries' := by
  have hkeys (entries : Entries) : isExpression entries =
      (!(Entries.keys entries).isEmpty &&
        (Entries.keys entries).all fun key => (Operator.ofWord? key).isSome) := by
    rw [isExpression, Entries.keys, List.isEmpty_map, List.all_map]
    rfl
  rw [hkeys, hkeys, h.isEmpty_eq, h.all_eq]

theorem isExpression_eq_of_operands {entries entries' : Entries}
    (h : Rearranged Operand entries entries') : isExpression entries = isExpression entries' :=
  isExpression_eq_of_perm (h.map_perm fun _ _ => Operand.key_eq)

theorem isExpression_eq_of_entries {entries entries' : Entries}
    (h : Rearranged Entry entries entries') : isExpression entries = isExpression entries' :=
  isExpression_eq_of_perm (h.map_perm fun _ _ => Entry.key_eq)

/-- A pattern finds its options wherever they stand, and options their pattern. -/
theorem patternContext_eq {entries entries' : Entries} (h : Rearranged Operand entries entries')
    (hkeys : (Entries.keys entries).Nodup) :
    PatternContext.of entries' = PatternContext.of entries := by
  have hperm := h.map_perm fun _ _ => Operand.key_eq
  have hkeys' : (Entries.keys entries').Nodup := hperm.nodup_iff.mp hkeys
  have hpattern : (entries'.get? Operator.pattern.word).isSome =
      (entries.get? Operator.pattern.word).isSome := by
    rw [Bool.eq_iff_iff, Entries.get?_isSome_iff, Entries.get?_isSome_iff]
    exact hperm.mem_iff.symm
  have hoptions : entries'.get? optionsWord = entries.get? optionsWord := by
    ext v
    -- With each key once, to find an entry is to have it, and that no order changes.
    rw [Entries.get?_eq_some_iff hkeys', Entries.get?_eq_some_iff hkeys]
    constructor
    · intro hv
      obtain ⟨e, he, hr⟩ := h.exists_left hv
      rw [← hr.eq_of_options (by rw [hr.key_eq]; rfl)]
      exact he
    · intro hv
      obtain ⟨f, hf, hr⟩ := h.exists_right hv
      rw [hr.eq_of_options rfl]
      exact hf
  rw [PatternContext.of, PatternContext.of, hpattern, hoptions]

/-- What a wrapper holds is reordered with it. -/
theorem Wrapper.unwrapped {v w : Value} (h : Wrapper v w) :
    v.unwrapped? = w.unwrapped? ∨ ∃ entries entries', v.unwrapped? = some entries ∧
      w.unwrapped? = some entries' ∧ ElementTest entries entries' := by
  cases h with
  | same => exact .inl rfl
  | element before after h =>
    by_cases halone : before = [] ∧ after = []
    · obtain ⟨rfl, rfl⟩ := halone
      exact .inr ⟨_, _, rfl, rfl, h⟩
    -- A wrapper with more entries is none, whatever becomes of its test.
    · have hlength : before.length + (after.length + 1) ≠ 1 := by
        intro hone
        exact halone ⟨List.length_eq_zero_iff.mp (by omega), List.length_eq_zero_iff.mp (by omega)⟩
      left
      rw [Value.unwrapped?_eq_none, Value.unwrapped?_eq_none] <;> simpa using hlength

/-- What is said of the object in a wrapper. -/
theorem Wrapper.forall_unwrapped_iff {v w : Value} {P : Entries → Prop} (h : Wrapper v w)
    (hp : ∀ entries entries', v.unwrapped? = some entries → ElementTest entries entries' →
      (P entries ↔ P entries')) :
    (∀ entries, v.unwrapped? = some entries → P entries) ↔
      ∀ entries, w.unwrapped? = some entries → P entries := by
  obtain heq | ⟨entries, entries', hv, hw, htest⟩ := h.unwrapped
  · rw [heq]
  · simp only [hv, hw, Option.some.injEq, forall_eq']
    exact hp entries entries' hv htest

theorem Wrapper.isSome_unwrapped?_eq {v w : Value} (h : Wrapper v w) :
    v.unwrapped?.isSome = w.unwrapped?.isSome := by
  obtain heq | ⟨entries, entries', hv, hw, -⟩ := h.unwrapped
  · rw [heq]
  · rw [hv, hw]
    rfl

theorem hasElementTest_eq_of_perm {items items' : List Value} (h : items.Perm items') :
    hasElementTest items = hasElementTest items' :=
  h.any_eq

theorem hasElementTest_eq_of_wrappers {items items' : List Value}
    (h : Rearranged Wrapper items items') : hasElementTest items = hasElementTest items' := by
  rw [Bool.eq_iff_iff, hasElementTest, hasElementTest, List.any_eq_true, List.any_eq_true]
  refine h.exists_iff fun v _ w hw => ?_
  cases hw with
  | same => exact .rfl
  | element before after htest => simp [Entries.get?_isSome_iff, Entries.keys]

theorem Query.isObject_iff {query query' : Value} (h : Query query query') :
    (∃ entries, query = .object entries) ↔ ∃ entries, query' = .object entries := by
  cases h with
  | same => exact .rfl
  | condition order members => exact iff_of_true ⟨_, rfl⟩ ⟨_, rfl⟩

/-! ### The meaning -/

theorem amongAt_iff_of_perm {operands operands' : List Value} (h : operands.Perm operands')
    (doc : Value) (route : Route) : AmongAt operands doc route ↔ AmongAt operands' doc route :=
  Value.Meets.congr (fun _ => exists_congr fun _ => and_congr_left' h.mem_iff)
    (exists_congr fun _ => and_congr_left' h.mem_iff)

theorem arrayAt_congr {doc : Value} {route : Route} {property property' : List Value → Prop}
    (h : ∀ items, property items ↔ property' items) :
    ArrayAt doc route property ↔ ArrayAt doc route property' :=
  Value.Meets.congr (fun _ => exists_congr fun items => and_congr_right fun _ => h items) .rfl

-- The recursion is on the first query; the second follows it by the rules. That keys stand once
-- is needed where an expression is met, for the options of its pattern, and so is handed down.
mutual

theorem describes_iff {query query' : Value} (h : Query query query') (hkeys : query.HoldsKeysOnce)
    (doc : Value) : query.Describes doc ↔ query'.Describes doc := by
  cases h with
  | same => exact .rfl
  | condition order members =>
    rw [Value.Describes, Value.Describes]
    exact conditionHolds_iff ⟨_, order, members⟩ hkeys.entry doc
  termination_by (sizeOf query, 0)

theorem conditionHolds_iff {entries entries' : Entries} (h : Rearranged Entry entries entries')
    (hkeys : ∀ e ∈ entries, e.2.HoldsKeysOnce) (doc : Value) :
    ConditionHolds entries doc ↔ ConditionHolds entries' doc := by
  rw [ConditionHolds, ConditionHolds]
  exact h.forall_iff fun e he f hr => entryHolds_iff hr (hkeys e he) doc
  termination_by (sizeOf entries, 0)
  decreasing_by exact .left _ _ (Entries.sizeOf_lt_of_mem ‹_›)

theorem entryHolds_iff {e f : String × Value} (h : Entry e f) (hkeys : e.2.HoldsKeysOnce)
    (doc : Value) : EntryHolds e.1 e.2 doc ↔ EntryHolds f.1 f.2 doc := by
  cases h with
  | same => exact .rfl
  | @connective key c queries mid queries' hkey order members =>
    have hr : Rearranged Query queries queries' := ⟨mid, order, members⟩
    have hdescribes (query : Value) (hquery : query ∈ queries) (query' : Value)
        (h : Query query query') : query.Describes doc ↔ query'.Describes doc :=
      describes_iff h (hkeys.item query hquery) doc
    rw [EntryHolds.eq_def, EntryHolds.eq_def]
    simp only [hkey]
    refine and_congr (hr.forall_iff fun _ _ _ h => h.isObject_iff) ?_
    cases c with
    | and => exact hr.forall_iff hdescribes
    | or =>
      simp only [exists_prop]
      exact hr.exists_iff hdescribes
    | nor => exact hr.forall_iff fun query hquery query' h =>
        not_congr (hdescribes query hquery query' h)
  | @expression key entries mid entries' hkey hexpression order members =>
    have hr : Rearranged Operand entries entries' := ⟨mid, order, members⟩
    have hexpression' := (isExpression_eq_of_operands hr).symm.trans hexpression
    rw [EntryHolds.eq_def, EntryHolds.eq_def]
    simp only [hkey, hexpression, hexpression', if_true]
    exact expressionHolds_iff hr hkeys doc (.ofName key)
  termination_by (sizeOf e.2, 0)

theorem expressionHolds_iff {entries entries' : Entries} (h : Rearranged Operand entries entries')
    (hkeys : (Value.object entries).HoldsKeysOnce) (doc : Value) (route : Route) :
    ExpressionHolds entries doc route ↔ ExpressionHolds entries' doc route := by
  rw [ExpressionHolds, ExpressionHolds]
  have hcontext := patternContext_eq h (hkeys.self entries rfl)
  exact h.forall_iff fun e he f hr => operatorHolds_iff hcontext hr (hkeys.entry e he) doc route
  termination_by (sizeOf entries, 0)
  decreasing_by exact .left _ _ (Entries.sizeOf_lt_of_mem ‹_›)

theorem operatorHolds_iff {siblings siblings' : Entries}
    (hcontext : PatternContext.of siblings' = PatternContext.of siblings) {e f : String × Value}
    (h : Operand e f) (hkeys : e.2.HoldsKeysOnce) (doc : Value) (route : Route) :
    OperatorHolds siblings e.1 e.2 doc route ↔ OperatorHolds siblings' f.1 f.2 doc route := by
  cases h with
  | same => exact operatorHolds_congr hcontext ..
  | @list key o items items' hkey ho order =>
    rw [OperatorHolds.eq_def, OperatorHolds.eq_def]
    simp only [hkey]
    cases o with
    | among =>
      simp only [Value.array.injEq, exists_eq_left']
      exact amongAt_iff_of_perm order doc route
    | notAmong =>
      simp only [Value.array.injEq, exists_eq_left']
      exact not_congr (amongAt_iff_of_perm order doc route)
    | _ => cases ho
  | @not key entries mid entries' hkey order members =>
    have hr : Rearranged Operand entries entries' := ⟨mid, order, members⟩
    rw [OperatorHolds.eq_def, OperatorHolds.eq_def]
    simp only [hkey, isExpression_eq_of_operands hr]
    exact and_congr_right fun _ => not_congr (expressionHolds_iff hr hkeys doc route)
  | @values key items items' hkey hnone order =>
    have hnone' := (hasElementTest_eq_of_perm order).symm.trans hnone
    rw [OperatorHolds.eq_def, OperatorHolds.eq_def]
    simp only [hkey, hnone, hnone', Bool.false_eq_true, if_false]
    refine and_congr (not_congr ?_) (arrayAt_congr fun items => ?_)
    · exact ⟨fun h => (h ▸ order).nil_eq.symm, fun h => (h ▸ order).eq_nil⟩
    · exact forall_congr' fun o => imp_congr_left order.mem_iff
  | @wrapped key operands mid operands' hkey hsome order members =>
    have hr : Rearranged Wrapper operands operands' := ⟨mid, order, members⟩
    have hsome' := (hasElementTest_eq_of_wrappers hr).symm.trans hsome
    rw [OperatorHolds.eq_def, OperatorHolds.eq_def]
    simp only [hkey, hsome, hsome', if_true]
    refine and_congr (hr.forall_iff fun _ _ _ h => by rw [h.isSome_unwrapped?_eq]) ?_
    refine arrayAt_congr fun items => hr.forall_iff fun o ho o' h => ?_
    refine h.forall_unwrapped_iff fun entries entries' hentries htest => ?_
    have hinner := hkeys.unwrapped ho hentries
    exact exists_congr fun item => and_congr_right fun _ => elementHolds_iff htest hinner item
  | @element key entries entries' hkey htest =>
    rw [OperatorHolds.eq_def, OperatorHolds.eq_def]
    simp only [hkey]
    exact arrayAt_congr fun items => exists_congr fun item => and_congr_right fun _ =>
      elementHolds_iff htest hkeys item
  termination_by (sizeOf e.2, 0)
  decreasing_by
    · decreasing_tactic
    · subst_vars
      exact .left _ _ (Value.sizeOf_lt_of_wrapped ho hentries)
    · decreasing_tactic

theorem elementHolds_iff {entries entries' : Entries} (h : ElementTest entries entries')
    (hkeys : (Value.object entries).HoldsKeysOnce) (item : Value) :
    ElementHolds entries item ↔ ElementHolds entries' item := by
  rw [ElementHolds, ElementHolds]
  cases h with
  | expression hexpression order members =>
    have hr : Rearranged Operand entries entries' := ⟨_, order, members⟩
    rw [if_pos hexpression, if_pos ((isExpression_eq_of_operands hr).symm.trans hexpression)]
    exact expressionHolds_iff hr hkeys item []
  | condition hcondition order members =>
    have hr : Rearranged Entry entries entries' := ⟨_, order, members⟩
    rw [hcondition, (isExpression_eq_of_entries hr).symm.trans hcondition]
    exact conditionHolds_iff hr hkeys.entry item
  termination_by (sizeOf entries, 1)

end

/-! ### The grammar -/

theorem grammar_operand_congr {siblings siblings' : Entries}
    (h : PatternContext.of siblings' = PatternContext.of siblings) (o : Operator) (v : Value) :
    Grammar.Operand siblings o v ↔ Grammar.Operand siblings' o v := by
  have hpattern : (siblings'.get? Operator.pattern.word).isSome =
      (siblings.get? Operator.pattern.word).isSome := congrArg PatternContext.hasPattern h
  have hoptions : siblings'.get? Operator.options.word = siblings.get? Operator.options.word :=
    congrArg PatternContext.options h
  cases o with
  | eq | ne | gt | gte | lt | lte | exist => exact iff_of_true (.any rfl) (.any rfl)
  | among | notAmong => rw [Grammar.operand_list_iff rfl, Grammar.operand_list_iff rfl]
  | not => rw [Grammar.operand_not_iff, Grammar.operand_not_iff]
  | pattern => rw [Grammar.operand_pattern_iff, Grammar.operand_pattern_iff, hoptions]
  | options => rw [Grammar.operand_options_iff, Grammar.operand_options_iff, hpattern]
  | modulo => rw [Grammar.operand_modulo_iff, Grammar.operand_modulo_iff]
  | size => rw [Grammar.operand_size_iff, Grammar.operand_size_iff]
  | all => rw [Grammar.operand_all_iff, Grammar.operand_all_iff]
  | element => rw [Grammar.operand_element_iff, Grammar.operand_element_iff]

mutual

theorem grammar_query_iff {query query' : Value} (h : Query query query')
    (hkeys : query.HoldsKeysOnce) : Grammar.Query query ↔ Grammar.Query query' := by
  cases h with
  | same => exact .rfl
  | condition order members =>
    simp only [Grammar.query_iff, Value.object.injEq, exists_eq_left']
    exact grammar_condition_iff ⟨_, order, members⟩ hkeys.entry
  termination_by (sizeOf query, 0)

theorem grammar_condition_iff {entries entries' : Entries} (h : Rearranged Entry entries entries')
    (hkeys : ∀ e ∈ entries, e.2.HoldsKeysOnce) :
    Grammar.Condition entries ↔ Grammar.Condition entries' := by
  rw [Grammar.condition_iff, Grammar.condition_iff]
  exact h.forall_iff fun e he f hr => grammar_entry_iff hr (hkeys e he)
  termination_by (sizeOf entries, 0)
  decreasing_by exact .left _ _ (Entries.sizeOf_lt_of_mem ‹_›)

theorem grammar_entry_iff {e f : String × Value} (h : Entry e f) (hkeys : e.2.HoldsKeysOnce) :
    Grammar.Entry e.1 e.2 ↔ Grammar.Entry f.1 f.2 := by
  cases h with
  | same => exact .rfl
  | @connective key c queries mid queries' hkey order members =>
    have hr : Rearranged Query queries queries' := ⟨mid, order, members⟩
    simp only [Grammar.entry_connective_iff hkey, Value.array.injEq, exists_eq_left']
    exact hr.forall_iff fun query hquery query' h =>
      grammar_query_iff h (hkeys.item query hquery)
  | @expression key entries mid entries' hkey hexpression order members =>
    have hr : Rearranged Operand entries entries' := ⟨mid, order, members⟩
    have hexpression' := (isExpression_eq_of_operands hr).symm.trans hexpression
    rw [Grammar.entry_expression_iff hkey hexpression,
      Grammar.entry_expression_iff hkey hexpression']
    exact grammar_expression_iff hr hkeys
  termination_by (sizeOf e.2, 0)

theorem grammar_expression_iff {entries entries' : Entries}
    (h : Rearranged Operand entries entries') (hkeys : (Value.object entries).HoldsKeysOnce) :
    Grammar.Expression entries ↔ Grammar.Expression entries' := by
  have heq := isExpression_eq_of_operands h
  by_cases hexpression : isExpression entries = true
  · have hcontext := patternContext_eq h (hkeys.self entries rfl)
    rw [Grammar.expression_iff hexpression, Grammar.expression_iff (heq.symm.trans hexpression)]
    refine h.forall_iff fun e he f hr => ?_
    rw [← hr.key_eq]
    exact forall₂_congr fun o ho => grammar_operand_iff hcontext hr ho (hkeys.entry e he)
  · exact iff_of_false (fun h => hexpression h.keys) fun h => hexpression (heq.trans h.keys)
  termination_by (sizeOf entries, 0)
  decreasing_by exact .left _ _ (Entries.sizeOf_lt_of_mem ‹_›)

theorem grammar_operand_iff {siblings siblings' : Entries}
    (hcontext : PatternContext.of siblings' = PatternContext.of siblings) {e f : String × Value}
    (h : Operand e f) {o : Operator} (ho : Operator.ofWord? e.1 = some o)
    (hkeys : e.2.HoldsKeysOnce) :
    Grammar.Operand siblings o e.2 ↔ Grammar.Operand siblings' o f.2 := by
  cases h with
  | same => exact grammar_operand_congr hcontext ..
  | list hkey hlist order =>
    cases hkey.symm.trans ho
    exact iff_of_true (.list hlist) (.list hlist)
  | @not key entries mid entries' hkey order members =>
    cases hkey.symm.trans ho
    have hr : Rearranged Operand entries entries' := ⟨mid, order, members⟩
    simp only [Grammar.operand_not_iff, reduceCtorEq, exists_false, false_or, Value.object.injEq,
      exists_eq_left']
    exact grammar_expression_iff hr hkeys
  | values hkey hnone order =>
    cases hkey.symm.trans ho
    exact iff_of_true (.values hnone) (.values ((hasElementTest_eq_of_perm order).symm.trans hnone))
  | @wrapped key operands mid operands' hkey hsome order members =>
    cases hkey.symm.trans ho
    have hr : Rearranged Wrapper operands operands' := ⟨mid, order, members⟩
    have hsome' := (hasElementTest_eq_of_wrappers hr).symm.trans hsome
    simp only [Grammar.operand_all_iff, Value.array.injEq, exists_eq_left', hsome, hsome',
      forall_const]
    refine and_congr (hr.forall_iff fun _ _ _ h => by rw [h.isSome_unwrapped?_eq]) ?_
    refine hr.forall_iff fun item hitem item' h => ?_
    refine h.forall_unwrapped_iff fun entries entries' hentries htest => ?_
    exact grammar_elementTest_iff htest (hkeys.unwrapped hitem hentries)
  | @element key entries entries' hkey htest =>
    cases hkey.symm.trans ho
    simp only [Grammar.operand_element_iff, Value.object.injEq, exists_eq_left']
    exact grammar_elementTest_iff htest hkeys
  termination_by (sizeOf e.2, 0)
  decreasing_by
    · decreasing_tactic
    · subst_vars
      exact .left _ _ (Value.sizeOf_lt_of_wrapped hitem hentries)
    · decreasing_tactic

theorem grammar_elementTest_iff {entries entries' : Entries} (h : ElementTest entries entries')
    (hkeys : (Value.object entries).HoldsKeysOnce) :
    Grammar.ElementTest entries ↔ Grammar.ElementTest entries' := by
  cases h with
  | expression hexpression order members =>
    have hr : Rearranged Operand entries entries' := ⟨_, order, members⟩
    have hexpression' := (isExpression_eq_of_operands hr).symm.trans hexpression
    rw [Grammar.elementTest_expression_iff hexpression,
      Grammar.elementTest_expression_iff hexpression']
    exact grammar_expression_iff hr hkeys
  | condition hcondition order members =>
    have hr : Rearranged Entry entries entries' := ⟨_, order, members⟩
    have hcondition' := (isExpression_eq_of_entries hr).symm.trans hcondition
    rw [Grammar.elementTest_condition_iff hcondition, Grammar.elementTest_condition_iff hcondition']
    exact grammar_condition_iff hr hkeys.entry
  termination_by (sizeOf entries, 1)

end

end Reordered

/-- **The order of a query's parts is irrelevant.** A reordered query accepts the same documents,
and either both queries pass the check or neither does. -/
theorem Filter.agree_of_reordered {query query' : Value} (h : Reordered.Query query query')
    (hkeys : query.HoldsKeysOnce) :
    (∀ doc, (ofQuery query).accepts doc = (ofQuery query').accepts doc) ∧
      (ofQuery query).check.isOk = (ofQuery query').check.isOk := by
  constructor
  · intro doc
    rw [Bool.eq_iff_iff]
    calc (ofQuery query).accepts doc = true
      _ ↔ query.Describes doc := allClauses_planQuery query doc
      _ ↔ query'.Describes doc := Reordered.describes_iff h hkeys doc
      _ ↔ (ofQuery query').accepts doc = true := (allClauses_planQuery query' doc).symm
  · have hcheck (query : Value) :
        (ofQuery query).check.isOk = true ↔ clausesFault? (planQuery query) = none := by
      rw [check, ofQuery]
      cases clausesFault? (planQuery query) <;> simp [Except.isOk, Except.toBool]
    rw [Bool.eq_iff_iff, hcheck, hcheck, clausesFault?_planQuery_eq_none_iff,
      clausesFault?_planQuery_eq_none_iff]
    exact Reordered.grammar_query_iff h hkeys

/-- Options before their pattern, and the values of a membership test the other way round. -/
theorem Filter.agree_of_swapped_options :
    (∀ doc,
      (ofQuery (.object [
        ("tag", .object [("$options", .string "i"), ("$regex", .string "a")]),
        ("n", .object [("$in", .array [.integer 1, .null])])])).accepts doc =
      (ofQuery (.object [
        ("n", .object [("$in", .array [.null, .integer 1])]),
        ("tag", .object [("$regex", .string "a"), ("$options", .string "i")])])).accepts doc) ∧
    (ofQuery (.object [
      ("tag", .object [("$options", .string "i"), ("$regex", .string "a")]),
      ("n", .object [("$in", .array [.integer 1, .null])])])).check.isOk =
    (ofQuery (.object [
      ("n", .object [("$in", .array [.null, .integer 1])]),
      ("tag", .object [("$regex", .string "a"), ("$options", .string "i")])])).check.isOk := by
  refine agree_of_reordered (.condition (.swap ..) (.cons ?among (.cons ?pattern .nil))) (by decide)
  case among => exact .expression rfl rfl (.refl _) (.cons (.list rfl rfl (.swap ..)) .nil)
  case pattern =>
    exact .expression rfl rfl (.swap ..) (List.forall₂_same.mpr fun e _ => .same e)

end DocumentFilter
