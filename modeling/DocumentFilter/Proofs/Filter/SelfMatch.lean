import DocumentFilter.Proofs.Document.Reflexivity
import DocumentFilter.Proofs.Filter.BooleanLaws
import DocumentFilter.Proofs.Filter.Mirror

/-! Documents as their own queries.

Read as a query, a document asks of each of its fields to be what it is. That holds of every field
that is equal to itself. An array also offers its items to the question, at any depth, but they
are smaller than the array and cannot stand in for it. -/
namespace DocumentFilter

namespace Value

theorem matchesOperand_self (v : Value) : v.matchesOperand v = v.equals v := by
  cases v <;> rfl

/-- Nothing is brought to the kind of an array. -/
theorem matchesOperand_array (w : Value) (items : List Value) :
    w.matchesOperand (array items) = w.equals (array items) := by
  cases w <;> rfl

/-- What a value offers at the end of a route is the value, or something smaller from an array. -/
theorem eq_or_lt_of_mem_landings (v : Value) : ∀ l ∈ v.landings .items [],
    l = .reached v ∨
      ∃ items w, v = array items ∧ l = .reached w ∧ w.parts.length < v.parts.length := by
  cases v with
  | array items =>
    rw [landings_array_nil, List.forall_mem_cons, List.forall_mem_flatMap]
    refine ⟨.inl rfl, fun item hitem l hl => .inr ?_⟩
    have hlt := length_parts_lt_of_item hitem
    rcases eq_or_lt_of_mem_landings item l hl with rfl | ⟨_, w, -, rfl, hless⟩
    · exact ⟨items, item, rfl, rfl, hlt⟩
    · exact ⟨items, w, rfl, rfl, Nat.lt_trans hless hlt⟩
  | _ =>
    rw [landings_nil rfl]
    exact List.forall_mem_singleton.mpr (.inl rfl)
  termination_by sizeOf v
  decreasing_by exact sizeOf_lt_of_mem ‹_›

/-- A value is there at the end of a route; only what it offers is asked. -/
theorem equalAt_nil_iff (operand v : Value) :
    EqualAt operand v [] ↔
      ∃ w, .reached w ∈ v.landings .items [] ∧ w.matchesOperand operand = true := by
  refine or_iff_left ?_
  rintro ⟨-, hmissing⟩
  rcases eq_or_lt_of_mem_landings v _ hmissing with heq | ⟨_, _, -, heq, -⟩ <;> cases heq

/-- **No item stands in for its array**: a value that is asked to be what it is answers for
itself. -/
theorem equalAt_self_iff (v : Value) : EqualAt v v [] ↔ v.equals v = true := by
  rw [equalAt_nil_iff]
  constructor
  · rintro ⟨w, hw, hmatch⟩
    rcases eq_or_lt_of_mem_landings v _ hw with heq | ⟨items, _, rfl, heq, hlt⟩
    · rwa [Landing.reached.inj heq, matchesOperand_self] at hmatch
    · rw [matchesOperand_array] at hmatch
      rw [← Landing.reached.inj heq] at hlt
      exact absurd (length_parts_of_equals _ _ hmatch) (Nat.ne_of_lt hlt)
  · intro h
    exact ⟨v, self_mem_landings v, (matchesOperand_self v).trans h⟩

end Value

/-- A key without dots leads from a document to the value under it. -/
theorem equalAt_ofName_iff {entries : Entries} {key : String} {v : Value}
    (hdots : '.' ∉ key.toList) (hv : entries.get? key = some v) (operand : Value) :
    EqualAt operand (.object entries) (.ofName key) ↔ EqualAt operand v [] := by
  have hlandings : (Value.object entries).landings .items [.ofKey key] = v.landings .items [] := by
    rw [Value.landings_object_cons]
    simp only [Step.ofKey, hv]
  rw [EqualAt, EqualAt, Route.ofName_of_not_mem hdots, Value.Meets, Value.Meets, hlandings]

theorem entryHolds_literal_iff {key : String} {v : Value} (hkey : Connective.ofWord? key = none)
    (hv : ∀ entries, v = .object entries → isExpression entries = false) (doc : Value) :
    EntryHolds key v doc ↔ EqualAt v doc (.ofName key) :=
  (selects_singleton_iff key v doc).symm.trans (selects_fieldQuery_literal hkey hv doc)

/-- The entry is a plain field when a document is read as a query. -/
def IsPlainField (e : String × Value) : Prop :=
  '.' ∉ e.1.toList ∧ Connective.ofWord? e.1 = none ∧
    ∀ entries, e.2 = .object entries → isExpression entries = false

/-- **A document matches itself** as a query, if its fields are plain, unless something in it, at
any depth, equals nothing. -/
theorem Filter.accepts_self_iff {entries : Entries} (hkeys : (Entries.keys entries).Nodup)
    (hplain : ∀ e ∈ entries, IsPlainField e) :
    (Filter.ofQuery (.object entries)).accepts (.object entries) = true ↔
      (Value.object entries).Everywhere (¬ Value.EqualsNothing ·) := by
  have hparts : (Value.object entries).Everywhere (¬ Value.EqualsNothing ·) ↔
      ∀ e ∈ entries, e.2.Everywhere (¬ Value.EqualsNothing ·) := by
    rw [Value.Everywhere, Value.parts, Value.entryParts_eq_flatMap, List.forall_mem_cons,
      List.forall_mem_flatMap]
    exact and_iff_right id
  have hentries : (Value.object entries).Selects (.object entries) ↔
      ∀ e ∈ entries, e.2.equals e.2 = true := by
    rw [selects_object_iff]
    refine forall₂_congr fun e he => ?_
    obtain ⟨hdots, hkey, hv⟩ := hplain e he
    have hget := (Entries.get?_eq_some_iff hkeys).mpr he
    rw [entryHolds_literal_iff hkey hv, equalAt_ofName_iff hdots hget, Value.equalAt_self_iff]
  rw [hparts]
  exact hentries.trans (forall₂_congr fun e _ => e.2.equals_self_iff)

/-- A word that is no number keeps a document from matching itself, also from an array inside an
array. -/
theorem Filter.accepts_self_iff_of_nested :
    let entries : Entries :=
      [("a", .array [.integer 1, .array [.float .notANumber]]), ("b", .string "x")]
    (Entries.keys entries).Nodup ∧ (∀ e ∈ entries, IsPlainField e) ∧
      (Filter.ofQuery (.object entries)).accepts (.object entries) ≠ true := by
  intro entries
  have hkeys : (Entries.keys entries).Nodup := by decide
  have hplain : ∀ e ∈ entries, IsPlainField e := by
    rw [List.forall_mem_cons, List.forall_mem_singleton]
    exact ⟨⟨by decide, rfl, nofun⟩, ⟨by decide, rfl, nofun⟩⟩
  have hpart : .float .notANumber ∈ (Value.object entries).parts :=
    List.mem_cons_of_mem _ (List.mem_cons_of_mem _ (List.mem_cons_of_mem _
      (List.mem_cons_of_mem _ (List.mem_cons_self ..))))
  have hiff := accepts_self_iff hkeys hplain
  exact ⟨hkeys, hplain, fun h => hiff.mp h _ hpart (by decide)⟩

end DocumentFilter
