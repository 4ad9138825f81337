import DocumentFilter.Proofs.Document.Equality

/-! Values that are equal to themselves.

Equality is by value, but two kinds of scalars equal nothing at all: a word that is not a number,
and a timestamp with a zone whose instant the calendar does not have. A value with one of them in
it, at any depth, is not equal to itself, and every other value is. Equal values have equally many
parts, so none is equal to a part of its own. -/
namespace DocumentFilter

namespace Value

/-- The scalar equals nothing, not even itself. -/
def EqualsNothing : Value → Prop
  | float x => x.isNaN = true
  | datetime t => t.offset.isSome = true ∧ t.instant? = none
  | _ => False

instance : DecidablePred EqualsNothing
  | float x => inferInstanceAs (Decidable (x.isNaN = true))
  | datetime t => inferInstanceAs (Decidable (t.offset.isSome = true ∧ t.instant? = none))
  | null | boolean _ | integer _ | decimal _ | string _ | date _ | uuid _ | regex _ | array _
  | object _ => inferInstanceAs (Decidable False)

/-! ### Scalars -/

theorem compare_float_self_iff (x : Binary64) :
    x.compare x = some .eq ↔ ¬ (float x).EqualsNothing := by
  rw [EqualsNothing, Binary64.compare]
  cases x.isNaN <;> simp

theorem compare_timestamp_self_iff (t : Timestamp) :
    t.compare t = some .eq ↔ ¬ (datetime t).EqualsNothing := by
  have hself (w : WallClock) : w.compare w = .eq := Std.ReflCmp.compare_self
  rw [EqualsNothing, Timestamp.compare]
  cases t.offset with
  | none => simp [hself]
  | some offset => cases t.instant? <;> simp [hself]

/-! ### Values and their parts -/

theorem everywhere_scalar_iff {p : Value → Prop} {v : Value} (h : v.parts = [v]) :
    v.Everywhere p ↔ p v := by
  rw [Everywhere, h, List.forall_mem_singleton]

mutual

/-- **A value is equal to itself just when nothing in it equals nothing.** -/
theorem equals_self_iff (v : Value) : v.equals v = true ↔ v.Everywhere (¬ EqualsNothing ·) := by
  cases v with
  | null =>
    rw [everywhere_scalar_iff rfl]
    exact iff_of_true rfl id
  | integer n =>
    have hself : Ord.compare n.toInt n.toInt = .eq := Std.ReflCmp.compare_self
    rw [everywhere_scalar_iff rfl, equals_of_number rfl]
    exact iff_of_true (beq_iff_eq.mpr (congrArg some hself)) id
  | float x =>
    rw [everywhere_scalar_iff rfl, ← compare_float_self_iff]
    exact beq_iff_eq
  | decimal d =>
    have hself : d.compare d = .eq := Std.ReflCmp.compare_self
    rw [everywhere_scalar_iff rfl, equals_of_number rfl]
    exact iff_of_true (beq_iff_eq.mpr (congrArg some hself)) id
  | datetime t =>
    rw [everywhere_scalar_iff rfl, ← compare_timestamp_self_iff]
    exact beq_iff_eq
  | array items =>
    rw [Everywhere, parts, List.forall_mem_cons]
    exact (equalItems_self_iff items).trans (and_iff_right id).symm
  | object entries =>
    rw [Everywhere, parts, List.forall_mem_cons]
    exact (equalEntries_self_iff entries).trans (and_iff_right id).symm
  | _ =>
    rw [everywhere_scalar_iff rfl]
    exact iff_of_true (beq_self_eq_true _) id
  termination_by structural v

theorem equalItems_self_iff (items : List Value) :
    equalItems items items = true ↔ ∀ w ∈ itemParts items, ¬ w.EqualsNothing := by
  cases items with
  | nil => exact iff_of_true rfl nofun
  | cons v rest =>
    rw [equalItems, Bool.and_eq_true, itemParts, List.forall_mem_append, equals_self_iff v,
      equalItems_self_iff rest, Everywhere]
  termination_by structural items

theorem equalEntries_self_iff (entries : Entries) :
    equalEntries entries entries = true ↔ ∀ w ∈ entryParts entries, ¬ w.EqualsNothing := by
  cases entries with
  | nil => exact iff_of_true rfl nofun
  | cons e rest =>
    obtain ⟨key, v⟩ := e
    rw [equalEntries, beq_self_eq_true, Bool.true_and, Bool.and_eq_true, entryParts,
      List.forall_mem_append, equals_self_iff v, equalEntries_self_iff rest, Everywhere]
  termination_by structural entries

end

/-! ### Equal values have equally many parts -/

mutual

theorem length_parts_of_equals (a b : Value) (h : a.equals b = true) :
    a.parts.length = b.parts.length := by
  cases a with
  | array xs =>
    cases b with
    | array ys => exact congrArg (· + 1) (length_itemParts_of_equals xs ys h)
    | _ => cases h
  | object xs =>
    cases b with
    | object ys => exact congrArg (· + 1) (length_entryParts_of_equals xs ys h)
    | _ => cases h
  | _ =>
    cases b with
    | array _ | object _ => cases h
    | _ => rfl
  termination_by structural a

theorem length_itemParts_of_equals (xs ys : List Value) (h : equalItems xs ys = true) :
    (itemParts xs).length = (itemParts ys).length := by
  cases xs with
  | nil =>
    cases ys with
    | nil => rfl
    | cons y ys => cases h
  | cons x xs =>
    cases ys with
    | nil => cases h
    | cons y ys =>
      rw [equalItems, Bool.and_eq_true] at h
      rw [itemParts, itemParts, List.length_append, List.length_append,
        length_parts_of_equals x y h.1, length_itemParts_of_equals xs ys h.2]
  termination_by structural xs

theorem length_entryParts_of_equals (xs ys : Entries) (h : equalEntries xs ys = true) :
    (entryParts xs).length = (entryParts ys).length := by
  cases xs with
  | nil =>
    cases ys with
    | nil => rfl
    | cons f ys => cases h
  | cons e xs =>
    cases ys with
    | nil => cases h
    | cons f ys =>
      obtain ⟨k, x⟩ := e
      obtain ⟨l, y⟩ := f
      rw [equalEntries, Bool.and_eq_true, Bool.and_eq_true] at h
      rw [entryParts, entryParts, List.length_append, List.length_append,
        length_parts_of_equals x y h.1.2, length_entryParts_of_equals xs ys h.2]
  termination_by structural xs

end

theorem length_parts_lt_of_item {items : List Value} {v : Value} (hv : v ∈ items) :
    v.parts.length < (array items).parts.length := by
  have hsub : v.parts.length ≤ (items.flatMap parts).length :=
    (List.sublist_flatten_of_mem (List.mem_map_of_mem hv)).length_le
  rw [parts, itemParts_eq_flatMap, List.length_cons]
  omega

end Value

end DocumentFilter
