import DocumentFilter.Proofs.Document.Containers
import DocumentFilter.Proofs.Document.Mirror
import DocumentFilter.Proofs.Document.Parts
import DocumentFilter.Proofs.Document.ScalarOrder

/-! Equality is a tie in the order.

Equality and order go through two values on their own ways: one asks of every pair of members
whether they are equal, the other stops at the first pair that is not. Still the values are
equal just when the order ties them. Only patterns break this, as they are equal to themselves
but stand in no order; a pattern on one side does no harm, for nothing else is equal to it. -/
namespace DocumentFilter

namespace Value

/-- An order that tells values apart ties them when they are the same. -/
theorem beq_iff_compare {α : Type} [BEq α] [LawfulBEq α] (cmp : α → α → Ordering)
    [Std.LawfulEqCmp cmp] (x y : α) : (x == y) = true ↔ some (cmp x y) = some .eq := by
  rw [beq_iff_eq, Option.some.injEq, Std.LawfulEqCmp.compare_eq_iff_eq]

/-- Values without an order that are not equal either. -/
theorem equals_iff_of_unordered {a b : Value} (hequals : a.equals b = false)
    (hcompare : a.compare b = none) : a.equals b = true ↔ a.compare b = some .eq := by
  rw [hequals, hcompare]
  exact iff_of_false nofun nofun

theorem equals_iff_of_number {a : Value} {m : Number} (h : a.number? = some m) (b : Value) :
    a.equals b = true ↔ a.compare b = some .eq := by
  rw [equals_of_number h, compare_of_number h]
  cases b.number? with
  | none => exact iff_of_false nofun nofun
  | some n => exact beq_iff_eq

mutual

theorem equals_iff_of_lacks (a b : Value) (ha : a.Lacks .regex) :
    a.equals b = true ↔ a.compare b = some .eq := by
  cases a with
  | null =>
    cases b with
    | null => exact iff_of_true rfl rfl
    | _ => exact equals_iff_of_unordered rfl rfl
  | boolean x =>
    cases b with
    | boolean y => exact beq_iff_compare Ord.compare x y
    | _ => exact equals_iff_of_unordered rfl rfl
  | integer _ | float _ | decimal _ => exact equals_iff_of_number rfl b
  | string s =>
    cases b with
    | string t => exact beq_iff_compare Ord.compare s t
    | _ => exact equals_iff_of_unordered rfl rfl
  | date d =>
    cases b with
    | date e => exact beq_iff_compare Date.compare d e
    | _ => exact equals_iff_of_unordered rfl rfl
  | datetime t =>
    cases b with
    | datetime u => exact beq_iff_eq
    | _ => exact equals_iff_of_unordered rfl rfl
  | uuid u =>
    cases b with
    | uuid v => exact beq_iff_compare Uuid.compare u v
    | _ => exact equals_iff_of_unordered rfl rfl
  | regex p => exact absurd rfl ha.self
  | array xs =>
    cases b with
    | array ys => exact equalItems_iff_of_lacks xs ys ha.item
    | _ => exact equals_iff_of_unordered rfl rfl
  | object xs =>
    cases b with
    | object ys => exact equalEntries_iff_of_lacks xs ys ha.entry
    | _ => exact equals_iff_of_unordered rfl rfl
  termination_by structural a

theorem equalItems_iff_of_lacks (xs ys : List Value) (hx : ∀ v ∈ xs, v.Lacks .regex) :
    equalItems xs ys = true ↔ compareItems xs ys = some .eq := by
  cases xs with
  | nil => cases ys <;> simp [equalItems, compareItems]
  | cons x xs =>
    cases ys with
    | nil => simp [equalItems, compareItems]
    | cons y ys =>
      rw [List.forall_mem_cons] at hx
      rw [equalItems, compareItems_cons, Bool.and_eq_true, orOnTie_eq_some_eq_iff,
        equals_iff_of_lacks x y hx.1, equalItems_iff_of_lacks xs ys hx.2]
  termination_by structural xs

theorem equalEntries_iff_of_lacks (xs ys : Entries) (hx : ∀ e ∈ xs, e.2.Lacks .regex) :
    equalEntries xs ys = true ↔ compareEntries xs ys = some .eq := by
  cases xs with
  | nil => cases ys <;> simp [equalEntries, compareEntries]
  | cons e xs =>
    cases ys with
    | nil => simp [equalEntries, compareEntries]
    | cons f ys =>
      obtain ⟨k, x⟩ := e
      obtain ⟨l, y⟩ := f
      rw [List.forall_mem_cons] at hx
      rw [equalEntries, compareEntries_cons, Bool.and_eq_true, Bool.and_eq_true, and_assoc,
        orOnTie_eq_some_eq_iff, orOnTie_eq_some_eq_iff, beq_iff_compare Ord.compare,
        equals_iff_of_lacks x y hx.1, equalEntries_iff_of_lacks xs ys hx.2]
  termination_by structural xs

end

theorem equals_iff_of_lacks_right (a b : Value) (hb : b.Lacks .regex) :
    a.equals b = true ↔ a.compare b = some .eq := by
  rw [equals_comm, equals_iff_of_lacks b a hb, compare_swap b a]
  rcases b.compare a with _ | _ | _ | _ <;> simp

/-- **Values are equal just when the order ties them**, unless both contain patterns. -/
theorem equals_iff_compare_eq {a b : Value} (h : a.Lacks .regex ∨ b.Lacks .regex) :
    a.equals b = true ↔ a.compare b = some .eq := by
  rcases h with ha | hb
  · exact equals_iff_of_lacks a b ha
  · exact equals_iff_of_lacks_right a b hb

/-- Objects whose numbers are of different kinds. -/
theorem equals_iff_compare_eq_of_numbers :
    (object [("x", array [integer 1, null])]).Lacks .regex ∧
      (object [("x", array [integer 1, null])]).equals
        (object [("x", array [decimal ⟨10, 1, by decide, by decide⟩, null])]) = true ∧
      (object [("x", array [integer 1, null])]).compare
        (object [("x", array [decimal ⟨10, 1, by decide, by decide⟩, null])]) = some .eq := by
  have hlacks : (object [("x", array [integer 1, null])]).Lacks .regex := by decide
  have hequals : (object [("x", array [integer 1, null])]).equals
      (object [("x", array [decimal ⟨10, 1, by decide, by decide⟩, null])]) = true := by decide
  exact ⟨hlacks, hequals, (equals_iff_compare_eq (.inl hlacks)).mp hequals⟩

end Value

end DocumentFilter
