import DocumentFilter.Document.Order

/-! The order of containers, one member at a time.

Two containers stand as their first members do, and only a tie passes the question on to the
rest. An entry of an object asks twice: first by its key, then by its value. -/
namespace DocumentFilter

/-- The verdict of a comparison, or that of the next one after a tie. -/
def orOnTie (first next : Option Ordering) : Option Ordering :=
  match first with
  | some .eq => next
  | decided => decided

@[simp] theorem orOnTie_eq (next : Option Ordering) : orOnTie (some .eq) next = next := rfl

@[simp] theorem orOnTie_lt (next : Option Ordering) : orOnTie (some .lt) next = some .lt := rfl

@[simp] theorem orOnTie_gt (next : Option Ordering) : orOnTie (some .gt) next = some .gt := rfl

@[simp] theorem orOnTie_none (next : Option Ordering) : orOnTie none next = none := rfl

theorem orOnTie_of_ne {first : Option Ordering} (h : first ≠ some .eq) (next : Option Ordering) :
    orOnTie first next = first := by
  rcases first with _ | _ | _ | _
  · rfl
  · rfl
  · exact absurd rfl h
  · rfl

/-- A verdict that does not go down is one up at once, or comes after a tie. -/
theorem orOnTie_eq_some {first next : Option Ordering} {o : Ordering}
    (h : orOnTie first next = some o) (ho : o ≠ .gt) :
    (first = some .lt ∧ o = .lt) ∨ (first = some .eq ∧ next = some o) := by
  rcases first with _ | _ | _ | _
  · cases h
  · exact .inl ⟨rfl, (Option.some.inj h).symm⟩
  · exact .inr ⟨rfl, h⟩
  · exact absurd (Option.some.inj h).symm ho

theorem orOnTie_eq_some_eq_iff {first next : Option Ordering} :
    orOnTie first next = some .eq ↔ first = some .eq ∧ next = some .eq := by
  rcases first with _ | _ | _ | _ <;> simp

namespace Value

theorem compareItems_cons (x y : Value) (xs ys : List Value) :
    compareItems (x :: xs) (y :: ys) = orOnTie (x.compare y) (compareItems xs ys) := by
  rw [compareItems]
  rcases x.compare y with _ | _ | _ | _ <;> rfl

theorem compareEntries_cons (k l : String) (x y : Value) (xs ys : Entries) :
    compareEntries ((k, x) :: xs) ((l, y) :: ys) =
      orOnTie (some (Ord.compare k l)) (orOnTie (x.compare y) (compareEntries xs ys)) := by
  rw [compareEntries]
  by_cases h : k = l
  · have htie : Ord.compare k l = .eq := Std.LawfulEqOrd.compare_eq_iff_eq.mpr h
    rw [if_pos h, htie, orOnTie_eq]
    rcases x.compare y with _ | _ | _ | _ <;> rfl
  · have hne : Ord.compare k l ≠ .eq := fun e => h (Std.LawfulEqOrd.eq_of_compare e)
    rw [if_neg h]
    cases hkeys : Ord.compare k l with
    | eq => exact absurd hkeys hne
    | lt | gt => rfl

end Value

end DocumentFilter
