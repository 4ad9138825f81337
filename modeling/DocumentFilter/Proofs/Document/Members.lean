import DocumentFilter.Document.Value
import Mathlib.Data.List.Forall2

/-! Members of arrays and objects.

The value under a key is among the entries, and every member is smaller than what it is
a member of; the latter is what recursion into values goes by. Where the members of two lists are
related one by one, each has its partner. -/
namespace DocumentFilter

namespace Entries

theorem get?_cons (k : String) (v : Value) (entries : Entries) (key : String) :
    get? ((k, v) :: entries) key = if k = key then some v else get? entries key := by
  unfold get?
  rw [List.lookup_cons]
  by_cases h : k = key
  · subst h
    simp
  · have hne : (key == k) = false := by simpa using fun e : key = k => h e.symm
    rw [hne, if_neg h]

theorem mem_of_get? {entries : Entries} {key : String} {v : Value}
    (h : entries.get? key = some v) : (key, v) ∈ entries := by
  induction entries with
  | nil => exact nomatch h
  | cons e rest ih =>
    obtain ⟨k, w⟩ := e
    rw [get?_cons] at h
    split at h
    · next hk =>
      cases h
      subst hk
      exact List.mem_cons_self ..
    · exact List.mem_cons_of_mem _ (ih h)

theorem get?_isSome_iff {entries : Entries} {key : String} :
    (entries.get? key).isSome = true ↔ key ∈ keys entries := by
  induction entries with
  | nil => exact iff_of_false nofun List.not_mem_nil
  | cons e rest ih =>
    obtain ⟨k, w⟩ := e
    rw [get?_cons, keys, List.map_cons, List.mem_cons, eq_comm (a := key)]
    split
    · next hk => exact iff_of_true rfl (.inl hk)
    · next hk => rw [ih, or_iff_right hk, keys]

/-- Where each key occurs once, any entry is the one under its key. -/
theorem get?_eq_some_iff {entries : Entries} (h : (keys entries).Nodup) {key : String} {v : Value} :
    entries.get? key = some v ↔ (key, v) ∈ entries := by
  refine ⟨mem_of_get?, fun hmem => ?_⟩
  induction entries with
  | nil => cases hmem
  | cons e rest ih =>
    obtain ⟨k, w⟩ := e
    rw [keys, List.map_cons, List.nodup_cons] at h
    rw [get?_cons]
    rcases List.mem_cons.mp hmem with heq | hrest
    · cases heq
      exact if_pos rfl
    · have hne : k ≠ key := by
        rintro rfl
        exact h.1 (List.mem_map.mpr ⟨_, hrest, rfl⟩)
      rw [if_neg hne]
      exact ih h.2 hrest

theorem sizeOf_lt_of_mem {entries : Entries} {e : String × Value} (h : e ∈ entries) :
    sizeOf e.2 < sizeOf entries := by
  have hlt := List.sizeOf_lt_of_mem h
  have hpair : sizeOf e = 1 + sizeOf e.1 + sizeOf e.2 := rfl
  omega

end Entries

namespace Value

theorem sizeOf_lt_of_get? {entries : Entries} {key : String} {v : Value}
    (h : entries.get? key = some v) : sizeOf v < sizeOf (object entries) := by
  have hlt : sizeOf v < sizeOf entries := Entries.sizeOf_lt_of_mem (Entries.mem_of_get? h)
  simp only [object.sizeOf_spec]
  omega

theorem sizeOf_lt_of_mem {items : List Value} {v : Value} (h : v ∈ items) :
    sizeOf v < sizeOf (array items) := by
  have hlt := List.sizeOf_lt_of_mem h
  simp only [array.sizeOf_spec]
  omega

end Value

theorem exists_of_forall₂ {α : Type} {R : α → α → Prop} {xs ys : List α}
    (h : List.Forall₂ R xs ys) {x : α} (hx : x ∈ xs) : ∃ y ∈ ys, R x y := by
  induction h with
  | nil => cases hx
  | @cons _ y _ ys hxy _ ih =>
    rcases List.mem_cons.mp hx with rfl | hrest
    · exact ⟨y, List.mem_cons_self .., hxy⟩
    · obtain ⟨z, hz, hr⟩ := ih hrest
      exact ⟨z, List.mem_cons_of_mem y hz, hr⟩

/-- The second list may have members more. -/
theorem exists_of_sublistForall₂ {α : Type} {R : α → α → Prop} {xs ys : List α}
    (h : List.SublistForall₂ R xs ys) {x : α} (hx : x ∈ xs) : ∃ y ∈ ys, R x y := by
  obtain ⟨mid, members, hsub⟩ := List.sublistForall₂_iff.mp h
  obtain ⟨y, hy, hr⟩ := exists_of_forall₂ members hx
  exact ⟨y, hsub.mem hy, hr⟩

end DocumentFilter
