import DocumentFilter.Proofs.Document.Containers
import DocumentFilter.Proofs.Document.Mirror
import DocumentFilter.Proofs.Document.Parts
import DocumentFilter.Proofs.Document.ScalarOrder
import Mathlib.Algebra.Order.Ring.Int

/-! The order is transitive on values without floats.

The order is partial, so of three values along a chain the two ends need not be ordered just
because their neighbours are: that they are is part of the law. A chain holds of the verdicts on
scalars, survives the step from the first members of containers to the rest, and so holds of
whole values. Floats have to stay out: an integer or a decimal that becomes a float beside one
loses digits that count beside another value. -/
namespace DocumentFilter

/-- The verdicts on the pairs of a chain of three. When neither neighbour goes down, the ends
are ordered as well, by the first pair that goes up or else as equal. -/
def Chain (ab bc ac : Option Ordering) : Prop :=
  ∀ o p, ab = some o → bc = some p → o ≠ .gt → p ≠ .gt → ac = some (o.then p)

namespace Chain

theorem of_left_none (bc ac : Option Ordering) : Chain none bc ac := by
  intro o p hab
  cases hab

theorem of_right_none (ab ac : Option Ordering) : Chain ab none ac := by
  intro o p _ hbc
  cases hbc

theorem of_left_gt (bc ac : Option Ordering) : Chain (some .gt) bc ac := by
  intro o p hab _ ho
  exact absurd (Option.some.inj hab).symm ho

theorem of_right_gt (ab ac : Option Ordering) : Chain ab (some .gt) ac := by
  intro o p _ hbc _ hp
  exact absurd (Option.some.inj hbc).symm hp

theorem of_left_lt (bc : Option Ordering) : Chain (some .lt) bc (some .lt) := by
  intro o p hab _ _ _
  obtain rfl := Option.some.inj hab
  rfl

theorem of_left_eq (bc : Option Ordering) : Chain (some .eq) bc bc := by
  intro o p hab hbc _ _
  obtain rfl := Option.some.inj hab
  exact hbc

/-- A total order chains. -/
theorem of_cmp {α : Type} (cmp : α → α → Ordering) [Std.TransCmp cmp] (a b c : α) :
    Chain (some (cmp a b)) (some (cmp b c)) (some (cmp a c)) := by
  intro o p hab hbc ho hp
  obtain rfl := Option.some.inj hab
  obtain rfl := Option.some.inj hbc
  congr 1
  cases hfirst : cmp a b with
  | lt => exact Std.TransCmp.lt_of_lt_of_isLE hfirst (Ordering.isLE_iff_ne_gt.mpr hp)
  | eq => exact Std.TransCmp.congr_left hfirst
  | gt => exact absurd hfirst ho

/-- So does a total order of what only some values have. -/
theorem of_partial {α : Type} (cmp : α → α → Ordering) [Std.TransCmp cmp] (a b c : Option α) :
    Chain (do return cmp (← a) (← b)) (do return cmp (← b) (← c)) (do return cmp (← a) (← c)) := by
  cases a with
  | none => exact of_left_none _ _
  | some x =>
    cases b with
    | none => exact of_left_none _ _
    | some y =>
      cases c with
      | none => exact of_right_none _ _
      | some z => exact of_cmp cmp x y z

/-- A tie at the first members hands the chain on to the rest, whichever pair it is at. -/
theorem onTie {ab bc ac ab' bc' ac' : Option Ordering} (first : Chain ab bc ac)
    (next : Chain ab' bc' ac') :
    Chain (orOnTie ab ab') (orOnTie bc bc') (orOnTie ac ac') := by
  intro o p hab hbc ho hp
  rcases orOnTie_eq_some hab ho with ⟨rfl, rfl⟩ | ⟨rfl, hab'⟩
  · rcases orOnTie_eq_some hbc hp with ⟨rfl, rfl⟩ | ⟨rfl, -⟩
    · rw [first .lt .lt rfl rfl ho hp]
      rfl
    · rw [first .lt .eq rfl rfl ho (by decide)]
      rfl
  · rcases orOnTie_eq_some hbc hp with ⟨rfl, rfl⟩ | ⟨rfl, hbc'⟩
    · rw [first .eq .lt rfl rfl (by decide) hp]
      cases o with
      | lt | eq => rfl
      | gt => exact absurd rfl ho
    · rw [first .eq .eq rfl rfl (by decide) (by decide)]
      exact next o p hab' hbc' ho hp

end Chain

/-! ### Timestamps and numbers -/

/-- Naive timestamps chain by wall clock and zoned ones by instant. -/
theorem Timestamp.chain (t u v : Timestamp) :
    Chain (t.compare u) (u.compare v) (t.compare v) := by
  unfold Timestamp.compare
  cases t.offset with
  | none =>
    cases u.offset with
    | none =>
      cases v.offset with
      | none => exact Chain.of_cmp WallClock.compare t.wall u.wall v.wall
      | some _ => exact Chain.of_right_none _ _
    | some _ => exact Chain.of_left_none _ _
  | some _ =>
    cases u.offset with
    | none => exact Chain.of_left_none _ _
    | some _ =>
      cases v.offset with
      | none => exact Chain.of_right_none _ _
      | some _ => exact Chain.of_partial WallClock.compare t.instant? u.instant? v.instant?

namespace Number

/-- The number on the grid of all decimals, when it is no float. -/
def grid? : Number → Option Int
  | integer n => some (Decimal.ofInt64 n).scaled
  | float _ => none
  | decimal d => some d.scaled

/-- Integers compare as the decimals that they are. -/
theorem compare_scaled_ofInt64 (m n : Int64) :
    Ord.compare (Decimal.ofInt64 m).scaled (Decimal.ofInt64 n).scaled =
      Ord.compare m.toInt n.toInt := by
  have hpos : (0 : Int) < Nat.pow 10 28 := by decide
  have hscale := cmp_mul_pos_right hpos m.toInt n.toInt
  rw [cmp_eq_compare, cmp_eq_compare] at hscale
  exact hscale

theorem compare_of_grid {m n : Number} {x y : Int} (hm : m.grid? = some x) (hn : n.grid? = some y) :
    m.compare n = some (Ord.compare x y) := by
  cases m with
  | float _ => cases hm
  | integer j =>
    cases hm
    cases n with
    | float _ => cases hn
    | integer k =>
      cases hn
      rw [compare_scaled_ofInt64]
      rfl
    | decimal e =>
      cases hn
      rfl
  | decimal d =>
    cases hm
    cases n with
    | float _ => cases hn
    | integer _ | decimal _ =>
      cases hn
      rfl

end Number

/-! ### Values -/

namespace Value

theorem exists_grid {v : Value} {n : Number} (h : v.Lacks .float) (hn : v.number? = some n) :
    ∃ x, n.grid? = some x := by
  cases v with
  | integer _ | decimal _ =>
    cases hn
    exact ⟨_, rfl⟩
  | float x => exact absurd rfl h.self
  | _ => cases hn

theorem chain_of_number {a b c : Value} {m : Number} (ha : a.Lacks .float) (hb : b.Lacks .float)
    (hc : c.Lacks .float) (hm : a.number? = some m) :
    Chain (a.compare b) (b.compare c) (a.compare c) := by
  rw [compare_of_number hm, compare_of_number hm]
  cases hn : b.number? with
  | none => exact Chain.of_left_none _ _
  | some n =>
    rw [compare_of_number hn]
    cases hk : c.number? with
    | none => exact Chain.of_right_none _ _
    | some k =>
      obtain ⟨x, hx⟩ := exists_grid ha hm
      obtain ⟨y, hy⟩ := exists_grid hb hn
      obtain ⟨z, hz⟩ := exists_grid hc hk
      simp only [Option.bind_some, Number.compare_of_grid hx hy, Number.compare_of_grid hy hz,
        Number.compare_of_grid hx hz]
      exact Chain.of_cmp Ord.compare x y z

mutual

theorem chain (a b c : Value) (ha : a.Lacks .float) (hb : b.Lacks .float) (hc : c.Lacks .float) :
    Chain (a.compare b) (b.compare c) (a.compare c) := by
  cases a with
  | null =>
    cases b with
    | null => exact Chain.of_left_eq _
    | _ => exact Chain.of_left_none _ _
  | boolean x =>
    cases b with
    | boolean y =>
      cases c with
      | boolean z => exact Chain.of_cmp Ord.compare x y z
      | _ => exact Chain.of_right_none _ _
    | _ => exact Chain.of_left_none _ _
  | integer _ | float _ | decimal _ => exact chain_of_number ha hb hc rfl
  | string s =>
    cases b with
    | string t =>
      cases c with
      | string u => exact Chain.of_cmp Ord.compare s t u
      | _ => exact Chain.of_right_none _ _
    | _ => exact Chain.of_left_none _ _
  | date d =>
    cases b with
    | date e =>
      cases c with
      | date f => exact Chain.of_cmp Date.compare d e f
      | _ => exact Chain.of_right_none _ _
    | _ => exact Chain.of_left_none _ _
  | datetime t =>
    cases b with
    | datetime u =>
      cases c with
      | datetime v => exact Timestamp.chain t u v
      | _ => exact Chain.of_right_none _ _
    | _ => exact Chain.of_left_none _ _
  | uuid u =>
    cases b with
    | uuid v =>
      cases c with
      | uuid w => exact Chain.of_cmp Uuid.compare u v w
      | _ => exact Chain.of_right_none _ _
    | _ => exact Chain.of_left_none _ _
  | regex p => cases b <;> exact Chain.of_left_none _ _
  | array xs =>
    cases b with
    | array ys =>
      cases c with
      | array zs => exact chainItems xs ys zs ha.item hb.item hc.item
      | _ => exact Chain.of_right_none _ _
    | _ => exact Chain.of_left_none _ _
  | object xs =>
    cases b with
    | object ys =>
      cases c with
      | object zs => exact chainEntries xs ys zs ha.entry hb.entry hc.entry
      | _ => exact Chain.of_right_none _ _
    | _ => exact Chain.of_left_none _ _
  termination_by structural a

theorem chainItems (xs ys zs : List Value) (hx : ∀ v ∈ xs, v.Lacks .float)
    (hy : ∀ v ∈ ys, v.Lacks .float) (hz : ∀ v ∈ zs, v.Lacks .float) :
    Chain (compareItems xs ys) (compareItems ys zs) (compareItems xs zs) := by
  cases xs with
  | nil =>
    cases ys with
    | nil => exact Chain.of_left_eq _
    | cons y ys =>
      cases zs with
      | nil => exact Chain.of_right_gt _ _
      | cons z zs => exact Chain.of_left_lt _
  | cons x xs =>
    cases ys with
    | nil => exact Chain.of_left_gt _ _
    | cons y ys =>
      cases zs with
      | nil => exact Chain.of_right_gt _ _
      | cons z zs =>
        rw [List.forall_mem_cons] at hx hy hz
        rw [compareItems_cons, compareItems_cons, compareItems_cons]
        exact (chain x y z hx.1 hy.1 hz.1).onTie (chainItems xs ys zs hx.2 hy.2 hz.2)
  termination_by structural xs

theorem chainEntries (xs ys zs : Entries) (hx : ∀ e ∈ xs, e.2.Lacks .float)
    (hy : ∀ e ∈ ys, e.2.Lacks .float) (hz : ∀ e ∈ zs, e.2.Lacks .float) :
    Chain (compareEntries xs ys) (compareEntries ys zs) (compareEntries xs zs) := by
  cases xs with
  | nil =>
    cases ys with
    | nil => exact Chain.of_left_eq _
    | cons f ys =>
      cases zs with
      | nil => exact Chain.of_right_gt _ _
      | cons g zs => exact Chain.of_left_lt _
  | cons e xs =>
    cases ys with
    | nil => exact Chain.of_left_gt _ _
    | cons f ys =>
      cases zs with
      | nil => exact Chain.of_right_gt _ _
      | cons g zs =>
        obtain ⟨k, x⟩ := e
        obtain ⟨l, y⟩ := f
        obtain ⟨m, z⟩ := g
        rw [List.forall_mem_cons] at hx hy hz
        rw [compareEntries_cons, compareEntries_cons, compareEntries_cons]
        have hkeys := Chain.of_cmp Ord.compare k l m
        have hvalues := chain x y z hx.1 hy.1 hz.1
        exact hkeys.onTie (hvalues.onTie (chainEntries xs ys zs hx.2 hy.2 hz.2))
  termination_by structural xs

end

/-- **The order is transitive** on values without floats. Of values of which each is at most the
next, the first is ordered before the last or equal to it, and equal only when all three are. -/
theorem compare_trans {a b c : Value} {o p : Ordering} (ha : a.Lacks .float) (hb : b.Lacks .float)
    (hc : c.Lacks .float) (hab : a.compare b = some o) (ho : o ≠ .gt) (hbc : b.compare c = some p)
    (hp : p ≠ .gt) : a.compare c = some (if o = .eq ∧ p = .eq then .eq else .lt) := by
  rw [chain a b c ha hb hc o p hab hbc ho hp]
  cases o with
  | lt => rfl
  | eq =>
    cases p with
    | lt | eq => rfl
    | gt => exact absurd rfl hp
  | gt => exact absurd rfl ho

/-- The first pair differs in length and the second one earlier, in a text; the integer and the
decimal between them are equal. -/
theorem compare_trans_length_and_text :
    (array [integer 1, string "x"]).compare
        (array [decimal ⟨10, 1, by decide, by decide⟩, string "x", null]) = some .lt ∧
      (array [decimal ⟨10, 1, by decide, by decide⟩, string "x", null]).compare
        (array [integer 1, string "y"]) = some .lt ∧
      (array [integer 1, string "x"]).compare (array [integer 1, string "y"]) = some .lt := by
  have hlength : (array [integer 1, string "x"]).compare
      (array [decimal ⟨10, 1, by decide, by decide⟩, string "x", null]) = some .lt := by decide
  have htext : (array [decimal ⟨10, 1, by decide, by decide⟩, string "x", null]).compare
      (array [integer 1, string "y"]) = some .lt := by decide
  exact ⟨hlength, htext, compare_trans (by decide) (by decide) (by decide) hlength (by decide)
    htext (by decide)⟩

end Value

end DocumentFilter
