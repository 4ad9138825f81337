import DocumentFilter.Document.Alignment
import DocumentFilter.Document.Order

/-! The mirror law of the order.

Comparing two values the other way round gives the reverse order, or none where there was
none; equality does not depend on the side. Scalars bring this from the orders of
numbers, texts and times; at containers it is carried along to the first difference. -/
namespace DocumentFilter

/-! ### Dates and times -/

theorem Date.compare_swap (a b : Date) : b.compare a = (a.compare b).swap := by
  simp only [Date.compare, Ordering.swap_then, Int.compare_swap, Nat.compare_swap]

theorem TimeOfDay.compare_swap (a b : TimeOfDay) : b.compare a = (a.compare b).swap := by
  simp only [TimeOfDay.compare, Ordering.swap_then, Nat.compare_swap]

theorem WallClock.compare_swap (a b : WallClock) : b.compare a = (a.compare b).swap := by
  simp only [WallClock.compare, Ordering.swap_then, Date.compare_swap a.date,
    TimeOfDay.compare_swap a.time]

theorem Timestamp.compare_swap (a b : Timestamp) :
    b.compare a = (a.compare b).map Ordering.swap := by
  unfold Timestamp.compare
  cases a.offset <;> cases b.offset
  · simp [WallClock.compare_swap a.wall]
  · rfl
  · rfl
  · cases a.instant? with
    | none => cases b.instant? <;> rfl
    | some u =>
      cases b.instant? with
      | none => rfl
      | some v => simp [WallClock.compare_swap u v]

theorem Uuid.compare_swap (a b : Uuid) : b.compare a = (a.compare b).swap := by
  rw [Uuid.compare, Uuid.compare, Nat.compare_swap]

/-! ### Numbers -/

theorem Binary64.compare_swap (x y : Binary64) : y.compare x = (x.compare y).map Ordering.swap := by
  rw [Binary64.compare, Binary64.compare, Bool.or_comm]
  split
  · rfl
  · rw [Option.map_some, Int.compare_swap]

theorem Decimal.compare_swap (a b : Decimal) : b.compare a = (a.compare b).swap := by
  rw [Decimal.compare, Decimal.compare, Int.compare_swap]

namespace Number

theorem compare_decimal (n : Number) (d : Decimal) :
    n.compare (decimal d) = n.decimal?.map fun e => e.compare d := by
  cases n <;> rfl

theorem decimal_compare (d : Decimal) (n : Number) :
    (decimal d).compare n = n.decimal?.map fun e => d.compare e := rfl

theorem compare_swap (m n : Number) : n.compare m = (m.compare n).map Ordering.swap := by
  -- Whichever side is a decimal, both are compared as decimals.
  have hleft (d : Decimal) (n : Number) :
      n.compare (decimal d) = ((decimal d).compare n).map Ordering.swap := by
    rw [compare_decimal, decimal_compare]
    cases n.decimal? with
    | none => rfl
    | some e => exact congrArg some (d.compare_swap e)
  have hright (m : Number) (e : Decimal) :
      (decimal e).compare m = (m.compare (decimal e)).map Ordering.swap := by
    rw [compare_decimal, decimal_compare]
    cases m.decimal? with
    | none => rfl
    | some d => exact congrArg some (d.compare_swap e)
  cases m with
  | decimal d => exact hleft d n
  | integer i =>
    cases n with
    | integer j => simp [compare, Int.compare_swap]
    | float y => exact Binary64.compare_swap ..
    | decimal e => exact hright _ e
  | float x =>
    cases n with
    | integer j => exact Binary64.compare_swap ..
    | float y => exact Binary64.compare_swap ..
    | decimal e => exact hright _ e

end Number

/-! ### Values -/

namespace Value

theorem compare_of_number {a : Value} {m : Number} (h : a.number? = some m) (b : Value) :
    a.compare b = b.number?.bind fun n => m.compare n := by
  cases a <;> cases h <;> cases b <;> rfl

theorem compare_number {b : Value} {n : Number} (h : b.number? = some n) (a : Value) :
    a.compare b = a.number?.bind fun m => m.compare n := by
  cases b <;> cases h <;> cases a <;> rfl

theorem compare_swap_of_number {a : Value} {m : Number} (h : a.number? = some m) (b : Value) :
    b.compare a = (a.compare b).map Ordering.swap := by
  rw [compare_of_number h, compare_number h]
  cases b.number? with
  | none => rfl
  | some n => exact m.compare_swap n

mutual

theorem compare_swap (a b : Value) : b.compare a = (a.compare b).map Ordering.swap := by
  cases a with
  | null => cases b <;> rfl
  | boolean x =>
    cases b with
    | boolean y => exact congrArg some Std.OrientedOrd.eq_swap
    | _ => rfl
  | integer _ | float _ | decimal _ => exact compare_swap_of_number rfl b
  | string s =>
    cases b with
    | string t => exact congrArg some Std.OrientedOrd.eq_swap
    | _ => rfl
  | date d =>
    cases b with
    | date e => exact congrArg some (d.compare_swap e)
    | _ => rfl
  | datetime t =>
    cases b with
    | datetime u => exact t.compare_swap u
    | _ => rfl
  | uuid u =>
    cases b with
    | uuid v => exact congrArg some (u.compare_swap v)
    | _ => rfl
  | regex p => cases b <;> rfl
  | array xs =>
    cases b with
    | array ys => exact compareItems_swap xs ys
    | _ => rfl
  | object xs =>
    cases b with
    | object ys => exact compareEntries_swap xs ys
    | _ => rfl

theorem compareItems_swap (xs ys : List Value) :
    compareItems ys xs = (compareItems xs ys).map Ordering.swap := by
  cases xs with
  | nil => cases ys <;> rfl
  | cons x xs =>
    cases ys with
    | nil => rfl
    | cons y ys =>
      rw [compareItems, compareItems, compare_swap x y]
      rcases x.compare y with _ | _ | _ | _
      · rfl
      · rfl
      · exact compareItems_swap xs ys
      · rfl

theorem compareEntries_swap (xs ys : Entries) :
    compareEntries ys xs = (compareEntries xs ys).map Ordering.swap := by
  cases xs with
  | nil => cases ys <;> rfl
  | cons e xs =>
    cases ys with
    | nil => rfl
    | cons f ys =>
      obtain ⟨k, x⟩ := e
      obtain ⟨l, y⟩ := f
      rw [compareEntries, compareEntries]
      by_cases h : k = l
      · rw [if_pos h, if_pos h.symm, compare_swap x y]
        rcases x.compare y with _ | _ | _ | _
        · rfl
        · rfl
        · exact compareEntries_swap xs ys
        · rfl
      · rw [if_neg h, if_neg (Ne.symm h)]
        exact congrArg some Std.OrientedOrd.eq_swap

end

/-! ### Equality -/

theorem map_swap_beq_eq (o : Option Ordering) :
    (o.map Ordering.swap == some .eq) = (o == some .eq) := by
  rcases o with _ | _ | _ | _ <;> rfl

theorem equals_of_number {a : Value} {m : Number} (h : a.number? = some m) (b : Value) :
    a.equals b = b.number?.any fun n => m.compare n == some .eq := by
  cases a <;> cases h <;> cases b <;> rfl

theorem equals_number {b : Value} {n : Number} (h : b.number? = some n) (a : Value) :
    a.equals b = a.number?.any fun m => m.compare n == some .eq := by
  cases b <;> cases h <;> cases a <;> rfl

theorem equals_comm_of_number {a : Value} {m : Number} (h : a.number? = some m) (b : Value) :
    a.equals b = b.equals a := by
  rw [equals_of_number h, equals_number h]
  cases b.number? with
  | none => rfl
  | some n => rw [Option.any_some, Option.any_some, m.compare_swap n, map_swap_beq_eq]

mutual

theorem equals_comm (a b : Value) : a.equals b = b.equals a := by
  cases a with
  | null => cases b <;> rfl
  | boolean x =>
    cases b with
    | boolean y => exact BEq.comm
    | _ => rfl
  | integer _ | float _ | decimal _ => exact equals_comm_of_number rfl b
  | string s =>
    cases b with
    | string t => exact BEq.comm
    | _ => rfl
  | date d =>
    cases b with
    | date e => exact BEq.comm
    | _ => rfl
  | datetime t =>
    cases b with
    | datetime u => rw [equals, equals, t.compare_swap u, map_swap_beq_eq]
    | _ => rfl
  | uuid u =>
    cases b with
    | uuid v => exact BEq.comm
    | _ => rfl
  | regex p =>
    cases b with
    | regex q => exact BEq.comm
    | _ => rfl
  | array xs =>
    cases b with
    | array ys => exact equalItems_comm xs ys
    | _ => rfl
  | object xs =>
    cases b with
    | object ys => exact equalEntries_comm xs ys
    | _ => rfl

theorem equalItems_comm (xs ys : List Value) : equalItems xs ys = equalItems ys xs := by
  cases xs with
  | nil => cases ys <;> rfl
  | cons x xs =>
    cases ys with
    | nil => rfl
    | cons y ys => rw [equalItems, equalItems, equals_comm x y, equalItems_comm xs ys]

theorem equalEntries_comm (xs ys : Entries) : equalEntries xs ys = equalEntries ys xs := by
  cases xs with
  | nil => cases ys <;> rfl
  | cons e xs =>
    cases ys with
    | nil => rfl
    | cons f ys =>
      obtain ⟨k, x⟩ := e
      obtain ⟨l, y⟩ := f
      rw [equalEntries, equalEntries, equals_comm x y, equalEntries_comm xs ys, BEq.comm (a := k)]

end

/-! ### Alignment -/

/-- A rule for one side has its counterpart for the other. -/
theorem align_swap (a b : Value) : b.align a = (a.align b).swap := by
  cases a <;> cases b <;> rfl

end Value

end DocumentFilter
