import DocumentFilter.Document.Order

/-! The orders of scalars are total orders.

Each compares a few numbers one after the other, so it is transitive because those of the
numbers are. Only of the same day or identifier does the comparison say that they are equal;
decimals that differ only in their places stand level. -/
namespace DocumentFilter

open Std (TransCmp OrientedCmp LawfulEqCmp LawfulEqOrd)

/-- The order of one part of the values. -/
theorem transCmp_on {α β : Type} (part : α → β) (cmp : β → β → Ordering) [TransCmp cmp] :
    TransCmp fun a b => cmp (part a) (part b) where
  eq_swap := OrientedCmp.eq_swap
  isLE_trans := TransCmp.isLE_trans

/-! ### Dates and times -/

instance : TransCmp Date.compare :=
  inferInstanceAs (TransCmp (compareLex (compareOn Date.year)
    (compareLex (compareOn Date.month) (compareOn Date.day))))

instance : LawfulEqCmp Date.compare where
  eq_of_compare {a b} h := by
    simp only [Date.compare, Ordering.then_eq_eq, LawfulEqOrd.compare_eq_iff_eq] at h
    obtain ⟨hyear, hmonth, hday⟩ := h
    cases a
    cases b
    simp only at hyear hmonth hday
    subst hyear hmonth hday
    rfl

instance : TransCmp TimeOfDay.compare :=
  inferInstanceAs (TransCmp (compareLex (compareOn TimeOfDay.second)
    (compareOn TimeOfDay.nanosecond)))

instance : TransCmp WallClock.compare :=
  have := transCmp_on WallClock.date Date.compare
  have := transCmp_on WallClock.time TimeOfDay.compare
  inferInstanceAs (TransCmp (compareLex (fun a b : WallClock => a.date.compare b.date)
    (fun a b : WallClock => a.time.compare b.time)))

/-! ### Identifiers -/

instance : TransCmp Uuid.compare :=
  inferInstanceAs (TransCmp (compareOn fun u : Uuid => u.bits.toNat))

instance : LawfulEqCmp Uuid.compare where
  eq_of_compare {a b} h := by
    have hbits : a.bits = b.bits := BitVec.eq_of_toNat_eq (LawfulEqOrd.eq_of_compare h)
    cases a
    cases b
    exact congrArg Uuid.mk hbits

/-! ### Decimals -/

instance : TransCmp Decimal.compare := inferInstanceAs (TransCmp (compareOn Decimal.scaled))

end DocumentFilter
