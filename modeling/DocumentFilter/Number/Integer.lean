/-! Integers of 64 bits among all integers. -/
namespace DocumentFilter

/-- A 64-bit integer, where the number is one. -/
def int64? (n : Int) : Option Int64 :=
  if -0x8000000000000000 ≤ n ∧ n < 0x8000000000000000 then some (.ofInt n) else none

theorem toInt_of_int64? {n : Int} {k : Int64} (h : int64? n = some k) : k.toInt = n := by
  unfold int64? at h
  split at h
  · next bounds =>
    rw [← Option.some.inj h]
    exact Int64.toInt_ofInt_of_le bounds.1 bounds.2
  · exact nomatch h

theorem int64?_toInt (k : Int64) : int64? k.toInt = some k := by
  rw [int64?, if_pos ⟨k.le_toInt, k.toInt_lt⟩, Int64.ofInt_toInt]

end DocumentFilter
