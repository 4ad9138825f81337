import DocumentFilter.Proofs.Number.Digits
import Mathlib.Data.List.Induction
import Mathlib.Data.Nat.Digits.Defs

/-! Runs of digits and the numbers that they denote.

A run may have leading zeros, so many runs denote one number; but a run denotes one number only, and
its length and the number give it back (`Denotes.eq_fixed`). -/
namespace DocumentFilter.Digits

/-- The text is a run of decimal digits, and `n` is the number that they write. -/
def Denotes (cs : List Char) (n : Nat) : Prop :=
  ∃ ds : List Nat, ds ≠ [] ∧ (∀ d ∈ ds, d < 10) ∧ cs = ds.map Nat.digitChar ∧
    Nat.ofDigits 10 ds.reverse = n

theorem digit?_eq_some_iff {c : Char} {d : Nat} :
    digit? c = some d ↔ d < 10 ∧ c = Nat.digitChar d := by
  constructor
  · intro h
    have hc := toNat_of_digit? h
    unfold digit? at h
    split at h
    · have hd : c.toNat - 48 = d := Option.some.inj h
      have hlt : d < 10 := by omega
      refine ⟨hlt, Char.toNat_inj.mp ?_⟩
      rw [Nat.toNat_digitChar_of_lt_ten hlt]
      omega
    · cases h
  · rintro ⟨hd, rfl⟩
    exact digit?_digitChar hd

/-- One more digit makes the number ten times as large before the digit is added. -/
theorem ofDigits_reverse_append (ds : List Nat) (d : Nat) :
    Nat.ofDigits 10 (ds ++ [d]).reverse = Nat.ofDigits 10 ds.reverse * 10 + d := by
  rw [List.reverse_append, List.reverse_singleton, List.singleton_append, Nat.ofDigits_cons]
  omega

theorem foldlM_appendDigit_append (cs : List Char) (c : Char) (value : Nat) :
    (cs ++ [c]).foldlM appendDigit value =
      (cs.foldlM appendDigit value).bind fun read => appendDigit read c := by
  rw [List.foldlM_append]
  simp only [List.foldlM_cons, List.foldlM_nil, bind_pure, Option.bind_eq_bind]

theorem foldlM_appendDigit_eq_some_iff {cs : List Char} {n : Nat} :
    cs.foldlM appendDigit 0 = some n ↔
      ∃ ds : List Nat, (∀ d ∈ ds, d < 10) ∧ cs = ds.map Nat.digitChar ∧
        Nat.ofDigits 10 ds.reverse = n := by
  induction cs using List.reverseRecOn generalizing n with
  | nil =>
    constructor
    · rintro ⟨⟩
      exact ⟨[], nofun, rfl, rfl⟩
    · rintro ⟨ds, -, hcs, rfl⟩
      rw [List.map_eq_nil_iff.mp hcs.symm]
      rfl
  | append_singleton cs c ih =>
    rw [foldlM_appendDigit_append, Option.bind_eq_some_iff]
    constructor
    · rintro ⟨value, hvalue, hlast⟩
      obtain ⟨d, hd, rfl⟩ := Option.map_eq_some_iff.mp hlast
      obtain ⟨hlt, rfl⟩ := digit?_eq_some_iff.mp hd
      obtain ⟨ds, hds, rfl, rfl⟩ := ih.mp hvalue
      refine ⟨ds ++ [d], ?_, by rw [List.map_append]; rfl, ofDigits_reverse_append ds d⟩
      exact List.forall_mem_append.mpr ⟨hds, List.forall_mem_singleton.mpr hlt⟩
    · rintro ⟨ds, hds, hcs, rfl⟩
      obtain ⟨init, last, rfl, rfl, hlast⟩ := List.map_eq_append_iff.mp hcs.symm
      obtain ⟨d, rfl, rfl⟩ := List.map_eq_singleton_iff.mp hlast
      obtain ⟨hinit, hlt⟩ := List.forall_mem_append.mp hds
      refine ⟨_, ih.mpr ⟨init, hinit, rfl, rfl⟩, ?_⟩
      rw [appendDigit, digit?_digitChar (hlt d (List.mem_singleton_self d)),
        ofDigits_reverse_append, Option.map_some]

/-- **A text is read as the number that it denotes**, and as none when it is no run of digits. -/
theorem number?_eq_some_iff {cs : List Char} {n : Nat} : number? cs = some n ↔ Denotes cs n := by
  by_cases hcs : cs = []
  · subst hcs
    refine iff_of_false nofun ?_
    rintro ⟨ds, hne, -, hds, -⟩
    exact hne (List.map_eq_nil_iff.mp hds.symm)
  · rw [number?_of_ne_nil hcs, foldlM_appendDigit_eq_some_iff]
    constructor
    · rintro ⟨ds, hds, rfl, hn⟩
      exact ⟨ds, fun hnil => hcs (by rw [hnil, List.map_nil]), hds, rfl, hn⟩
    · rintro ⟨ds, -, hds⟩
      exact ⟨ds, hds⟩

namespace Denotes

variable {cs : List Char} {n : Nat}

theorem lt (h : Denotes cs n) : n < Nat.pow 10 cs.length := by
  obtain ⟨ds, -, hds, rfl, rfl⟩ := h
  rw [List.length_map, ← List.length_reverse]
  exact Nat.ofDigits_lt_base_pow_length (by decide) fun d hd => hds d (List.mem_reverse.mp hd)

/-- The number in the width of the run is the run. -/
theorem eq_fixed (h : Denotes cs n) : cs = fixed cs.length n := by
  obtain ⟨ds, -, hds, rfl, rfl⟩ := h
  induction ds using List.reverseRecOn with
  | nil => rfl
  | append_singleton ds d ih =>
    obtain ⟨hinit, hlast⟩ := List.forall_mem_append.mp hds
    have hlt : d < 10 := hlast d (List.mem_singleton_self d)
    rw [List.length_map, List.length_append, List.length_singleton, fixed, ofDigits_reverse_append,
      show (Nat.ofDigits 10 ds.reverse * 10 + d) / 10 = Nat.ofDigits 10 ds.reverse by omega,
      show (Nat.ofDigits 10 ds.reverse * 10 + d) % 10 = d by omega, List.map_append]
    have hih := ih hinit
    rw [List.length_map] at hih
    rw [← hih]
    rfl

end Denotes

end DocumentFilter.Digits
