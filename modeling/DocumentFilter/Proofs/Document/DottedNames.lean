import DocumentFilter.Document.Route
import DocumentFilter.Proofs.Number.DigitRuns

/-! Dotted names and their routes.

A name is cut at every dot and at nothing else, so the keys with dots between them are the name
again: two names with one route are one name. An empty name, and two dots side by side, give empty
keys. A key is an index when it is a run of digits, however many zeros lead it, and 64 bits hold
the number that the run denotes. -/
namespace DocumentFilter

open Digits (Denotes)

/-! ### Indices -/

namespace Step

theorem index_eq_some_iff {key : String} {n : Nat} :
    (ofKey key).index = some n ↔ Denotes key.toList n ∧ n ≤ 18446744073709551615 := by
  show ((Digits.number? key.toList).bind fun n => if n < 0x10000000000000000 then some n else none) =
    some n ↔ _
  rw [Option.bind_eq_some_iff]
  constructor
  · rintro ⟨m, hm, hfits⟩
    split at hfits
    · obtain rfl : m = n := Option.some.inj hfits
      exact ⟨Digits.number?_eq_some_iff.mp hm, by omega⟩
    · cases hfits
  · rintro ⟨hn, hfits⟩
    exact ⟨n, Digits.number?_eq_some_iff.mpr hn, if_pos (by omega)⟩

theorem index_eq_none_iff {key : String} :
    (ofKey key).index = none ↔ ∀ n, Denotes key.toList n → 18446744073709551615 < n := by
  rw [Option.eq_none_iff_forall_ne_some]
  refine forall_congr' fun n => ?_
  rw [Ne, index_eq_some_iff, not_and, Nat.not_le]

end Step

/-! ### Names and routes -/

namespace Route

/-- To cut at the dots is to split at them. -/
theorem cutAtDots_eq_splitOn (cs : List Char) : cutAtDots cs = cs.splitOn '.' := by
  induction cs with
  | nil => exact (List.splitOn_nil '.').symm
  | cons c rest ih =>
    rw [cutAtDots, List.splitOn_cons_eq_if_modifyHead, ih]
    by_cases hc : c = '.'
    · rw [if_pos hc, if_pos (beq_iff_eq.mpr hc)]
    · rw [if_neg hc, if_neg (mt beq_iff_eq.mp hc)]
      obtain ⟨first, more, hsplit⟩ := List.exists_cons_of_ne_nil (List.splitOn_ne_nil '.' rest)
      rw [hsplit]
      rfl

theorem not_dot_mem_of_mem_cutAtDots {cs key : List Char} (h : key ∈ cutAtDots cs) :
    '.' ∉ key := by
  induction cs generalizing key with
  | nil =>
    rw [cutAtDots, List.mem_singleton] at h
    rw [h]
    exact List.not_mem_nil
  | cons c rest ih =>
    rw [cutAtDots] at h
    split at h
    · rcases List.mem_cons.mp h with rfl | h
      · exact List.not_mem_nil
      · exact ih h
    · next hc =>
      split at h
      · rw [List.mem_singleton] at h
        rw [h, List.mem_singleton]
        exact Ne.symm hc
      · next first more hcut =>
        rw [hcut] at ih
        rcases List.mem_cons.mp h with rfl | h
        · exact List.not_mem_cons_of_ne_of_not_mem (Ne.symm hc) (ih (List.mem_cons_self ..))
        · exact ih (List.mem_cons_of_mem _ h)

theorem ofName_ne_nil (name : String) : ofName name ≠ [] := by
  rw [ofName, cutAtDots_eq_splitOn, Ne, List.map_eq_nil_iff]
  exact List.splitOn_ne_nil '.' name.toList

theorem of_mem_ofName {name : String} {step : Step} (h : step ∈ ofName name) :
    step = .ofKey step.key ∧ '.' ∉ step.key.toList := by
  obtain ⟨key, hkey, rfl⟩ := List.mem_map.mp h
  refine ⟨rfl, ?_⟩
  show '.' ∉ (String.ofList key).toList
  rw [String.toList_ofList]
  exact not_dot_mem_of_mem_cutAtDots hkey

theorem name_ofName (name : String) : (ofName name).name = name := by
  have hkeys : (ofName name).map (·.key) = (name.toList.splitOn '.').map String.ofList := by
    rw [ofName, cutAtDots_eq_splitOn, List.map_map]
    rfl
  have htexts : ((name.toList.splitOn '.').map String.ofList).map String.toList =
      name.toList.splitOn '.' := by
    rw [List.map_map]
    exact List.map_id'' (fun _ => String.toList_ofList) _
  apply String.toList_injective
  rw [Route.name, hkeys, String.toList_intercalate, htexts]
  exact List.intercalate_splitOn '.'

/-- **Names and routes say the same.** A route of a name has a step, its keys have no dots and
joined by dots they are the name, so no other name has this route. A key is an index into arrays
just when it is a run of digits for a number below two to the sixty-fourth. -/
theorem ofName_exact :
    (∀ name, ofName name ≠ [] ∧ (ofName name).name = name ∧
      ∀ step ∈ ofName name, step = .ofKey step.key ∧ '.' ∉ step.key.toList) ∧
    Function.Injective ofName ∧
    ∀ key, (∀ n, (Step.ofKey key).index = some n ↔
        Denotes key.toList n ∧ n ≤ 18446744073709551615) ∧
      ((Step.ofKey key).index = none ↔
        ∀ n, Denotes key.toList n → 18446744073709551615 < n) := by
  refine ⟨fun name => ⟨ofName_ne_nil name, name_ofName name, fun _ => of_mem_ofName⟩, ?_,
    fun _ => ⟨fun _ => Step.index_eq_some_iff, Step.index_eq_none_iff⟩⟩
  exact Function.LeftInverse.injective name_ofName

/-- An empty key, zeros in front of an index, and the first number that 64 bits do not hold. -/
theorem ofName_exact_of_wide_number :
    let name := ".007.18446744073709551616"
    (ofName name).map (·.key) = ["", "007", "18446744073709551616"] ∧
      (ofName name).name = name ∧
      Step.ofKey "007" ∈ ofName name ∧ '.' ∉ "007".toList ∧
      (Step.ofKey "007").index = some 7 ∧
      (Step.ofKey "18446744073709551616").index = none := by
  intro name
  obtain ⟨hnames, -, hindex⟩ := ofName_exact
  obtain ⟨-, hname, hsteps⟩ := hnames name
  have hmem : Step.ofKey "007" ∈ ofName name := by decide
  have hseven : Denotes "007".toList 7 := ⟨[0, 0, 7], by decide, by decide, by decide, by decide⟩
  refine ⟨by decide, hname, hmem, (hsteps _ hmem).2, ((hindex "007").1 7).mpr ⟨hseven, by decide⟩,
    (hindex "18446744073709551616").2.mpr fun n hn => ?_⟩
  have hvalue : Digits.number? "18446744073709551616".toList = some 18446744073709551616 := by decide
  rw [Option.some.inj (hvalue.symm.trans (Digits.number?_eq_some_iff.mpr hn)).symm]
  decide

end Route

end DocumentFilter
