import DocumentFilter.Proofs.Document.Reaches
import DocumentFilter.Proofs.Filter.BooleanLaws

/-! Operators as searches.

Eight operators go through the values that a field offers, the items of its arrays among them,
and hold as soon as one of these is what they look for; some of them are content with a missing
field as well. What they look for is a property of single values and does not depend on where the
values come from (`operatorHolds_search_iff`). So whatever is known of the places that a route
ends in is known of all eight at once. Three operators look for an array instead, and are put to
no item. -/
namespace DocumentFilter

namespace Operator

/-- Does the operator go through the values that a field offers, and the items of arrays too? -/
def searches : Operator → Bool
  | eq | gt | gte | lt | lte | among | pattern | modulo => true
  | _ => false

/-- Does the operator look for an array and take it as a whole? -/
def asksArray : Operator → Bool
  | size | all | element => true
  | _ => false

/-- The value is what the operator looks for. A malformed operand looks for nothing. -/
def FoundIn (o : Operator) (siblings : Entries) (operand v : Value) : Prop :=
  match o with
  | eq => v.matchesOperand operand = true
  | gt => v.relatesTo .gt operand = true
  | gte => v.relatesTo .gte operand = true
  | lt => v.relatesTo .lt operand = true
  | lte => v.relatesTo .lte operand = true
  | among => ∃ operands, operand = .array operands ∧ ∃ a ∈ operands, v.matchesOperand a = true
  | pattern =>
    ∃ p, operand.patternBeside? (siblings.get? options.word) = some p ∧ v.contains p = true
  | modulo => ∃ d r, operand.AsksRemainder d r ∧ v.leaves d r = true
  | _ => False

/-- A missing field is what the operator looks for. -/
def CountsMissing (o : Operator) (operand : Value) : Prop :=
  match o with
  | eq | gte | lte => operand.isNull = true
  | among => ∃ operands, operand = .array operands ∧ ∃ a ∈ operands, a.isNull = true
  | _ => False

end Operator

/-! ### What operators come to -/

/-- **An operator that searches holds** just when the field offers what it looks for, or is missing
where that counts. -/
theorem operatorHolds_search_iff {o : Operator} {key : String}
    (hkey : Operator.ofWord? key = some o) (ho : o.searches = true) (siblings : Entries)
    (operand doc : Value) (route : Route) :
    OperatorHolds siblings key operand doc route ↔
      doc.Meets .items route (o.FoundIn siblings operand) (o.CountsMissing operand) := by
  rw [OperatorHolds.eq_def, hkey]
  cases o with
  | eq | gte | lte => exact .rfl
  | gt | lt => exact Value.Meets.congr (fun _ => .rfl) (iff_of_false nofun id)
  | among =>
    refine Iff.trans (exists_congr fun operands => ?_) Value.Meets.exists_iff.symm
    exact Value.Meets.and_iff.symm
  | pattern | modulo =>
    simp only [FoundAt, Value.Meets, Operator.FoundIn, Operator.CountsMissing, false_and, or_false]
    grind
  | _ => cases ho

/-- Options look at the pattern beside them and at no document. -/
theorem operatorHolds_options_iff {key : String} (hkey : Operator.ofWord? key = some .options)
    (siblings : Entries) (operand doc : Value) (route : Route) :
    OperatorHolds siblings key operand doc route ↔
      (siblings.get? Operator.pattern.word).isSome = true := by
  rw [OperatorHolds.eq_def, hkey]

/-- The route ends in an array with the property. -/
theorem arrayAt_iff {doc : Value} {route : Route} {property : List Value → Prop} :
    ArrayAt doc route property ↔
      ∃ items, .reached (.array items) ∈ doc.landings .whole route ∧ property items := by
  simp only [ArrayAt, Value.Meets, false_and, or_false]
  constructor
  · intro h
    obtain ⟨_, hv, items, rfl, hp⟩ := h
    exact ⟨items, hv, hp⟩
  · intro h
    obtain ⟨items, hitems, hp⟩ := h
    exact ⟨_, hitems, items, rfl, hp⟩

/-- An operator that looks for an array holds only where there is one. -/
theorem exists_array_of_operatorHolds {o : Operator} {key : String}
    (hkey : Operator.ofWord? key = some o) (ho : o.asksArray = true) {siblings : Entries}
    {operand doc : Value} {route : Route} (h : OperatorHolds siblings key operand doc route) :
    ∃ items, .reached (.array items) ∈ doc.landings .whole route := by
  have hweaker {property : List Value → Prop} (h : ArrayAt doc route property) :
      ∃ items, .reached (.array items) ∈ doc.landings .whole route := by
    obtain ⟨items, hitems, -⟩ := arrayAt_iff.mp h
    exact ⟨items, hitems⟩
  rw [OperatorHolds.eq_def, hkey] at h
  cases o with
  | size =>
    obtain ⟨n, -, h⟩ := h
    exact hweaker h
  | all =>
    cases operand with
    | array operands =>
      simp only at h
      split at h
      · exact hweaker h.2
      · exact hweaker h.2
    | _ => cases h
  | element =>
    cases operand with
    | object entries => exact hweaker h
    | _ => cases h
  | _ => cases ho

/-- An array that has all of several properties has each of them. -/
theorem arrayAt_of_forall {α : Type} {members : List α} {doc : Value} {route : Route}
    {property : α → List Value → Prop}
    (h : ArrayAt doc route fun items => ∀ a ∈ members, property a items) :
    ∀ a ∈ members, ArrayAt doc route (property a) := by
  rw [arrayAt_iff] at h
  obtain ⟨items, hitems, hall⟩ := h
  intro a ha
  exact arrayAt_iff.mpr ⟨items, hitems, hall a ha⟩

/-- Where a route does not fork, arrays with one property each are all the same array. -/
theorem arrayAt_forall_of_unforked {α : Type} {members : List α} (hne : members ≠ []) {doc : Value}
    {route : Route} (hroute : doc.Unforked route) {property : α → List Value → Prop}
    (h : ∀ a ∈ members, ArrayAt doc route (property a)) :
    ArrayAt doc route fun items => ∀ a ∈ members, property a items := by
  obtain ⟨l, hl⟩ := Value.exists_landings_eq_singleton hroute
  have hreached : ∀ a ∈ members, ∃ items, .reached (.array items) = l ∧ property a items := by
    intro a ha
    obtain ⟨items, hitems, hp⟩ := arrayAt_iff.mp (h a ha)
    rw [hl] at hitems
    exact ⟨items, List.mem_singleton.mp hitems, hp⟩
  obtain ⟨first, hfirst⟩ := List.exists_mem_of_ne_nil members hne
  obtain ⟨items, rfl, -⟩ := hreached first hfirst
  refine arrayAt_iff.mpr ⟨items, hl ▸ List.mem_singleton_self _, fun a ha => ?_⟩
  obtain ⟨items', hsame, hp⟩ := hreached a ha
  cases hsame
  exact hp

end DocumentFilter
