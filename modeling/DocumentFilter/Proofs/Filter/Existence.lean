import DocumentFilter.Proofs.Filter.Searching

/-! Fields that do not exist.

A field exists when its route reaches a value somewhere in the document, be it null or an empty
array. Where it reaches none, an operator can hold only through what is missing. Most operators ask
for a value and hold of no such field. Those that null satisfies hold, provided that something is
missing: a route may also come to nothing at all, in the items of an empty array. -/
namespace DocumentFilter

/-- The route reaches no value. -/
def AbsentAt (doc : Value) (route : Route) : Prop :=
  ∀ v, .reached v ∉ doc.landings .whole route

/-- The operator, with this operand, asks for a value and takes nothing missing for one. -/
def Operator.NeedsValue (o : Operator) (operand : Value) : Prop :=
  match o with
  | gt | lt | pattern | modulo | size | all | element => True
  | eq | gte | lte => operand.isNull = false
  | among => ∀ operands, operand = .array operands → ∀ a ∈ operands, a.isNull = false
  | ne | notAmong | not | exist | options => False

section
variable {doc : Value} {route : Route} (habsent : AbsentAt doc route)
include habsent

/-! ### Operators that ask for a value -/

theorem AbsentAt.not_operatorHolds_search {o : Operator} {key : String}
    (hkey : Operator.ofWord? key = some o) (ho : o.searches = true) {operand : Value}
    (hmissing : ¬ o.CountsMissing operand) (siblings : Entries) :
    ¬ OperatorHolds siblings key operand doc route := by
  rw [operatorHolds_search_iff hkey ho]
  intro h
  cases h with
  | inl h =>
    obtain ⟨v, hv, -⟩ := h
    obtain ⟨w, hw⟩ := Value.exists_reached_of_reached_item hv
    exact habsent w hw
  | inr h => exact hmissing h.1

theorem AbsentAt.not_operatorHolds {o : Operator} {key : String}
    (hkey : Operator.ofWord? key = some o) {operand : Value} (hneeds : o.NeedsValue operand)
    (siblings : Entries) : ¬ OperatorHolds siblings key operand doc route := by
  cases o with
  | gt | lt | pattern | modulo => exact habsent.not_operatorHolds_search hkey rfl id siblings
  | eq | gte | lte =>
    exact habsent.not_operatorHolds_search hkey rfl (Bool.eq_false_iff.mp hneeds) siblings
  | among =>
    refine habsent.not_operatorHolds_search hkey rfl ?_ siblings
    intro h
    obtain ⟨operands, hoperand, a, ha, hnull⟩ := h
    exact Bool.eq_false_iff.mp (hneeds operands hoperand a ha) hnull
  | size | all | element =>
    intro h
    obtain ⟨items, hitems⟩ := exists_array_of_operatorHolds hkey rfl h
    exact habsent _ hitems
  | ne | notAmong | not | exist | options => cases hneeds

/-! ### Operators that null satisfies -/

/-- Without empty arrays, what is not there is missing. -/
theorem AbsentAt.missing_mem_landings (hempty : doc.HoldsNoEmptyArray) :
    .missing ∈ doc.landings .items route := by
  apply Value.missing_mem_landings_items
  obtain ⟨l, hl⟩ := List.exists_mem_of_ne_nil _ (Value.landings_ne_nil hempty route)
  cases l with
  | reached v => exact absurd hl (habsent v)
  | missing => exact hl

end

section
variable {field : String} (hfield : Connective.ofWord? field = none) {doc : Value}
include hfield

/-- An operator that counts what is missing holds of a field that is missing somewhere. -/
theorem selects_of_missing (hmissing : .missing ∈ doc.landings .items (.ofName field))
    {o : Operator} (ho : o.searches = true) {operand : Value} (hcounts : o.CountsMissing operand) :
    (fieldQuery field (operatorObject o operand)).Selects doc := by
  rw [selects_fieldQuery_operator hfield,
    operatorHolds_search_iff (Operator.ofWord?_word o) ho]
  exact .inr ⟨hcounts, hmissing⟩

theorem selects_not_exists_iff :
    (fieldQuery field (operatorObject .exist (.boolean false))).Selects doc ↔
      AbsentAt doc (.ofName field) := by
  rw [selects_fieldQuery_operator hfield, OperatorHolds.eq_def, Operator.ofWord?_word]
  simp [Value.isTruthy, AbsentAt]

/-- **Existence agrees with the other operators.** Of a field that does not exist, no operator
holds that asks for a value, nor any expression with such an operator in it; and in a document
without empty arrays, all hold that null satisfies. -/
theorem Filter.selects_of_not_exists
    (h : (fieldQuery field (operatorObject .exist (.boolean false))).Selects doc) :
    (∀ expression : Entries, isExpression expression = true → ∀ e ∈ expression, ∀ o,
      Operator.ofWord? e.1 = some o → o.NeedsValue e.2 →
        ¬ (fieldQuery field (.object expression)).Selects doc) ∧
    (doc.HoldsNoEmptyArray →
      (fieldQuery field .null).Selects doc ∧
      (fieldQuery field (operatorObject .gte .null)).Selects doc ∧
      (fieldQuery field (operatorObject .lte .null)).Selects doc ∧
      ∀ operands, .null ∈ operands →
        (fieldQuery field (operatorObject .among (.array operands))).Selects doc) := by
  have habsent := (selects_not_exists_iff hfield).mp h
  refine ⟨fun expression hexpression e he o hkey hneeds => ?none, fun hempty => ?null⟩
  case none =>
    rw [selects_fieldQuery_expression hfield hexpression, ExpressionHolds]
    intro hall
    exact habsent.not_operatorHolds hkey hneeds expression (hall e he)
  case null =>
    have hmissing := habsent.missing_mem_landings hempty
    refine ⟨?literal, selects_of_missing hfield hmissing rfl rfl,
      selects_of_missing hfield hmissing rfl rfl, fun operands hnull => ?among⟩
    case literal =>
      rw [selects_fieldQuery_literal hfield (v := .null) nofun]
      exact .inr ⟨rfl, hmissing⟩
    case among => exact selects_of_missing hfield hmissing rfl ⟨operands, rfl, .null, hnull, rfl⟩

end

/-- A field that is missing from an object and from the number beside it. In an empty array it is
neither there nor missing. -/
theorem Filter.selects_of_not_exists_of_fork :
    let doc : Value := .object [("a", .array [.object [("c", .integer 1)], .integer 2])]
    let hollow : Value := .object [("a", .array [])]
    let notExists : Value := fieldQuery "a.b" (operatorObject .exist (.boolean false))
    Connective.ofWord? "a.b" = none ∧ notExists.Selects doc ∧ doc.HoldsNoEmptyArray ∧
      ¬ (fieldQuery "a.b" (operatorObject .lt (.integer 3))).Selects doc ∧
      (fieldQuery "a.b" .null).Selects doc ∧
      notExists.Selects hollow ∧ ¬ (fieldQuery "a.b" .null).Selects hollow := by
  intro doc hollow notExists
  have hfield : Connective.ofWord? "a.b" = none := rfl
  have hnot : notExists.Selects doc := by decide
  have hempty : doc.HoldsNoEmptyArray := by decide
  obtain ⟨hvalue, hnull⟩ := selects_of_not_exists hfield hnot
  exact ⟨hfield, hnot, hempty,
    hvalue [("$lt", .integer 3)] rfl _ (List.mem_singleton_self _) .lt rfl trivial,
    (hnull hempty).1, by decide, by decide⟩

end DocumentFilter
