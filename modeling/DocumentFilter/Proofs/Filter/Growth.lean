import DocumentFilter.Proofs.Document.Growth
import DocumentFilter.Proofs.Filter.Searching

/-! Filters over documents that grow.

An operator that looks for a scalar goes on finding it when arrays get more items: scalars do not
grow, and growth loses no place that the search comes to. What is looked for must not be an array
or an object, for these change as they grow. The negated operators answer the other way around: a
document is selected by them if a grown one is. -/
namespace DocumentFilter

/-! ### What is found in scalars only -/

namespace Value

variable {v operand : Value}

/-- Only scalars equal a scalar. -/
theorem isScalar_of_matchesOperand (h : v.matchesOperand operand = true)
    (hoperand : operand.isScalar = true) : v.isScalar = true := by
  cases v with
  | array | object =>
    cases operand with
    | array | object => cases hoperand
    | _ => cases h
  | _ => rfl

/-- Only scalars have an order to a scalar. -/
theorem isScalar_of_relatesTo {r : Relation} (h : v.relatesTo r operand = true)
    (hoperand : operand.isScalar = true) : v.isScalar = true := by
  cases v with
  | array | object =>
    cases operand with
    | array | object => cases hoperand
    | _ => cases h
  | _ => rfl

theorem isScalar_of_contains {p : Pattern} (h : v.contains p = true) : v.isScalar = true := by
  cases v with
  | array | object => cases h
  | _ => rfl

theorem isScalar_of_leaves {divisor remainder : Int64} (h : v.leaves divisor remainder = true) :
    v.isScalar = true := by
  cases v with
  | array | object => cases h
  | _ => rfl

end Value

namespace Operator

/-- The operator, with this operand, goes on holding of a field while arrays grow. -/
def LastsThroughGrowth (o : Operator) (operand : Value) : Prop :=
  match o with
  | eq | gt | gte | lt | lte => operand.isScalar = true
  | among => ∀ operands, operand = .array operands → ∀ a ∈ operands, a.isScalar = true
  | pattern | options | modulo => True
  | exist => operand.isTruthy = true
  | ne | notAmong | not | size | all | element => False

theorem isScalar_of_foundIn {o : Operator} {siblings : Entries} {operand v : Value}
    (hlasts : o.LastsThroughGrowth operand) (h : o.FoundIn siblings operand v) :
    v.isScalar = true := by
  cases o with
  | eq => exact Value.isScalar_of_matchesOperand h hlasts
  | gt | gte | lt | lte => exact Value.isScalar_of_relatesTo h hlasts
  | among =>
    obtain ⟨operands, hoperand, a, ha, hmatch⟩ := h
    exact Value.isScalar_of_matchesOperand hmatch (hlasts operands hoperand a ha)
  | pattern =>
    obtain ⟨p, -, hp⟩ := h
    exact Value.isScalar_of_contains hp
  | modulo =>
    obtain ⟨d, r, -, hleaves⟩ := h
    exact Value.isScalar_of_leaves hleaves
  | _ => cases h

end Operator

/-! ### Growth -/

section
variable {doc doc' : Value} (h : doc.Grown doc')
include h

theorem operatorHolds_search_of_grown {route : Route} (hroute : ∀ step ∈ route, step.index = none)
    {o : Operator} {key : String} (hkey : Operator.ofWord? key = some o) (ho : o.searches = true)
    {operand : Value} (hlasts : o.LastsThroughGrowth operand) {siblings : Entries}
    (hholds : OperatorHolds siblings key operand doc route) :
    OperatorHolds siblings key operand doc' route := by
  rw [operatorHolds_search_iff hkey ho] at hholds ⊢
  apply hholds.of_grown h hroute
  intro v v' hv hfound
  rw [hv.eq_of_isScalar (Operator.isScalar_of_foundIn hlasts hfound)]
  exact hfound

/-- What an operator finds in a document, it finds in the grown one. -/
theorem operatorHolds_of_grown {route : Route} (hroute : ∀ step ∈ route, step.index = none)
    {o : Operator} {key : String} (hkey : Operator.ofWord? key = some o) {operand : Value}
    (hlasts : o.LastsThroughGrowth operand) {siblings : Entries}
    (hholds : OperatorHolds siblings key operand doc route) :
    OperatorHolds siblings key operand doc' route := by
  cases o with
  | eq | gt | gte | lt | lte | among | pattern | modulo =>
    exact operatorHolds_search_of_grown h hroute hkey rfl hlasts hholds
  | options =>
    rw [operatorHolds_options_iff hkey] at hholds ⊢
    exact hholds
  | exist =>
    rw [OperatorHolds.eq_def, hkey] at hholds ⊢
    obtain ⟨v, hv⟩ := hholds.mpr hlasts
    obtain ⟨l, hl, hgrown⟩ := Value.exists_grown_landing h hroute .whole _ hv
    cases hgrown with
    | reached => exact iff_of_true ⟨_, hl⟩ hlasts
  | ne | notAmong | not | size | all | element => cases hlasts

/-- **Growing arrays loses no match** of operators that look for scalars or for any value at all, by
a field without indices; and what the negated operators select when grown, they select before. -/
theorem Filter.selects_of_grown {field : String} (hfield : Connective.ofWord? field = none)
    (hroute : ∀ step ∈ Route.ofName field, step.index = none) :
    (∀ expression : Entries, isExpression expression = true →
      (∀ e ∈ expression, ∃ o, Operator.ofWord? e.1 = some o ∧ o.LastsThroughGrowth e.2) →
        (fieldQuery field (.object expression)).Selects doc →
          (fieldQuery field (.object expression)).Selects doc') ∧
    (∀ v : Value, v.isScalar = true →
      (fieldQuery field (operatorObject .ne v)).Selects doc' →
        (fieldQuery field (operatorObject .ne v)).Selects doc) ∧
    ∀ operands : List Value, (∀ v ∈ operands, v.isScalar = true) →
      (fieldQuery field (operatorObject .notAmong (.array operands))).Selects doc' →
        (fieldQuery field (operatorObject .notAmong (.array operands))).Selects doc := by
  have hlast {o : Operator} {operand : Value} (hlasts : o.LastsThroughGrowth operand) :
      (fieldQuery field (operatorObject o operand)).Selects doc →
        (fieldQuery field (operatorObject o operand)).Selects doc' := by
    simp only [selects_fieldQuery_operator hfield]
    exact operatorHolds_of_grown h hroute (Operator.ofWord?_word o) hlasts
  refine ⟨fun expression hexpression hlasts hdoc => ?expression, fun v hv hdoc' => ?ne,
    fun operands hoperands hdoc' => ?notAmong⟩
  case expression =>
    rw [selects_fieldQuery_expression hfield hexpression, ExpressionHolds] at hdoc ⊢
    intro e he
    obtain ⟨o, hkey, ho⟩ := hlasts e he
    exact operatorHolds_of_grown h hroute hkey ho (hdoc e he)
  case ne =>
    rw [selects_ne_iff hfield] at hdoc' ⊢
    exact fun hdoc => hdoc' (hlast hv hdoc)
  case notAmong =>
    rw [selects_notAmong_iff hfield] at hdoc' ⊢
    refine fun hdoc => hdoc' (hlast ?_ hdoc)
    intro operands' hsame
    cases hsame
    exact hoperands

end

/-- New items around and inside the item that passes, and one that is missing. By an index the field
comes to stand for a new item, and an array that grows is no longer equal to what it was. -/
theorem Filter.selects_of_grown_of_new_items :
    let doc : Value := .object [("a", .array [.object [("b", .array [.integer 1])], .object []])]
    let doc' : Value := .object [("a", .array [.string "x",
      .object [("b", .array [.integer 0, .integer 1])], .object [], .array []])]
    let range : Entries := [("$gt", .integer 0), ("$lt", .integer 2), ("$exists", .boolean true)]
    doc.Grown doc' ∧ Connective.ofWord? "a.b" = none ∧
      (∀ step ∈ Route.ofName "a.b", step.index = none) ∧
      (fieldQuery "a.b" (.object range)).Selects doc ∧
      (fieldQuery "a.b" (.object range)).Selects doc' ∧
      (fieldQuery "a.b" (operatorObject .ne (.integer 3))).Selects doc ∧
      (fieldQuery "a.b" (operatorObject .notAmong (.array [.integer 3, .string "x"]))).Selects doc ∧
      (fieldQuery "a.0.b" (operatorObject .eq (.integer 1))).Selects doc ∧
      ¬ (fieldQuery "a.0.b" (operatorObject .eq (.integer 1))).Selects doc' ∧
      (fieldQuery "a.b" (operatorObject .eq (.array [.integer 1]))).Selects doc ∧
      ¬ (fieldQuery "a.b" (operatorObject .eq (.array [.integer 1]))).Selects doc' := by
  intro doc doc' range
  have hfield : Connective.ofWord? "a.b" = none := rfl
  have hroute : ∀ step ∈ Route.ofName "a.b", step.index = none := by decide
  have hone : Value.Grown (.array [.integer 1]) (.array [.integer 0, .integer 1]) :=
    .array (.cons_right (.cons (.scalar rfl) .nil))
  have hgrown : doc.Grown doc' :=
    .object (.cons (.value (.array (.cons_right (.cons (.object (.cons (.value hone) .nil))
      (.cons (.object .nil) .nil))))) .nil)
  have hrange : (fieldQuery "a.b" (.object range)).Selects doc := by decide
  obtain ⟨hexpression, hne, hnotAmong⟩ := selects_of_grown hgrown hfield hroute
  refine ⟨hgrown, hfield, hroute, hrange, hexpression range rfl ?lasts hrange,
    hne (.integer 3) rfl (by decide), hnotAmong _ (by decide) (by decide), by decide, by decide,
    by decide, by decide⟩
  case lasts =>
    intro e he
    simp only [range, List.mem_cons, List.not_mem_nil, or_false] at he
    cases he with
    | inl h => exact h ▸ ⟨.gt, rfl, rfl⟩
    | inr he =>
      cases he with
      | inl h => exact h ▸ ⟨.lt, rfl, rfl⟩
      | inr h => exact h ▸ ⟨.exist, rfl, rfl⟩

end DocumentFilter
