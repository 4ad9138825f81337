import DocumentFilter.Proofs.Document.Reflexivity
import DocumentFilter.Proofs.Filter.BooleanLaws

/-! Operators that are alternatives of simpler ones.

Membership in a list asks for any of its values, and an inclusive relation for the strict one or
for equality. Each goes through the document once, with one test for all alternatives and one
answer for what is missing; taken one at a time, the alternatives go through it once each. It comes
to the same, for a search finds one of several things just when one of several searches finds its
own, however the route forks. -/
namespace DocumentFilter

/-! ### Membership -/

theorem amongAt_iff_exists_equalAt (operands : List Value) (doc : Value) (route : Route) :
    AmongAt operands doc route ↔ ∃ v ∈ operands, EqualAt v doc route :=
  Value.Meets.exists_mem_iff

/-- **Membership is a disjunction of equalities**: a field is among the values of a list just when
it equals one of them. Null stands for what is missing on both sides, and a list without values
has no member. -/
theorem Filter.selects_among_iff_exists_eq {field : String}
    (hfield : Connective.ofWord? field = none) (operands : List Value) (doc : Value) :
    (fieldQuery field (operatorObject .among (.array operands))).Selects doc ↔
      ∃ v ∈ operands, (fieldQuery field (operatorObject .eq v)).Selects doc := by
  have hamong : (fieldQuery field (operatorObject .among (.array operands))).Selects doc ↔
      AmongAt operands doc (.ofName field) := by
    rw [selects_fieldQuery_operator hfield, OperatorHolds.eq_def, Operator.ofWord?_word]
    simp only [Value.array.injEq, exists_eq_left']
  rw [hamong, amongAt_iff_exists_equalAt]
  exact exists_congr fun v => and_congr_right fun _ => (selects_eq_iff hfield v doc).symm

/-- The route forks at an array: one branch ends in an array with the first operand in it, the
other in nothing, which the second operand stands for. -/
theorem Filter.selects_among_iff_exists_eq_of_fork :
    let doc : Value := .object [("a", .array [.object [("b", .array [.integer 1])], .object []])]
    let operands : List Value := [.integer 1, .null]
    Connective.ofWord? "a.b" = none ∧
      (∀ v ∈ operands, (fieldQuery "a.b" (operatorObject .eq v)).Selects doc) ∧
      (fieldQuery "a.b" (operatorObject .among (.array operands))).Selects doc ∧
      ¬ (fieldQuery "a.b" (operatorObject .among (.array []))).Selects doc := by
  intro doc operands
  have heach : ∀ v ∈ operands, (fieldQuery "a.b" (operatorObject .eq v)).Selects doc := by decide
  have hfield : Connective.ofWord? "a.b" = none := rfl
  have hsome := selects_among_iff_exists_eq hfield operands doc
  have hnone := selects_among_iff_exists_eq hfield [] doc
  have hmem : Value.null ∈ operands := List.mem_cons_of_mem _ (List.mem_singleton_self _)
  refine ⟨hfield, heach, hsome.mpr ⟨.null, hmem, heach _ hmem⟩, fun h => ?_⟩
  obtain ⟨v, hv, -⟩ := hnone.mp h
  exact List.not_mem_nil hv

/-! ### Inclusive relations -/

namespace Relation

/-- The relation, or equality. -/
def orEqual : Relation → Relation
  | gt | gte => gte
  | lt | lte => lte

theorem accepts_orEqual (r : Relation) (o : Ordering) :
    r.orEqual.accepts o = (r.accepts o || o == .eq) := by
  cases r <;> cases o <;> rfl

theorem holdsOfMissing_orEqual (r : Relation) (operand : Value) :
    r.orEqual.holdsOfMissing operand = (r.holdsOfMissing operand || operand.isNull) := by
  cases r with
  | gt | lt => rfl
  | gte | lte => exact (Bool.or_self _).symm

end Relation

namespace Value

/-- What is read from an operand is no pattern, and what cannot be read stays the operand. -/
theorem lacks_regex_elim {α : Type} {operand : Value} (h : operand.Lacks .regex)
    (make : α → Value) (hmake : ∀ a, (make a).Lacks .regex) (read : Option α) :
    (read.elim operand make).Lacks .regex := by
  cases read with
  | none => exact h
  | some a => exact hmake a

/-- Alignment makes no patterns. -/
theorem lacks_regex_align {operand : Value} (h : operand.Lacks .regex) (v : Value) :
    (v.align operand).2.Lacks .regex := by
  -- One case for each rule; those for the other side leave the operand as it is.
  unfold align
  split
  · exact h
  · exact lacks_regex_elim h decimal (fun _ => (everywhere_scalar_iff rfl).mpr nofun) _
  · exact h
  · exact lacks_regex_elim h date (fun _ => (everywhere_scalar_iff rfl).mpr nofun) _
  · exact h
  · exact lacks_regex_elim h datetime (fun _ => (everywhere_scalar_iff rfl).mpr nofun) _
  · exact h
  · exact lacks_regex_elim h uuid (fun _ => (everywhere_scalar_iff rfl).mpr nofun) _
  · exact h
  · exact h

theorem matchesOperand_of_ne_regex {operand : Value} (h : operand.kind ≠ .regex) (v : Value) :
    v.matchesOperand operand = (v.align operand).1.equals (v.align operand).2 := by
  unfold matchesOperand
  split
  · exact absurd rfl h
  · rfl

/-- A leaf equals an operand without patterns just when the two are tied once they are aligned. -/
theorem matchesOperand_iff_compare_align {operand : Value} (h : operand.Lacks .regex) (v : Value) :
    v.matchesOperand operand = true ↔
      (v.align operand).1.compare (v.align operand).2 = some .eq := by
  rw [matchesOperand_of_ne_regex h.self,
    equals_iff_of_lacks_right _ _ (lacks_regex_align h v)]

theorem relatesTo_orEqual_iff {operand : Value} (h : operand.Lacks .regex) (r : Relation)
    (v : Value) :
    v.relatesTo r.orEqual operand = true ↔
      v.relatesTo r operand = true ∨ v.matchesOperand operand = true := by
  rw [matchesOperand_iff_compare_align h]
  show ((v.align operand).1.compare (v.align operand).2).any r.orEqual.accepts = true ↔
    ((v.align operand).1.compare (v.align operand).2).any r.accepts = true ∨ _
  cases (v.align operand).1.compare (v.align operand).2 with
  | none => simp
  | some o => simp [r.accepts_orEqual]

end Value

theorem relatedAt_orEqual_iff {operand : Value} (h : operand.Lacks .regex) (r : Relation)
    (doc : Value) (route : Route) :
    RelatedAt r.orEqual operand doc route ↔
      RelatedAt r operand doc route ∨ EqualAt operand doc route := by
  rw [RelatedAt, RelatedAt, EqualAt, ← Value.Meets.or_iff]
  exact Value.Meets.congr (Value.relatesTo_orEqual_iff h r)
    (by rw [r.holdsOfMissing_orEqual, Bool.or_eq_true])

theorem selects_relation_iff {field : String} (hfield : Connective.ofWord? field = none)
    (r : Relation) (v doc : Value) :
    (fieldQuery field (operatorObject r.operator v)).Selects doc ↔
      RelatedAt r v doc (.ofName field) := by
  rw [selects_fieldQuery_operator hfield, OperatorHolds.eq_def, Operator.ofWord?_word]
  cases r <;> rfl

/-- **An inclusive relation is the strict one or equality**, for an operand without patterns: also
for null, which is equal to what is missing and greater than nothing, and for arrays, which are
compared as wholes and by their items. -/
theorem Filter.selects_inclusive_iff {field : String} (hfield : Connective.ofWord? field = none)
    {v : Value} (hv : v.Lacks .regex) (doc : Value) :
    ((fieldQuery field (operatorObject .gte v)).Selects doc ↔
      (fieldQuery field (operatorObject .gt v)).Selects doc ∨
        (fieldQuery field (operatorObject .eq v)).Selects doc) ∧
    ((fieldQuery field (operatorObject .lte v)).Selects doc ↔
      (fieldQuery field (operatorObject .lt v)).Selects doc ∨
        (fieldQuery field (operatorObject .eq v)).Selects doc) := by
  have hinclusive (r : Relation) :
      (fieldQuery field (operatorObject r.orEqual.operator v)).Selects doc ↔
        (fieldQuery field (operatorObject r.operator v)).Selects doc ∨
          (fieldQuery field (operatorObject .eq v)).Selects doc := by
    rw [selects_relation_iff hfield, selects_relation_iff hfield, selects_eq_iff hfield]
    exact relatedAt_orEqual_iff hv r doc (.ofName field)
  exact ⟨hinclusive .gt, hinclusive .lt⟩

/-- An array that equals the operand as a whole, beside a branch where the field is missing: no
item of it is greater or less than the array, nor is what is missing greater or less than null. -/
theorem Filter.selects_inclusive_iff_of_fork :
    let doc : Value := .object [("a", .array [.object [("b", .array [.integer 1])], .object []])]
    let whole : Value := .array [.decimal (.ofInt64 1)]
    Connective.ofWord? "a.b" = none ∧ whole.Lacks .regex ∧ Value.null.Lacks .regex ∧
      ((fieldQuery "a.b" (operatorObject .gte whole)).Selects doc ∧
        ¬ (fieldQuery "a.b" (operatorObject .gt whole)).Selects doc) ∧
      ((fieldQuery "a.b" (operatorObject .lte .null)).Selects doc ∧
        ¬ (fieldQuery "a.b" (operatorObject .lt .null)).Selects doc) := by
  intro doc whole
  have hwhole : whole.Lacks .regex := by decide
  have hnull : Value.null.Lacks .regex := by decide
  have hfield : Connective.ofWord? "a.b" = none := rfl
  have hgte := (selects_inclusive_iff hfield hwhole doc).1
  have hlte := (selects_inclusive_iff hfield hnull doc).2
  exact ⟨hfield, hwhole, hnull, ⟨hgte.mpr (.inr (by decide)), by decide⟩,
    ⟨hlte.mpr (.inr (by decide)), by decide⟩⟩

end DocumentFilter
