import DocumentFilter.Filter.Basic
import DocumentFilter.Proofs.Document.Landings
import DocumentFilter.Proofs.Document.Mirror
import DocumentFilter.Proofs.Filter.Pointwise

/-! The mirror law of relations.

What is greater than its operand has an operand that is less. A query for one on a field
holds just when the mirrored query holds with document and operand exchanged, as long as
neither is an array: an array in the document lends its items to a relation, an array in
the operand does not. -/
namespace DocumentFilter

/-! ### Relations -/

namespace Relation

/-- The relation with its sides exchanged. -/
def mirror : Relation → Relation
  | gt => lt
  | gte => lte
  | lt => gt
  | lte => gte

theorem mirror_accepts_swap (r : Relation) (o : Ordering) :
    r.mirror.accepts o.swap = r.accepts o := by
  cases r <;> cases o <;> rfl

end Relation

theorem Value.relatesTo_mirror (r : Relation) (a b : Value) :
    b.relatesTo r.mirror a = a.relatesTo r b := by
  show ((b.align a).1.compare (b.align a).2).any r.mirror.accepts =
    ((a.align b).1.compare (a.align b).2).any r.accepts
  rw [align_swap, Prod.fst_swap, Prod.snd_swap, compare_swap, Option.any_map]
  congr 1
  funext o
  exact r.mirror_accepts_swap o

/-! ### Fields with one step -/

theorem Route.cutAtDots_of_not_mem {cs : List Char} (h : '.' ∉ cs) : cutAtDots cs = [cs] := by
  induction cs with
  | nil => rfl
  | cons c rest ih =>
    have hc : c ≠ '.' := fun e => h (e ▸ List.mem_cons_self ..)
    rw [cutAtDots, if_neg hc, ih fun hrest => h (List.mem_cons_of_mem _ hrest)]

theorem Route.ofName_of_not_mem {key : String} (h : '.' ∉ key.toList) :
    ofName key = [.ofKey key] := by
  rw [ofName, cutAtDots_of_not_mem h, List.map_singleton, String.ofList_toList]

/-- A route of one step lands on the value of the only entry. -/
theorem Value.landings_singleton (reach : Reach) (key : String) {v : Value}
    (hv : v.items? = none) :
    (object [(key, v)]).landings reach [.ofKey key] = [.reached v] := by
  have hget : Entries.get? [(key, v)] (Step.ofKey key).key = some v := by
    rw [Entries.get?_cons]
    exact if_pos rfl
  rw [landings_object_cons, hget]
  exact landings_nil hv reach

/-- The query for a relation on a field. -/
def relationQuery (key : String) (r : Relation) (operand : Value) : Value :=
  .object [(key, .object [(r.operator.word, operand)])]

theorem planTest?_relation (field : String) (context : PatternContext) (r : Relation)
    (operand : Value) :
    planTest? field context r.operator.word operand = some (.relation r operand) := by
  rw [planTest?.eq_def, Operator.ofWord?_word]
  cases r <;> rfl

theorem accepts_relationQuery {key : String} (hkey : '.' ∉ key.toList)
    (hfield : Connective.ofWord? key = none) (r : Relation) (operand : Value) {v : Value}
    (hv : v.items? = none) :
    (Filter.ofQuery (relationQuery key r operand)).accepts (.object [(key, v)]) =
      v.relatesTo r operand := by
  have hkeys : isExpression [(r.operator.word, operand)] = true := by
    simp [isExpression, Operator.ofWord?_word]
  have htests : planTests key (.of [(r.operator.word, operand)]) [(r.operator.word, operand)] =
      [.relation r operand] := by
    rw [planTests, planTest?_relation, planTests]
  have hplan : (Filter.ofQuery (relationQuery key r operand)).condition =
      [.expression [.ofKey key] [.relation r operand]] := by
    show planClauses [(key, .object [(r.operator.word, operand)])] = _
    rw [planClauses_eq_map, List.map_singleton, planClause.eq_def, hfield]
    simp only [if_pos hkeys, htests, Route.ofName_of_not_mem hkey]
  rw [Filter.accepts, hplan, allClauses_eq_all, List.all_cons, List.all_nil, Bool.and_true,
    Clause.accepts, allTests_eq_all, List.all_cons, List.all_nil, Bool.and_true, Test.accepts,
    Value.search_eq_any, Value.landings_singleton .items key hv, List.any_cons, List.any_nil,
    Bool.or_false, Landing.succeeds_reached]

/-- A connective takes no object, so what is asked under its word holds of nothing. -/
theorem not_accepts_relationQuery {key : String} {c : Connective}
    (hkey : Connective.ofWord? key = some c) (r : Relation) (operand doc : Value) :
    (Filter.ofQuery (relationQuery key r operand)).accepts doc = false := by
  show allClauses (planClauses [(key, .object [(r.operator.word, operand)])]) doc = false
  rw [planClauses_eq_map, List.map_singleton, planClause.eq_def, hkey]
  rfl

/-- **The mirror law.** Sides do not matter to alignment and equality, and turning them
round turns an order round; so a relation on a field is its mirror image with document and
operand exchanged, unless one of them is an array. -/
theorem mirror_law (a b : Value) :
    b.align a = (a.align b).swap ∧
      b.compare a = (a.compare b).map Ordering.swap ∧
      b.equals a = a.equals b ∧
      ∀ (key : String) (r : Relation), '.' ∉ key.toList → a.items? = none → b.items? = none →
        (Filter.ofQuery (relationQuery key r b)).accepts (.object [(key, a)]) =
          (Filter.ofQuery (relationQuery key r.mirror a)).accepts (.object [(key, b)]) := by
  refine ⟨a.align_swap b, a.compare_swap b, b.equals_comm a, fun key r hkey ha hb => ?_⟩
  cases hfield : Connective.ofWord? key with
  | none =>
    rw [accepts_relationQuery hkey hfield r b ha, accepts_relationQuery hkey hfield r.mirror a hb,
      Value.relatesTo_mirror]
  | some c => rw [not_accepts_relationQuery hfield, not_accepts_relationQuery hfield]

/-- A text beside a decimal is read as one on either side of a relation. -/
theorem mirror_law_text_and_decimal :
    (Filter.ofQuery (relationQuery "x" .gt (.decimal (.ofInt64 1)))).accepts
        (.object [("x", .string "1.5")]) = true ∧
      (Filter.ofQuery (relationQuery "x" .lt (.string "1.5"))).accepts
        (.object [("x", .decimal (.ofInt64 1))]) = true := by
  have hmirror :=
    (mirror_law (.string "1.5") (.decimal (.ofInt64 1))).2.2.2 "x" .gt (by decide) rfl rfl
  have hgreater : (Filter.ofQuery (relationQuery "x" .gt (.decimal (.ofInt64 1)))).accepts
      (.object [("x", .string "1.5")]) = true := by decide +kernel
  exact ⟨hgreater, hmirror.symm.trans hgreater⟩

end DocumentFilter
