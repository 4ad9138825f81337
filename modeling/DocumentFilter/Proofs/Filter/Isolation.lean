import DocumentFilter.Filter.Basic
import DocumentFilter.Proofs.Document.Landings
import DocumentFilter.Proofs.Filter.Meaning

/-! A filter looks at nothing but the fields of its query.

A field of a query starts at one key of the document, and whatever is asked of the field is
asked of the landings of its route, which lie under that key. So entries under other keys do not
count, nor does the order of entries: two documents with the same values under the keys of a
query are accepted together. This holds of negations as well, and of fields that are missing. -/
namespace DocumentFilter

/-! ### The keys of a query -/

/-- The part of a field name before its first dot. -/
def firstKey (name : String) : String := String.ofList (name.toList.takeWhile (· ≠ '.'))

mutual

/-- The keys at which the fields of a query start, with those of the queries that connectives
join. The fields of an element test are not among them: they start at an item. -/
def Value.fieldKeys (query : Value) : List String :=
  match query with
  | .object entries => conditionKeys entries
  | _ => []
  termination_by structural query

def conditionKeys (entries : Entries) : List String :=
  match entries with
  | [] => []
  | (name, v) :: rest => entryKeys name v ++ conditionKeys rest
  termination_by structural entries

def entryKeys (name : String) (v : Value) : List String :=
  match Connective.ofWord? name, v with
  | some _, .array queries => queriesKeys queries
  | some _, _ => []
  | none, _ => [firstKey name]
  termination_by structural v

def queriesKeys (queries : List Value) : List String :=
  match queries with
  | [] => []
  | query :: rest => query.fieldKeys ++ queriesKeys rest
  termination_by structural queries

end

/-- Both hold the same value, or none, under each of the keys. -/
def Entries.AgreeOn (keys : List String) (entries entries' : Entries) : Prop :=
  ∀ key ∈ keys, entries.get? key = entries'.get? key

/-! ### Routes from a key -/

theorem Route.cutAtDots_eq_cons (cs : List Char) :
    ∃ rest, cutAtDots cs = cs.takeWhile (· ≠ '.') :: rest := by
  induction cs with
  | nil => exact ⟨[], rfl⟩
  | cons c cs ih =>
    obtain ⟨rest, hrest⟩ := ih
    by_cases hc : c = '.'
    · exact ⟨cutAtDots cs, by rw [cutAtDots, if_pos hc, List.takeWhile_cons_of_neg (by simpa)]⟩
    · refine ⟨rest, ?_⟩
      rw [cutAtDots, if_neg hc, hrest, List.takeWhile_cons_of_pos (by simpa)]

theorem Route.ofName_eq_cons (name : String) :
    ∃ rest, ofName name = .ofKey (firstKey name) :: rest := by
  obtain ⟨rest, hrest⟩ := cutAtDots_eq_cons name.toList
  exact ⟨_, by rw [ofName, hrest, List.map_cons, firstKey]⟩

/-- The landings of a field lie under its first key. -/
theorem landings_field_congr {name : String} {entries entries' : Entries}
    (h : entries.get? (firstKey name) = entries'.get? (firstKey name)) (reach : Reach) :
    (Value.object entries).landings reach (.ofName name) =
      (Value.object entries').landings reach (.ofName name) := by
  obtain ⟨rest, hroute⟩ := Route.ofName_eq_cons name
  have hchild : entries.get? (Step.ofKey (firstKey name)).key =
      entries'.get? (Step.ofKey (firstKey name)).key := h
  rw [hroute, Value.landings_object_cons, Value.landings_object_cons, hchild]

/-! ### Tests look at landings -/

section
variable {doc doc' : Value} {route : Route}

mutual

theorem Test.accepts_congr (test : Test)
    (h : ∀ reach, doc.landings reach route = doc'.landings reach route) :
    test.accepts doc route = test.accepts doc' route := by
  cases test with
  | notExpression tests => rw [Test.accepts, Test.accepts, allTests_congr tests h]
  | _ =>
    simp only [Test.accepts, fieldEquals, fieldAmong, fieldContains, Value.search_eq_any, h]

theorem allTests_congr (tests : List Test)
    (h : ∀ reach, doc.landings reach route = doc'.landings reach route) :
    allTests tests doc route = allTests tests doc' route := by
  cases tests with
  | nil => rfl
  | cons test rest => rw [allTests, allTests, test.accepts_congr h, allTests_congr rest h]

end

end

/-! ### Queries look at fields -/

section
variable {doc doc' : Entries}

mutual

theorem allClauses_planQuery_congr (query : Value) (h : doc.AgreeOn query.fieldKeys doc') :
    allClauses (planQuery query) (.object doc) = allClauses (planQuery query) (.object doc') := by
  cases query with
  | object entries => exact allClauses_planClauses_congr entries h
  | _ => rfl
  termination_by structural query

theorem allClauses_planClauses_congr (entries : Entries)
    (h : doc.AgreeOn (conditionKeys entries) doc') :
    allClauses (planClauses entries) (.object doc) =
      allClauses (planClauses entries) (.object doc') := by
  cases entries with
  | nil => rfl
  | cons e rest =>
    obtain ⟨name, v⟩ := e
    obtain ⟨hfirst, hrest⟩ := List.forall_mem_append.mp h
    rw [planClauses, allClauses, allClauses, accepts_planClause_congr name v hfirst,
      allClauses_planClauses_congr rest hrest]
  termination_by structural entries

theorem accepts_planClause_congr (name : String) (v : Value)
    (h : doc.AgreeOn (entryKeys name v) doc') :
    (planClause name v).accepts (.object doc) = (planClause name v).accepts (.object doc') := by
  rw [entryKeys.eq_def] at h
  rw [planClause.eq_def]
  cases hc : Connective.ofWord? name with
  | some c =>
    simp only [hc] at h
    cases v with
    | array queries =>
      by_cases hall : ∀ query ∈ queries, ∃ entries, query = .object entries
      · obtain ⟨hand, hor⟩ := connective_congr queries h
        simp only [planConditions_of_objects c 0 queries hall]
        cases c <;> simp only [Clause.accepts, hand, hor]
      · obtain ⟨fault, hfault⟩ := planConditions_of_not_objects c 0 queries hall
        simp only [hfault, Clause.accepts]
    | _ => rfl
  | none =>
    simp only [hc] at h
    have hlandings := landings_field_congr (h _ (List.mem_singleton_self _))
    have hliteral (operand : Value) :
        (Clause.literal (.ofName name) operand).accepts (.object doc) =
          (Clause.literal (.ofName name) operand).accepts (.object doc') := by
      simp only [Clause.accepts, fieldEquals, Value.search_eq_any, hlandings]
    cases v with
    | object entries =>
      simp only
      split
      · exact allTests_congr _ hlandings
      · exact hliteral _
    | _ => exact hliteral _
  termination_by structural v

/-- The two ways in which a connective puts its queries together. -/
theorem connective_congr (queries : List Value) (h : doc.AgreeOn (queriesKeys queries) doc') :
    allConditions (queries.map planQuery) (.object doc) =
        allConditions (queries.map planQuery) (.object doc') ∧
      anyCondition (queries.map planQuery) (.object doc) =
        anyCondition (queries.map planQuery) (.object doc') := by
  cases queries with
  | nil => exact ⟨rfl, rfl⟩
  | cons query rest =>
    obtain ⟨hfirst, hrest⟩ := List.forall_mem_append.mp h
    obtain ⟨hand, hor⟩ := connective_congr rest hrest
    simp only [List.map_cons, allConditions, anyCondition, allClauses_planQuery_congr query hfirst,
      hand, hor, and_self]
  termination_by structural queries

end

end

/-- **Fields that a query does not name have no bearing on it.** Two documents that hold the same
under the keys of a query, or nothing, are both accepted or both turned away, whatever else they
hold and in whatever order. -/
theorem Filter.accepts_eq_of_agreeOn (query : Value) {doc doc' : Entries}
    (h : doc.AgreeOn query.fieldKeys doc') :
    (ofQuery query).accepts (.object doc) = (ofQuery query).accepts (.object doc') :=
  allClauses_planQuery_congr query h

/-- A missing field and the first step of a dotted one, under negations. What the element test
names is a field of the items, so the documents may differ in it. -/
theorem Filter.accepts_eq_of_extra_fields :
    let query : Value := .object [("$nor", .array [.object [("a.b", .integer 1)]]),
      ("c", .object [("$not", .object [("$elemMatch", .object [("d", .integer 1)])])])]
    let doc : Entries := [("a", .integer 2), ("d", .integer 1)]
    let doc' : Entries := [("d", .null), ("b", .integer 1), ("a", .integer 2)]
    doc.AgreeOn query.fieldKeys doc' ∧
      (ofQuery query).accepts (.object doc) = true ∧
      (ofQuery query).accepts (.object doc') = true := by
  intro query doc doc'
  have hkeys : query.fieldKeys = ["a", "c"] := by decide
  have hagree : doc.AgreeOn query.fieldKeys doc' := by
    rw [hkeys]
    exact List.forall_mem_cons.mpr ⟨rfl, List.forall_mem_singleton.mpr rfl⟩
  have haccepts : (ofQuery query).accepts (.object doc) = true := by decide
  exact ⟨hagree, haccepts, (accepts_eq_of_agreeOn query hagree).symm.trans haccepts⟩

end DocumentFilter
