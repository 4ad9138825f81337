import DocumentFilter.Proofs.Filter.Meaning

/-! The Boolean laws of queries.

The entries of a condition and the operators of an expression are conjuncts, connectives join
whole conditions, and a negated operator is the negation of what it negates: of the outcome of the
whole search for the field and not of the test on each landing. A value that is no expression asks
for equality. The two sides of a law are different queries, each with a plan of its own; what
holds them together is that both have the same meaning. -/
namespace DocumentFilter

/-- The filter of the query accepts the document. -/
def Value.Selects (query doc : Value) : Prop := (Filter.ofQuery query).accepts doc = true

instance (query doc : Value) : Decidable (query.Selects doc) :=
  inferInstanceAs (Decidable ((Filter.ofQuery query).accepts doc = true))

/-- The query that has a value under one field. -/
def fieldQuery (field : String) (v : Value) : Value := .object [(field, v)]

/-- The query that joins queries. -/
def connectiveQuery (c : Connective) (queries : List Value) : Value :=
  .object [(c.word, .array queries)]

/-- The expression with one operator. -/
def operatorObject (o : Operator) (v : Value) : Value := .object [(o.word, v)]

/-! ### The parts of an expression -/

/-- Does the key belong to a pattern with its options? -/
def isPatternKey (key : String) : Bool :=
  key == Operator.pattern.word || key == Operator.options.word

/-- The part of an expression that an entry is in: a pattern and its options stay together, any
other entry stands alone. -/
def Entries.partOf (entries : Entries) (e : String × Value) : Entries :=
  if isPatternKey e.1 then entries.filter fun f => isPatternKey f.1 else [e]

theorem Entries.get?_filter {p : String → Bool} {key : String} (hkey : p key = true)
    (entries : Entries) : get? (entries.filter fun e => p e.1) key = entries.get? key := by
  induction entries with
  | nil => rfl
  | cons e rest ih =>
    obtain ⟨k, v⟩ := e
    rw [get?_cons, List.filter_cons]
    split
    · rw [get?_cons, ih]
    · next hk =>
      have hne : k ≠ key := fun h => hk (h ▸ hkey)
      rw [ih, if_neg hne]

theorem mem_partOf_self {entries : Entries} {e : String × Value} (he : e ∈ entries) :
    e ∈ entries.partOf e := by
  unfold Entries.partOf
  split
  · next h => exact List.mem_filter.mpr ⟨he, h⟩
  · exact List.mem_singleton_self e

theorem partOf_subset {entries : Entries} {e : String × Value} (he : e ∈ entries) :
    entries.partOf e ⊆ entries := by
  unfold Entries.partOf
  split
  · exact List.filter_sublist.subset
  · exact fun f hf => List.mem_singleton.mp hf ▸ he

theorem isExpression_iff (entries : Entries) :
    isExpression entries = true ↔
      entries ≠ [] ∧ ∀ e ∈ entries, (Operator.ofWord? e.1).isSome = true := by
  simp [isExpression]

theorem isExpression_partOf {entries : Entries} (h : isExpression entries = true)
    {e : String × Value} (he : e ∈ entries) : isExpression (entries.partOf e) = true := by
  rw [isExpression_iff] at h ⊢
  exact ⟨List.ne_nil_of_mem (mem_partOf_self he), fun f hf => h.2 f (partOf_subset he hf)⟩

theorem isExpression_operator (o : Operator) (v : Value) : isExpression [(o.word, v)] = true := by
  simp [isExpression, Operator.ofWord?_word]

/-- Only patterns and options look at the entries beside them. -/
theorem operatorHolds_of_not_patternKey {key : String} (hkey : isPatternKey key = false)
    (siblings siblings' : Entries) (v doc : Value) (route : Route) :
    OperatorHolds siblings key v doc route ↔ OperatorHolds siblings' key v doc route := by
  rw [OperatorHolds.eq_def, OperatorHolds.eq_def siblings']
  cases ho : Operator.ofWord? key with
  | none => exact .rfl
  | some o =>
    rw [← Operator.word_of_ofWord? ho] at hkey
    cases o with
    | pattern | options => cases hkey
    | _ => exact .rfl

/-- In its part, an operator means what it means in the whole expression. -/
theorem operatorHolds_partOf {entries : Entries} {e f : String × Value}
    (hf : f ∈ entries.partOf e) (doc : Value) (route : Route) :
    OperatorHolds (entries.partOf e) f.1 f.2 doc route ↔
      OperatorHolds entries f.1 f.2 doc route := by
  unfold Entries.partOf at hf ⊢
  split
  · refine operatorHolds_congr ?_ f.1 f.2 doc route
    have hget (key : String) (hkey : isPatternKey key = true) :
        Entries.get? (entries.filter fun f => isPatternKey f.1) key = entries.get? key :=
      Entries.get?_filter hkey entries
    rw [PatternContext.of, PatternContext.of, hget _ rfl, optionsWord, hget _ rfl]
  · next hkey =>
    rw [if_neg hkey, List.mem_singleton] at hf
    exact operatorHolds_of_not_patternKey (by rw [hf]; simpa using hkey) ..

theorem expressionHolds_iff_parts (entries : Entries) (doc : Value) (route : Route) :
    ExpressionHolds entries doc route ↔
      ∀ e ∈ entries, ExpressionHolds (entries.partOf e) doc route := by
  simp only [ExpressionHolds]
  constructor
  · intro h e he f hf
    exact (operatorHolds_partOf hf doc route).mpr (h f (partOf_subset he hf))
  · intro h e he
    have hself := mem_partOf_self he
    exact (operatorHolds_partOf hself doc route).mp (h e he e hself)

/-! ### The meaning of small queries -/

theorem selects_iff_describes (query doc : Value) : query.Selects doc ↔ query.Describes doc :=
  allClauses_planQuery query doc

theorem selects_object_iff (entries : Entries) (doc : Value) :
    (Value.object entries).Selects doc ↔ ∀ e ∈ entries, EntryHolds e.1 e.2 doc := by
  rw [selects_iff_describes, Value.Describes, ConditionHolds]

theorem selects_singleton_iff (key : String) (v doc : Value) :
    (Value.object [(key, v)]).Selects doc ↔ EntryHolds key v doc := by
  rw [selects_object_iff, List.forall_mem_singleton]

theorem selects_connectiveQuery_iff (c : Connective) (conditions : List Entries) (doc : Value) :
    (connectiveQuery c (conditions.map .object)).Selects doc ↔
      match c with
      | .and => ∀ entries ∈ conditions, (Value.object entries).Selects doc
      | .or => ∃ entries ∈ conditions, (Value.object entries).Selects doc
      | .nor => ∀ entries ∈ conditions, ¬ (Value.object entries).Selects doc := by
  have hobjects : ∀ query ∈ conditions.map Value.object, ∃ entries, query = .object entries :=
    List.forall_mem_map.mpr fun entries _ => ⟨entries, rfl⟩
  rw [connectiveQuery, selects_singleton_iff, EntryHolds.eq_def, Connective.ofWord?_word]
  simp only [and_iff_right hobjects, selects_iff_describes]
  cases c with
  | and | nor => exact List.forall_mem_map
  | or =>
    constructor
    · rintro ⟨query, hquery, h⟩
      obtain ⟨entries, hentries, rfl⟩ := List.mem_map.mp hquery
      exact ⟨entries, hentries, h⟩
    · rintro ⟨entries, hentries, h⟩
      exact ⟨.object entries, List.mem_map_of_mem hentries, h⟩

section
variable {field : String} (hfield : Connective.ofWord? field = none)
include hfield

theorem selects_fieldQuery_expression {entries : Entries} (h : isExpression entries = true)
    (doc : Value) :
    (fieldQuery field (.object entries)).Selects doc ↔
      ExpressionHolds entries doc (.ofName field) := by
  rw [fieldQuery, selects_singleton_iff, EntryHolds.eq_def, hfield]
  simp only [h, if_true]

/-- A value that is no expression asks for equality. -/
theorem selects_fieldQuery_literal {v : Value}
    (h : ∀ entries, v = .object entries → isExpression entries = false) (doc : Value) :
    (fieldQuery field v).Selects doc ↔ EqualAt v doc (.ofName field) := by
  rw [fieldQuery, selects_singleton_iff, EntryHolds.eq_def, hfield]
  cases v with
  | object entries => simp only [h entries rfl, Bool.false_eq_true, if_false]
  | _ => exact .rfl

theorem selects_fieldQuery_operator (o : Operator) (v doc : Value) :
    (fieldQuery field (operatorObject o v)).Selects doc ↔
      OperatorHolds [(o.word, v)] o.word v doc (.ofName field) := by
  rw [operatorObject, selects_fieldQuery_expression hfield (isExpression_operator o v),
    ExpressionHolds, List.forall_mem_singleton]

/-! ### Negated operators -/

theorem selects_not_iff {entries : Entries} (h : isExpression entries = true) (doc : Value) :
    (fieldQuery field (operatorObject .not (.object entries))).Selects doc ↔
      ¬ (fieldQuery field (.object entries)).Selects doc := by
  rw [selects_fieldQuery_operator hfield, selects_fieldQuery_expression hfield h,
    OperatorHolds.eq_def, Operator.ofWord?_word]
  simp only [h, true_and]

theorem selects_eq_iff (v doc : Value) :
    (fieldQuery field (operatorObject .eq v)).Selects doc ↔ EqualAt v doc (.ofName field) := by
  rw [selects_fieldQuery_operator hfield, OperatorHolds.eq_def, Operator.ofWord?_word]

theorem selects_ne_iff (v doc : Value) :
    (fieldQuery field (operatorObject .ne v)).Selects doc ↔
      ¬ (fieldQuery field (operatorObject .eq v)).Selects doc := by
  rw [selects_eq_iff hfield, selects_fieldQuery_operator hfield, OperatorHolds.eq_def,
    Operator.ofWord?_word]

theorem selects_notAmong_iff (operands : List Value) (doc : Value) :
    (fieldQuery field (operatorObject .notAmong (.array operands))).Selects doc ↔
      ¬ (fieldQuery field (operatorObject .among (.array operands))).Selects doc := by
  rw [selects_fieldQuery_operator hfield, selects_fieldQuery_operator hfield,
    OperatorHolds.eq_def, OperatorHolds.eq_def, Operator.ofWord?_word, Operator.ofWord?_word]
  simp only [Value.array.injEq, exists_eq_left']

end

/-- **The Boolean laws.** A condition is the conjunction of its entries and an expression that of
its parts; the connectives are conjunction, disjunction and its negation, for lists of any length;
`$not`, `$ne` and `$nin` negate an expression, `$eq` and `$in`, also where an operand is malformed;
and a value that is no expression asks for equality. -/
theorem Filter.boolean_laws (doc : Value) :
    (∀ entries : Entries,
      (Value.object entries).Selects doc ↔ ∀ e ∈ entries, (Value.object [e]).Selects doc) ∧
    (∀ conditions : List Entries,
      ((connectiveQuery .and (conditions.map .object)).Selects doc ↔
        ∀ entries ∈ conditions, (Value.object entries).Selects doc) ∧
      ((connectiveQuery .or (conditions.map .object)).Selects doc ↔
        ∃ entries ∈ conditions, (Value.object entries).Selects doc) ∧
      ((connectiveQuery .nor (conditions.map .object)).Selects doc ↔
        ∀ entries ∈ conditions, ¬ (Value.object entries).Selects doc)) ∧
    ∀ field, Connective.ofWord? field = none →
      (∀ expression : Entries, isExpression expression = true →
        ((fieldQuery field (.object expression)).Selects doc ↔
          ∀ e ∈ expression, (fieldQuery field (.object (expression.partOf e))).Selects doc) ∧
        ((fieldQuery field (operatorObject .not (.object expression))).Selects doc ↔
          ¬ (fieldQuery field (.object expression)).Selects doc)) ∧
      (∀ v, (fieldQuery field (operatorObject .ne v)).Selects doc ↔
        ¬ (fieldQuery field (operatorObject .eq v)).Selects doc) ∧
      (∀ operands, (fieldQuery field (operatorObject .notAmong (.array operands))).Selects doc ↔
        ¬ (fieldQuery field (operatorObject .among (.array operands))).Selects doc) ∧
      ∀ v, (∀ expression, v = .object expression → isExpression expression = false) →
        ((fieldQuery field v).Selects doc ↔
          (fieldQuery field (operatorObject .eq v)).Selects doc) := by
  refine ⟨fun entries => ?condition, fun conditions => ?connectives, fun field hfield =>
    ⟨fun expression hkeys => ⟨?parts, selects_not_iff hfield hkeys doc⟩,
      fun v => selects_ne_iff hfield v doc,
      fun operands => selects_notAmong_iff hfield operands doc, fun v hv => ?literal⟩⟩
  case condition =>
    rw [selects_object_iff]
    exact forall₂_congr fun e _ => (selects_singleton_iff e.1 e.2 doc).symm
  case connectives =>
    exact ⟨selects_connectiveQuery_iff .and conditions doc,
      selects_connectiveQuery_iff .or conditions doc,
      selects_connectiveQuery_iff .nor conditions doc⟩
  case parts =>
    rw [selects_fieldQuery_expression hfield hkeys, expressionHolds_iff_parts]
    exact forall₂_congr fun e he =>
      (selects_fieldQuery_expression hfield (isExpression_partOf hkeys he) doc).symm
  case literal =>
    rw [selects_fieldQuery_literal hfield hv, selects_eq_iff hfield]

/-- Two conjuncts of a range that different items satisfy: the expression holds, its negation
does not, and neither does the literal, for the array has no item that equals it. -/
theorem Filter.boolean_laws_of_range :
    let doc : Value := .object [("n", .array [.integer 0, .integer 9])]
    let range : Entries := [("$gt", .integer 1), ("$lt", .integer 5)]
    Connective.ofWord? "n" = none ∧ isExpression range = true ∧
      (fieldQuery "n" (.object range)).Selects doc ∧
      ¬ (fieldQuery "n" (operatorObject .not (.object range))).Selects doc ∧
      ¬ (fieldQuery "n" (.object [("a", .null)])).Selects doc := by
  intro doc range
  obtain ⟨-, -, hfields⟩ := boolean_laws doc
  obtain ⟨hexpressions, -, -, hliterals⟩ := hfields "n" rfl
  obtain ⟨hparts, hnot⟩ := hexpressions range rfl
  have hliteral := hliterals (.object [("a", .null)]) fun _ h => by cases h; rfl
  have hrange : (fieldQuery "n" (.object range)).Selects doc := hparts.mpr (by decide)
  exact ⟨rfl, rfl, hrange, fun h => hnot.mp h hrange, fun h => absurd (hliteral.mp h) (by decide)⟩

end DocumentFilter
