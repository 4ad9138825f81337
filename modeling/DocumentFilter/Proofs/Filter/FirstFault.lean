import DocumentFilter.Proofs.Filter.Grammar

/-! The first fault of a query, in the order in which it is written.

`findings` walks through a query depth first and notes every violation where it meets one: entries
in the order of their keys, items in the order of their lists, and all that is inside one item
before anything in the next. A check does not quite go this way. It asks for the shape of every item
of a list before it looks into the first, so what it reports is the first violation that is not
hidden: that has no item of the wrong shape behind it in a list around it. -/
namespace DocumentFilter

/-- A violation that a walk through a query meets. -/
structure Finding where
  fault : Fault
  /-- Does an item of the wrong shape stand behind it, in a list around it? -/
  hidden : Bool
deriving DecidableEq

namespace Finding

def plain (fault : Fault) : Finding := ⟨fault, false⟩

/-- The finding inside an item of a list, with an item of the wrong shape behind that or not. -/
def before (wrong : Bool) (f : Finding) : Finding := { f with hidden := wrong || f.hidden }

/-- The fault, unless it is hidden. -/
def shown? (f : Finding) : Option Fault := if f.hidden then none else some f.fault

end Finding

/-! ### The walk -/

/-- The fault of an operand that cannot be read. -/
def faultOf? {ε α : Type} (fault : ε → Fault) : Except ε α → Option Fault
  | .ok _ => none
  | .error e => some (fault e)

/-- The fault of an operand that is no list. -/
def listFault? (operator : Operator) (field : String) : Value → Option Fault
  | .array _ => none
  | v => some (.operandNotList operator field v.kind)

/-- What is wrong with the operand of an operator, apart from what is wrong inside it. A pattern and
the options beside it are one operator, which stands where the pattern does. -/
def operandFault? (field : String) (context : PatternContext) (v : Value) :
    Operator → Option Fault
  | .eq | .ne | .gt | .gte | .lt | .lte | .exist => none
  | .among => listFault? .among field v
  | .notAmong => listFault? .notAmong field v
  | .not =>
    match v with
    | .regex _ => none
    | .object entries => if isExpression entries then none else some (.notOperand field .object)
    | v => some (.notOperand field v.kind)
  | .pattern => faultOf? id (patternOperand field v context.options)
  | .options => if context.hasPattern then none else some (.optionsAlone field)
  | .modulo => faultOf? (.moduloOperand field) (moduloOperand v)
  | .size => faultOf? (.sizeOperand field) (sizeOperand v)
  | .all => listFault? .all field v
  | .element =>
    match v with
    | .object _ => none
    | v => some (.elementOperand field v.kind)

/-- What is wrong with an item among element tests, apart from what is wrong inside it. -/
def wrapperFault? (field : String) (index : Nat) : Value → Option Fault
  | .object [(key, v)] =>
    if key = elementWord then operandFault? field ⟨false, none⟩ v .element
    else some (.mixedElements field index)
  | _ => some (.mixedElements field index)

mutual

/-- The violations in a condition, in the order in which it is written. -/
def conditionFindings (entries : Entries) : List Finding :=
  match entries with
  | [] => []
  | (key, v) :: rest => entryFindings key v ++ conditionFindings rest
  termination_by structural entries

def entryFindings (key : String) (v : Value) : List Finding :=
  match Connective.ofWord? key, v with
  | some c, .array items => conditionListFindings c 0 items
  | some c, v => [.plain (.connectiveOperand c v.kind)]
  | none, .object entries =>
    if isExpression entries then expressionFindings key (.of entries) entries else []
  | none, _ => []
  termination_by structural v

def conditionListFindings (c : Connective) (index : Nat) (items : List Value) : List Finding :=
  match items with
  | [] => []
  | .object entries :: rest =>
    (conditionFindings entries).map (.before (rest.any fun v => v.entries?.isNone)) ++
      conditionListFindings c (index + 1) rest
  | v :: rest =>
    .plain (.connectiveElement c index v.kind) :: conditionListFindings c (index + 1) rest
  termination_by structural items

def expressionFindings (field : String) (context : PatternContext) (entries : Entries) :
    List Finding :=
  match entries with
  | [] => []
  | (key, v) :: rest =>
    operatorFindings field context key v ++ expressionFindings field context rest
  termination_by structural entries

def operatorFindings (field : String) (context : PatternContext) (key : String) (v : Value) :
    List Finding :=
  match Operator.ofWord? key with
  | none => []
  | some o =>
    match operandFault? field context v o with
    | some fault => [.plain fault]
    | none =>
      match o, v with
      | .not, .object entries => expressionFindings field (.of entries) entries
      | .all, .array items =>
        if hasElementTest items then wrapperListFindings field 0 items else []
      | .element, .object entries =>
        if isExpression entries then expressionFindings field (.of entries) entries
        else conditionFindings entries
      | _, _ => []
  termination_by structural v

def wrapperListFindings (field : String) (index : Nat) (items : List Value) : List Finding :=
  match items with
  | [] => []
  | v :: rest =>
    match wrapperFault? field index v with
    | some fault => .plain fault :: wrapperListFindings field (index + 1) rest
    | none =>
      (wrapperFindings field v).map (.before (rest.any fun v => v.unwrapped?.isNone)) ++
        wrapperListFindings field (index + 1) rest
  termination_by structural items

def wrapperFindings (field : String) (v : Value) : List Finding :=
  match v with
  | .object [(_, .object entries)] =>
    if isExpression entries then expressionFindings field (.of entries) entries
    else conditionFindings entries
  | _ => []
  termination_by structural v

end

/-- The violations in an element test: an expression on the item, or a query of its own. -/
def elementFindings (field : String) (entries : Entries) : List Finding :=
  if isExpression entries then expressionFindings field (.of entries) entries
  else conditionFindings entries

/-- The violations in a query, in the order in which it is written. -/
def Value.findings : Value → List Finding
  | .object entries => conditionFindings entries
  | v => [.plain (.rootNotObject v.kind)]

/-! ### What a walk shows -/

/-- The fault is the first that the findings show; without a fault there are no findings. -/
structure Reports (findings : List Finding) (fault : Option Fault) : Prop where
  shows : findings.findSome? Finding.shown? = fault
  complete : fault = none → findings = []

namespace Reports

variable {l m : List Finding} {a b : Option Fault}

theorem nil : Reports [] none := ⟨rfl, fun _ => rfl⟩

theorem plain (fault : Fault) (l : List Finding) : Reports (.plain fault :: l) (some fault) :=
  ⟨rfl, nofun⟩

theorem append (hl : Reports l a) (hm : Reports m b) : Reports (l ++ m) (a <|> b) where
  shows := by
    rw [List.findSome?_append, hl.shows, hm.shows]
    cases a <;> rfl
  complete h := by
    cases a with
    | none => rw [hl.complete rfl, hm.complete h, List.append_nil]
    | some fault => cases h

/-- With no item of the wrong shape behind it, an item shows what is in it. -/
theorem item (hl : Reports l a) (hm : Reports m b) :
    Reports (l.map (.before false) ++ m) (a <|> b) := by
  have hsame : l.map (.before false) = l := by
    refine (List.map_congr_left fun f _ => ?_).trans l.map_id
    rw [Finding.before, Bool.false_or]
    rfl
  rw [hsame]
  exact hl.append hm

/-- An item of the wrong shape hides what is in the items before it. -/
theorem hidden_item (l : List Finding) {fault : Fault} (hm : Reports m (some fault)) :
    Reports (l.map (.before true) ++ m) (some fault) where
  shows := by
    have hnone : (l.map (.before true)).findSome? Finding.shown? = none := by
      rw [List.findSome?_map, List.findSome?_eq_none_iff]
      intro f _
      rfl
    rw [List.findSome?_append, hnone, Option.none_or, hm.shows]
  complete := nofun

end Reports

/-! ### Lists that a plan stops in -/

/-- The plan of a list of conditions breaks off just when some item is none. -/
theorem any_isNone_entries? (c : Connective) (index : Nat) (items : List Value) :
    (items.any fun v => v.entries?.isNone) = !(planConditions c index items).isOk := by
  induction items generalizing index with
  | nil => rfl
  | cons v rest ih =>
    cases v with
    | object entries =>
      rw [List.any_cons, ih (index + 1), planConditions]
      cases planConditions c (index + 1) rest <;> rfl
    | _ => rfl

/-- The fault of a list of conditions: of its first item that is none, or else in one of them. -/
def conditionsOutcome? : Except Fault (List Condition) → Option Fault
  | .ok conditions => conditionsFault? conditions
  | .error fault => some fault

/-- Conditions in a list, when the walk through each shows what the check finds in it. -/
theorem reports_conditionListFindings (c : Connective) (index : Nat) (items : List Value)
    (h : ∀ entries, .object entries ∈ items →
      Reports (conditionFindings entries) (clausesFault? (planClauses entries))) :
    Reports (conditionListFindings c index items)
      (conditionsOutcome? (planConditions c index items)) := by
  induction items generalizing index with
  | nil => exact .nil
  | cons v rest ih =>
    cases v with
    | object entries =>
      have hfirst := h entries (List.mem_cons_self ..)
      have hrest := ih (index + 1) fun e he => h e (List.mem_cons_of_mem _ he)
      rw [conditionListFindings, any_isNone_entries? c (index + 1), planConditions]
      generalize planConditions c (index + 1) rest = plan at hrest ⊢
      cases plan with
      | ok conditions => exact hfirst.item hrest
      | error fault => exact hrest.hidden_item _
    | _ => exact .plain _ _

/-- An item of an element list has the right shape just when it is a wrapper of an object. -/
theorem wrapperFault?_eq_none_iff (field : String) (index : Nat) (v : Value) :
    wrapperFault? field index v = none ↔ ∃ entries, v.unwrapped? = some entries := by
  simp only [Value.unwrapped?_eq_some_iff]
  cases v with
  | object wrapper =>
    rcases wrapper with _ | ⟨⟨key, inner⟩, _ | ⟨e, rest⟩⟩
    · exact iff_of_false nofun fun ⟨_, h⟩ => nomatch h
    · simp only [Value.object.injEq, List.cons.injEq, Prod.mk.injEq, and_true, exists_and_left]
      rw [wrapperFault?]
      by_cases hkey : key = elementWord
      · rw [if_pos hkey, and_iff_right hkey]
        cases inner with
        | object entries => exact iff_of_true rfl ⟨entries, rfl⟩
        | _ => exact iff_of_false nofun fun ⟨_, h⟩ => nomatch h
      · rw [if_neg hkey]
        exact iff_of_false nofun fun h => hkey h.1
    · exact iff_of_false nofun fun ⟨_, h⟩ => nomatch h
  | _ => exact iff_of_false nofun fun ⟨_, h⟩ => nomatch h

theorem planWrapped_of_fault {field : String} {index : Nat} {entries : Entries} {fault : Fault}
    (h : wrapperFault? field index (.object entries) = some fault) :
    planWrapped field index entries = .error fault := by
  rcases entries with _ | ⟨⟨key, v⟩, _ | ⟨e, rest⟩⟩
  · cases h
    rfl
  · rw [wrapperFault?] at h
    rw [planWrapped]
    split at h
    · next hkey =>
      rw [if_pos hkey]
      cases v with
      | object _ => cases h
      | _ =>
        cases h
        rfl
    · next hkey =>
      cases h
      rw [if_neg hkey]
  · cases h
    rfl

theorem planElements_cons_of_fault {field : String} {index : Nat} {v : Value} {fault : Fault}
    (h : wrapperFault? field index v = some fault) (rest : List Value) :
    planElements field index (v :: rest) = .error fault := by
  cases v with
  | object entries => rw [planElements, planWrapped_of_fault h]
  | _ =>
    cases h
    rfl

theorem planElements_cons_of_unwrapped {v : Value} {entries : Entries}
    (h : v.unwrapped? = some entries) (field : String) (index : Nat) (rest : List Value) :
    planElements field index (v :: rest) =
      (planElements field (index + 1) rest).map (elementOf field entries :: ·) := by
  rw [Value.unwrapped?_eq_some_iff.mp h, planElements, planWrapped_eq_ok]
  cases planElements field (index + 1) rest <;> rfl

/-- The plan of a list of element tests breaks off just when some item is no wrapper. -/
theorem any_isNone_unwrapped? (field : String) (index : Nat) (items : List Value) :
    (items.any fun v => v.unwrapped?.isNone) = !(planElements field index items).isOk := by
  by_cases hall : ∀ v ∈ items, v.unwrapped?.isSome = true
  · rw [planElements_of_wrapped field index items hall]
    refine List.any_eq_false.mpr fun v hv => ?_
    obtain ⟨entries, hentries⟩ := Option.isSome_iff_exists.mp (hall v hv)
    rw [hentries]
    exact Bool.false_ne_true
  · obtain ⟨fault, hfault⟩ := planElements_of_not_wrapped field index items hall
    rw [hfault]
    refine List.any_eq_true.mpr ?_
    simpa using hall

/-- Element tests in a list, when the walk through each shows what the check finds in it. -/
theorem reports_wrapperListFindings (field : String) (index : Nat) (items : List Value)
    (h : ∀ v ∈ items, ∀ entries, v.unwrapped? = some entries →
      Reports (elementFindings field entries) (elementOf field entries).fault?) :
    Reports (wrapperListFindings field index items)
      (testOf id .allElements (planElements field index items)).fault? := by
  induction items generalizing index with
  | nil => exact .nil
  | cons v rest ih =>
    have hrest := ih (index + 1) fun w hw => h w (List.mem_cons_of_mem _ hw)
    rw [wrapperListFindings]
    cases hfault : wrapperFault? field index v with
    | some fault =>
      rw [planElements_cons_of_fault hfault]
      exact .plain _ _
    | none =>
      obtain ⟨entries, hv⟩ := (wrapperFault?_eq_none_iff field index v).mp hfault
      have hfirst := h v (List.mem_cons_self ..) entries hv
      have hinside : wrapperFindings field v = elementFindings field entries := by
        rw [Value.unwrapped?_eq_some_iff.mp hv]
        rfl
      rw [planElements_cons_of_unwrapped hv, any_isNone_unwrapped? field (index + 1), hinside]
      generalize planElements field (index + 1) rest = plan at hrest ⊢
      cases plan with
      | ok elements => exact hfirst.item hrest
      | error fault => exact hrest.hidden_item _

/-! ### The walk shows what the check reports -/

/-- The fault of a test of an operand is that of the operand. -/
theorem reports_testOf {ε α : Type} {fault : ε → Fault} {test : α → Test}
    (htest : ∀ a, (test a).fault? = none) (operand : Except ε α) :
    Reports (match faultOf? fault operand with | some fault => [.plain fault] | none => [])
      (testOf fault test operand).fault? := by
  cases operand with
  | ok a =>
    rw [testOf, htest]
    exact .nil
  | error e => exact .plain _ _

theorem testsFault?_planTests_cons (field : String) (context : PatternContext) (key : String)
    (v : Value) (rest : Entries) :
    testsFault? (planTests field context ((key, v) :: rest)) =
      ((planTest? field context key v).bind Test.fault? <|>
        testsFault? (planTests field context rest)) := by
  rw [planTests]
  cases planTest? field context key v <;> rfl

-- The recursion follows the walk down to single items, which the lemmas on lists put together.
mutual

theorem reports_conditionFindings (entries : Entries) :
    Reports (conditionFindings entries) (clausesFault? (planClauses entries)) := by
  cases entries with
  | nil => exact .nil
  | cons e rest =>
    obtain ⟨key, v⟩ := e
    rw [conditionFindings, planClauses, clausesFault?]
    exact (reports_entryFindings key v).append (reports_conditionFindings rest)
  termination_by (sizeOf entries, 0)

theorem reports_entryFindings (key : String) (v : Value) :
    Reports (entryFindings key v) (planClause key v).fault? := by
  rw [entryFindings.eq_def, planClause.eq_def]
  cases Connective.ofWord? key with
  | some c =>
    cases v with
    | array items =>
      have hlist := reports_conditionListFindings c 0 items fun entries hentries =>
        reports_conditionFindings entries
      simp only
      generalize planConditions c 0 items = plan at hlist ⊢
      cases plan with
      | ok conditions => exact hlist
      | error fault => exact hlist
    | _ => exact .plain _ _
  | none =>
    cases v with
    | object entries =>
      simp only
      by_cases hkeys : isExpression entries = true
      · rw [if_pos hkeys, if_pos hkeys]
        exact reports_expressionFindings key (.of entries) entries
      · rw [if_neg hkeys, if_neg hkeys]
        exact .nil
    | _ => exact .nil
  termination_by (sizeOf v, 0)
  decreasing_by
    · decreasing_tactic
    · have hlt := Value.sizeOf_lt_of_mem hentries
      rw [Value.object.sizeOf_spec] at hlt
      exact .left _ _ (by omega)

theorem reports_expressionFindings (field : String) (context : PatternContext)
    (entries : Entries) :
    Reports (expressionFindings field context entries)
      (testsFault? (planTests field context entries)) := by
  cases entries with
  | nil => exact .nil
  | cons e rest =>
    obtain ⟨key, v⟩ := e
    rw [expressionFindings, testsFault?_planTests_cons]
    exact (reports_operatorFindings field context key v).append
      (reports_expressionFindings field context rest)
  termination_by (sizeOf entries, 0)

theorem reports_operatorFindings (field : String) (context : PatternContext) (key : String)
    (v : Value) :
    Reports (operatorFindings field context key v)
      ((planTest? field context key v).bind Test.fault?) := by
  rw [operatorFindings.eq_def, planTest?.eq_def]
  cases Operator.ofWord? key with
  | none => exact .nil
  | some o =>
    cases o with
    | eq | ne | gt | gte | lt | lte | exist => exact .nil
    | among | notAmong =>
      cases v with
      | array _ => exact .nil
      | _ => exact .plain _ _
    | not =>
      cases v with
      | regex _ => exact .nil
      | object entries =>
        by_cases hkeys : isExpression entries = true
        · simp only [operandFault?, if_pos hkeys]
          exact reports_expressionFindings field (.of entries) entries
        · simp only [operandFault?, if_neg hkeys]
          exact .plain _ _
      | _ => exact .plain _ _
    | pattern => exact reports_testOf (fun _ => rfl) _
    | options =>
      simp only [operandFault?]
      cases context.hasPattern with
      | true => exact .nil
      | false => exact .plain _ _
    | modulo => exact reports_testOf (fun _ => rfl) _
    | size => exact reports_testOf (fun _ => rfl) _
    | all =>
      cases v with
      | array items =>
        by_cases htests : hasElementTest items = true
        · simp only [operandFault?, listFault?, if_pos htests]
          exact reports_wrapperListFindings field 0 items fun v hv entries hentries =>
            reports_elementFindings field entries
        · simp only [operandFault?, listFault?, if_neg htests]
          exact .nil
      | _ => exact .plain _ _
    | element =>
      cases v with
      | object entries =>
        simp only [operandFault?, some_element_elementOf]
        exact reports_elementFindings field entries
      | _ => exact .plain _ _
  termination_by (sizeOf v, 0)
  decreasing_by
    · decreasing_tactic
    · have hlt := Value.sizeOf_lt_of_unwrapped? hentries
      have := Value.sizeOf_lt_of_mem hv
      exact .left _ _ (by omega)
    · decreasing_tactic

theorem reports_elementFindings (field : String) (entries : Entries) :
    Reports (elementFindings field entries) (elementOf field entries).fault? := by
  rw [elementFindings, elementOf]
  by_cases hkeys : isExpression entries = true
  · rw [if_pos hkeys, if_pos hkeys]
    exact reports_expressionFindings field (.of entries) entries
  · rw [if_neg hkeys, if_neg hkeys]
    exact reports_conditionFindings entries
  -- The entries go on whole to either reading.
  termination_by (sizeOf entries, 1)

end

theorem reports_findings (query : Value) :
    Reports query.findings (clausesFault? (planQuery query)) := by
  cases query with
  | object entries => exact reports_conditionFindings entries
  | _ => exact .plain _ _

/-- The walk finds something in exactly the queries that no rule makes. -/
theorem findings_eq_nil_iff (query : Value) : query.findings = [] ↔ Grammar.Query query := by
  rw [← clausesFault?_planQuery_eq_none_iff]
  constructor
  · intro hnil
    rw [← (reports_findings query).shows, hnil]
    rfl
  · exact (reports_findings query).complete

theorem Finding.shown?_eq_some_iff {f : Finding} {fault : Fault} :
    f.shown? = some fault ↔ f.hidden = false ∧ f.fault = fault := by
  rw [Finding.shown?]
  cases f.hidden <;> simp

theorem Finding.shown?_eq_none_iff {f : Finding} : f.shown? = none ↔ f.hidden = true := by
  rw [Finding.shown?]
  cases f.hidden <;> simp

/-- **The first violation in the query that is not hidden is the one reported.** Up to the first
item of the wrong shape in some list, the check keeps to the written order: a violation is passed
over only if such an item comes after it, in a list that it is inside. -/
theorem Filter.check_reports_first_shown (query : Value) (h : ¬ Grammar.Query query) :
    ∃ before found after, query.findings = before ++ found :: after ∧
      (∀ f ∈ before, f.hidden = true) ∧ found.hidden = false ∧
      (Filter.ofQuery query).check = .error found.fault := by
  have hfault : clausesFault? (planQuery query) ≠ none :=
    mt (clausesFault?_planQuery_eq_none_iff query).mp h
  obtain ⟨fault, hfault⟩ := Option.ne_none_iff_exists'.mp hfault
  have hfirst := (reports_findings query).shows.trans hfault
  obtain ⟨before, found, after, hsplit, hfound, hbefore⟩ :=
    List.findSome?_eq_some_iff.mp hfirst
  obtain ⟨hshown, rfl⟩ := Finding.shown?_eq_some_iff.mp hfound
  refine ⟨before, found, after, hsplit, fun f hf => ?_, hshown, ?_⟩
  · exact Finding.shown?_eq_none_iff.mp (hbefore f hf)
  · rw [Filter.check, Filter.ofQuery, hfault]

/-- Of three violations, the first is passed over for the second, which hides it. -/
theorem Filter.check_reports_first_shown_of_mixed :
    let query : Value := .object [("$or", .array
      [.object [("a", .object [("$all", .array
          [.object [("$elemMatch", .object [("$in", .integer 1)])], .integer 5])])],
        .object [("b", .object [("$size", .integer (-1))])]])]
    ¬ Grammar.Query query ∧
      (∃ before found after, query.findings = before ++ found :: after ∧
        (∀ f ∈ before, f.hidden = true) ∧ found.hidden = false ∧
        (Filter.ofQuery query).check = .error found.fault) ∧
      (Filter.ofQuery query).check = .error (.mixedElements "a" 1) := by
  intro query
  have hwrong : ¬ Grammar.Query query := by
    rw [← findings_eq_nil_iff]
    exact nofun
  exact ⟨hwrong, Filter.check_reports_first_shown query hwrong, rfl⟩

/-- An operand that is no list, in the first of two items. The second item is no condition, and
this is what is reported. -/
theorem Filter.check_passes_over_hidden :
    let query : Value := .object [("$and", .array
      [.object [("a", .object [("$in", .integer 1)])], .integer 5])]
    query.findings.map Finding.fault =
        [.operandNotList .among "a" .integer, .connectiveElement .and 1 .integer] ∧
      (Filter.ofQuery query).check = .error (.connectiveElement .and 1 .integer) :=
  ⟨rfl, rfl⟩

end DocumentFilter
