import DocumentFilter.Filter.Operand

/-! From a query to its plan.

An entry of a condition is a connective or a field. The value of a field is an
expression when it is an object that is not empty and has only operators as keys; any
other value is a literal. Planning never fails: an operand of the wrong shape becomes a
fault in the plan. -/
namespace DocumentFilter

/-- The word that holds the options of a pattern. -/
def optionsWord : String := Operator.options.word

/-- The word of an element test. -/
def elementWord : String := Operator.element.word

/-- Is the object an expression: not empty, and all its keys operators? -/
def isExpression (entries : Entries) : Bool :=
  !entries.isEmpty && entries.all fun e => (Operator.ofWord? e.1).isSome

/-- What the options of an expression depend on: whether there is a pattern beside
them, and what they are. -/
structure PatternContext where
  hasPattern : Bool
  options : Option Value

def PatternContext.of (entries : Entries) : PatternContext :=
  ⟨(entries.get? Operator.pattern.word).isSome, entries.get? optionsWord⟩

/-- Does the list hold an element test? -/
def hasElementTest (items : List Value) : Bool :=
  items.any fun
    | .object entries => (Entries.get? entries elementWord).isSome
    | _ => false

/-- A list operand. -/
def listTest (operator : Operator) (field : String) (test : List Value → Test) : Value → Test
  | .array items => test items
  | v => .invalid (.operandNotList operator field v.kind)

/-- A test, or the fault of its operand. -/
def testOf {ε α : Type} (fault : ε → Fault) (test : α → Test) : Except ε α → Test
  | .ok a => test a
  | .error e => .invalid (fault e)

mutual

/-- The plan of one entry of a condition. -/
def planClause (key : String) (v : Value) : Clause :=
  match Connective.ofWord? key with
  | some c =>
    match v with
    | .array items =>
      match planConditions c 0 items with
      | .ok conditions => .connective c conditions
      | .error fault => .invalid fault
    | v => .invalid (.connectiveOperand c v.kind)
  | none =>
    match v with
    | .object entries =>
      if isExpression entries then
        .expression (.ofName key) (planTests key (.of entries) entries)
      else .literal (.ofName key) (.object entries)
    | v => .literal (.ofName key) v
  termination_by structural v

/-- The plan of a condition. -/
def planClauses (entries : Entries) : Condition :=
  match entries with
  | [] => []
  | (key, v) :: rest => planClause key v :: planClauses rest
  termination_by structural entries

/-- The plans of the conditions in the list of a connective, up to the first that is
none. -/
def planConditions (c : Connective) (index : Nat) (items : List Value) :
    Except Fault (List Condition) :=
  match items with
  | [] => .ok []
  | .object entries :: rest =>
    match planConditions c (index + 1) rest with
    | .ok conditions => .ok (planClauses entries :: conditions)
    | .error fault => .error fault
  | v :: _ => .error (.connectiveElement c index v.kind)
  termination_by structural items

/-- The plan of one entry of an expression. Options are part of the pattern beside
them, and a key that is no operator is passed over. -/
def planTest? (field : String) (context : PatternContext) (key : String) (v : Value) :
    Option Test :=
  match Operator.ofWord? key with
  | none => none
  | some .eq => some (.eq v)
  | some .ne => some (.ne v)
  | some .gt => some (.relation .gt v)
  | some .gte => some (.relation .gte v)
  | some .lt => some (.relation .lt v)
  | some .lte => some (.relation .lte v)
  | some .among => some (listTest .among field .among v)
  | some .notAmong => some (listTest .notAmong field .notAmong v)
  | some .not =>
    match v with
    | .regex p => some (.notPattern p)
    | .object entries =>
      if isExpression entries then
        some (.notExpression (planTests field (.of entries) entries))
      else some (.invalid (.notOperand field .object))
    | v => some (.invalid (.notOperand field v.kind))
  | some .exist => some (.exist v.isTruthy)
  | some .pattern => some (testOf id .pattern (patternOperand field v context.options))
  | some .options => if context.hasPattern then none else some (.invalid (.optionsAlone field))
  | some .modulo =>
    some (testOf (.moduloOperand field) (fun (d, r) => .modulo d r) (moduloOperand v))
  | some .size => some (testOf (.sizeOperand field) .size (sizeOperand v))
  | some .all =>
    match v with
    | .array items =>
      if hasElementTest items then some (testOf id .allElements (planElements field 0 items))
      else some (.allValues items)
    | v => some (.invalid (.operandNotList .all field v.kind))
  | some .element =>
    match v with
    | .object entries =>
      if isExpression entries then
        some (.element (.expression (planTests field (.of entries) entries)))
      else some (.element (.condition (planClauses entries)))
    | v => some (.invalid (.elementOperand field v.kind))
  termination_by structural v

/-- The plan of an expression on a field. -/
def planTests (field : String) (context : PatternContext) (entries : Entries) : Expression :=
  match entries with
  | [] => []
  | (key, v) :: rest =>
    match planTest? field context key v with
    | some test => test :: planTests field context rest
    | none => planTests field context rest
  termination_by structural entries

/-- The plan of an element test in a list: an expression on the item, or a query of its
own. -/
def planElement (field : String) (v : Value) : Except Fault ElementTest :=
  match v with
  | .object entries =>
    if isExpression entries then .ok (.expression (planTests field (.of entries) entries))
    else .ok (.condition (planClauses entries))
  | v => .error (.elementOperand field v.kind)
  termination_by structural v

/-- The plan of an element test that is the only entry of an object. -/
def planWrapped (field : String) (index : Nat) (entries : Entries) : Except Fault ElementTest :=
  match entries with
  | [(key, v)] =>
    if key = elementWord then planElement field v else .error (.mixedElements field index)
  | _ => .error (.mixedElements field index)
  termination_by structural entries

/-- The plans of a list of element tests, each wrapped in an object, up to the first that
is malformed. -/
def planElements (field : String) (index : Nat) (items : List Value) :
    Except Fault (List ElementTest) :=
  match items with
  | [] => .ok []
  | .object entries :: rest =>
    match planWrapped field index entries with
    | .error fault => .error fault
    | .ok e =>
      match planElements field (index + 1) rest with
      | .ok more => .ok (e :: more)
      | .error fault => .error fault
  | _ :: _ => .error (.mixedElements field index)
  termination_by structural items

end

/-- The plan of a query, which has to be an object. -/
def planQuery : Value → Condition
  | .object entries => planClauses entries
  | v => [.invalid (.rootNotObject v.kind)]

/-- The plan of an expression object on a field. -/
def planExpression (field : String) (entries : Entries) : Expression :=
  planTests field (.of entries) entries

end DocumentFilter
