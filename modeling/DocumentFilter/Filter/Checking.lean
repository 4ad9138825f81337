import DocumentFilter.Filter.Plan

/-! Checking a plan for faults.

The first fault is the first one of the plan: clauses and tests come in the order of their keys, and
what is inside an item of a list before the items after it. It need not be the first one written. A
list with an item of the wrong shape is planned as that one fault, and the faults inside the items
before it are not in the plan. -/
namespace DocumentFilter

mutual

/-- The first fault of a clause. -/
def Clause.fault? (clause : Clause) : Option Fault :=
  match clause with
  | .connective _ conditions => conditionsFault? conditions
  | .literal _ _ => none
  | .expression _ tests => testsFault? tests
  | .invalid fault => some fault
  termination_by structural clause

/-- The first fault of a condition. -/
def clausesFault? (clauses : List Clause) : Option Fault :=
  match clauses with
  | [] => none
  | clause :: rest => clause.fault? <|> clausesFault? rest
  termination_by structural clauses

def conditionsFault? (conditions : List (List Clause)) : Option Fault :=
  match conditions with
  | [] => none
  | condition :: rest => clausesFault? condition <|> conditionsFault? rest
  termination_by structural conditions

/-- The first fault of a test. -/
def Test.fault? (test : Test) : Option Fault :=
  match test with
  | .invalid fault => some fault
  | .notExpression tests => testsFault? tests
  | .element e => e.fault?
  | .allElements elements => elementsFault? elements
  | .eq _ | .ne _ | .relation _ _ | .among _ | .notAmong _ | .notPattern _ | .exist _
  | .pattern _ | .modulo _ _ | .size _ | .allValues _ => none
  termination_by structural test

/-- The first fault of an expression. -/
def testsFault? (tests : List Test) : Option Fault :=
  match tests with
  | [] => none
  | test :: rest => test.fault? <|> testsFault? rest
  termination_by structural tests

def ElementTest.fault? (e : ElementTest) : Option Fault :=
  match e with
  | .condition clauses => clausesFault? clauses
  | .expression tests => testsFault? tests
  termination_by structural e

def elementsFault? (elements : List ElementTest) : Option Fault :=
  match elements with
  | [] => none
  | e :: rest => e.fault? <|> elementsFault? rest
  termination_by structural elements

end

end DocumentFilter
