import DocumentFilter.Document.Search
import DocumentFilter.Filter.Leaf

/-! Matching: which documents a plan accepts.

Equality, relations, membership, patterns and remainders reach the items of an array
that the route ends at; the operators on whole arrays do not. A negation negates the
outcome of the search and not the test at its end. What is malformed accepts
nothing. -/
namespace DocumentFilter

/-- Is the value at the end of a route equal to the operand? Null equals what is
missing. -/
def fieldEquals (operand doc : Value) (route : Route) : Bool :=
  doc.search (fun v => v.matchesOperand operand) operand.isNull .items route

/-- Is the value at the end of a route equal to some operand? -/
def fieldAmong (operands : List Value) (doc : Value) (route : Route) : Bool :=
  doc.search (fun v => operands.any fun operand => v.matchesOperand operand)
    (operands.any Value.isNull) .items route

/-- Is a pattern found in the value at the end of a route? -/
def fieldContains (p : Pattern) (doc : Value) (route : Route) : Bool :=
  doc.search (Value.contains p) false .items route

mutual

/-- Does one entry of a condition accept the document? -/
def Clause.accepts (clause : Clause) (doc : Value) : Bool :=
  match clause with
  | .connective .and conditions => allConditions conditions doc
  | .connective .or conditions => anyCondition conditions doc
  | .connective .nor conditions => !anyCondition conditions doc
  | .literal route operand => fieldEquals operand doc route
  | .expression route tests => allTests tests doc route
  | .invalid _ => false
  termination_by structural clause

/-- Do all clauses accept the document? -/
def allClauses (clauses : List Clause) (doc : Value) : Bool :=
  match clauses with
  | [] => true
  | clause :: rest => clause.accepts doc && allClauses rest doc
  termination_by structural clauses

def allConditions (conditions : List (List Clause)) (doc : Value) : Bool :=
  match conditions with
  | [] => true
  | condition :: rest => allClauses condition doc && allConditions rest doc
  termination_by structural conditions

def anyCondition (conditions : List (List Clause)) (doc : Value) : Bool :=
  match conditions with
  | [] => false
  | condition :: rest => allClauses condition doc || anyCondition rest doc
  termination_by structural conditions

/-- Does one test hold of the field? -/
def Test.accepts (test : Test) (doc : Value) (route : Route) : Bool :=
  match test with
  | .eq operand => fieldEquals operand doc route
  | .ne operand => !fieldEquals operand doc route
  | .relation r operand =>
    doc.search (fun v => v.relatesTo r operand) (r.holdsOfMissing operand) .items route
  | .among operands => fieldAmong operands doc route
  | .notAmong operands => !fieldAmong operands doc route
  | .notExpression tests => !allTests tests doc route
  | .notPattern p => !fieldContains p doc route
  | .exist wanted => doc.search (fun _ => true) false .whole route == wanted
  | .pattern p => fieldContains p doc route
  | .modulo divisor remainder => doc.search (Value.leaves divisor remainder) false .items route
  | .size length => doc.search (Value.hasLength length) false .whole route
  | .allValues operands =>
    !operands.isEmpty && doc.search (Value.holdsAll operands) false .whole route
  | .allElements elements =>
    doc.search (fun v => v.items?.any fun items => allElements elements items) false .whole route
  | .element e =>
    doc.search (fun v => v.items?.any fun items => items.any fun item => e.accepts item) false
      .whole route
  | .invalid _ => false
  termination_by structural test

/-- Do all tests hold of the field? -/
def allTests (tests : List Test) (doc : Value) (route : Route) : Bool :=
  match tests with
  | [] => true
  | test :: rest => test.accepts doc route && allTests rest doc route
  termination_by structural tests

/-- Does an item satisfy an element test? -/
def ElementTest.accepts (e : ElementTest) (item : Value) : Bool :=
  match e with
  | .condition clauses => allClauses clauses item
  | .expression tests => allTests tests item []
  termination_by structural e

/-- Does each element test hold of some item? -/
def allElements (elements : List ElementTest) (items : List Value) : Bool :=
  match elements with
  | [] => true
  | e :: rest => items.any (fun item => e.accepts item) && allElements rest items
  termination_by structural elements

end

end DocumentFilter
