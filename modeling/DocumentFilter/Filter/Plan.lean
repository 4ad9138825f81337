import DocumentFilter.Document.Route
import DocumentFilter.Filter.Fault

/-! Plans: queries taken apart.

A condition is a list of clauses, all of which have to hold. A clause joins conditions,
compares a field with a literal, or puts tests to it. What is malformed stays in the
plan as a fault in its place, so every query has a plan. -/
namespace DocumentFilter

/-- The relations of the order. -/
inductive Relation where
  | gt | gte | lt | lte
deriving DecidableEq

mutual

/-- One entry of a condition. -/
inductive Clause where
  | connective (c : Connective) (conditions : List (List Clause))
  /-- The field equals a value. -/
  | literal (route : Route) (operand : Value)
  /-- All tests hold of the field. -/
  | expression (route : Route) (tests : List Test)
  | invalid (fault : Fault)

/-- One operator with its operand. -/
inductive Test where
  | eq (operand : Value)
  | ne (operand : Value)
  | relation (r : Relation) (operand : Value)
  | among (operands : List Value)
  | notAmong (operands : List Value)
  | notExpression (tests : List Test)
  | notPattern (p : Pattern)
  | exist (wanted : Bool)
  | pattern (p : Pattern)
  | modulo (divisor remainder : Int64)
  | size (length : Nat)
  /-- The array holds every value. -/
  | allValues (operands : List Value)
  /-- Each element test holds of some item. -/
  | allElements (elements : List ElementTest)
  | element (e : ElementTest)
  | invalid (fault : Fault)

/-- What an item of an array has to satisfy. -/
inductive ElementTest where
  /-- As a document of its own. -/
  | condition (clauses : List Clause)
  /-- As the value of a field. -/
  | expression (tests : List Test)

end

/-- A condition: all its clauses have to hold. -/
abbrev Condition := List Clause

/-- An expression: all its tests have to hold. -/
abbrev Expression := List Test

/-- The operator of a relation. -/
def Relation.operator : Relation → Operator
  | gt => .gt
  | gte => .gte
  | lt => .lt
  | lte => .lte

/-- The operator that a test came from; a malformed one has none. -/
def Test.operator? : Test → Option Operator
  | eq _ => some .eq
  | ne _ => some .ne
  | relation r _ => some r.operator
  | among _ => some .among
  | notAmong _ => some .notAmong
  | notExpression _ | notPattern _ => some .not
  | exist _ => some .exist
  | pattern _ => some .pattern
  | modulo _ _ => some .modulo
  | size _ => some .size
  | allValues _ | allElements _ => some .all
  | element _ => some .element
  | invalid _ => none

end DocumentFilter
