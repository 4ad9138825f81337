import DocumentFilter.Document.Value
import DocumentFilter.Filter.Operator

/-! Faults: what can be wrong with a query.

A fault names the word whose operand has the wrong shape and the field that it is
applied to, as the query spells it. Inside an element test that is the field of the
array. -/
namespace DocumentFilter

/-- What is wrong with the operand of a remainder test. -/
inductive ModuloFault where
  | notList | notPair | notNumber | outOfRange | zeroDivisor
deriving DecidableEq

def ModuloFault.message : ModuloFault → String
  | notList => "requires a [divisor, remainder] list"
  | notPair => "requires exactly two elements"
  | notNumber => "divisor and remainder must be numbers"
  | outOfRange => "out of range"
  | zeroDivisor => "divisor must not be zero"

/-- What is wrong with the operand of a length test. -/
inductive SizeFault where
  | notNumber | negative | notWhole
deriving DecidableEq

def SizeFault.message : SizeFault → String
  | notNumber => "requires a number"
  | negative => "must not be negative"
  | notWhole => "must be a whole number"

/-- A violation of the query language. -/
inductive Fault where
  | rootNotObject (found : Kind)
  | connectiveOperand (connective : Connective) (found : Kind)
  | connectiveElement (connective : Connective) (index : Nat) (found : Kind)
  | operandNotList (operator : Operator) (field : String) (found : Kind)
  /-- A list holds element tests and something else. -/
  | mixedElements (field : String) (index : Nat)
  | elementOperand (field : String) (found : Kind)
  | notOperand (field : String) (found : Kind)
  | moduloOperand (field : String) (reason : ModuloFault)
  | sizeOperand (field : String) (reason : SizeFault)
  | patternOperand (field : String) (found : Kind)
  /-- The options of a pattern are no string. -/
  | optionsOperand (field : String) (found : Kind)
  /-- A pattern cannot be made. -/
  | patternText (field : String) (reason : PatternError)
  | optionsAlone (field : String)
deriving DecidableEq

namespace Fault

/-- A field name as messages show it. -/
def quoted (field : String) : String := "'" ++ field ++ "'"

def message : Fault → String
  | rootNotObject found => "query must be an object, got " ++ found.name
  | connectiveOperand c found =>
    c.word ++ " requires a list of condition objects, got " ++ found.name
  | connectiveElement c index found =>
    c.word ++ " element " ++ toString index ++ " must be a condition object, got " ++ found.name
  | operandNotList o field found =>
    o.word ++ " on " ++ quoted field ++ " requires a list, got " ++ found.name
  | mixedElements field index =>
    "$all on " ++ quoted field ++ ": element " ++ toString index ++
      " must be an \x7b\"$elemMatch\": \x7b...\x7d\x7d wrapper"
  | elementOperand field found =>
    "$elemMatch on " ++ quoted field ++ " requires a condition object, got " ++ found.name
  | notOperand field found =>
    "$not on " ++ quoted field ++ " requires an operator expression or a regex, got " ++ found.name
  | moduloOperand field reason => "$mod on " ++ quoted field ++ ": " ++ reason.message
  | sizeOperand field reason => "$size on " ++ quoted field ++ ": " ++ reason.message
  | patternOperand field found =>
    "$regex on " ++ quoted field ++ " requires a string, got " ++ found.name
  | optionsOperand field found =>
    "$regex on " ++ quoted field ++ " does not compile: $options must be a string, got " ++
      found.name
  | patternText field reason =>
    "$regex on " ++ quoted field ++ " does not compile: " ++ reason.message
  | optionsAlone field => "$options on " ++ quoted field ++ " requires a $regex"

end Fault

end DocumentFilter
