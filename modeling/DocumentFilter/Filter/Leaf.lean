import DocumentFilter.Document.Alignment
import DocumentFilter.Document.Order
import DocumentFilter.Filter.Plan

/-! What the operators ask of a single value, once a route has led to it. -/
namespace DocumentFilter

namespace Relation

/-- Does the relation hold of values in this order? -/
def accepts : Relation → Ordering → Bool
  | gt, o => o == .gt
  | gte, o => o != .lt
  | lt, o => o == .lt
  | lte, o => o != .gt

/-- Does the relation hold of a missing value? Only the inclusive ones do, and only with
null. -/
def holdsOfMissing (r : Relation) (operand : Value) : Bool :=
  match r with
  | gte | lte => operand.isNull
  | gt | lt => false

end Relation

namespace Value

/-- Equality with an operand. A pattern is searched for in a string; all else is aligned
and compared. -/
def matchesOperand (v operand : Value) : Bool :=
  match v, operand with
  | string s, regex p => p.search s
  | v, operand =>
    let (a, b) := v.align operand
    a.equals b

/-- A relation to an operand, once both are aligned. -/
def relatesTo (r : Relation) (v operand : Value) : Bool :=
  let (a, b) := v.align operand
  (a.compare b).any r.accepts

/-- Is the pattern found in the value, which has to be a string? -/
def contains (p : Pattern) (v : Value) : Bool := v.string?.any p.search

/-! ### Remainders

The remainder of a division toward zero comes first. Where its sign is not that of the divisor,
the divisor is added to it. -/

/-- The remainder of an integer by another, with the sign of the divisor. -/
def integerRemainder (n divisor : Int64) : Int :=
  let r := n.toInt.tmod divisor.toInt
  if r != 0 && decide (r < 0) != decide (divisor.toInt < 0) then r + divisor.toInt else r

/-- The remainder of a float by an integer, with the sign of the divisor. -/
def floatRemainder (x : Binary64) (divisor : Int64) : Binary64 :=
  let d := Binary64.ofInt divisor.toInt
  let r := x.remainder d
  if r.magnitude != 0 && r.isNegative != d.isNegative then r.add d else r

/-- The floor of the remainder of a decimal by an integer, with the sign of the
divisor. -/
def decimalRemainder (x : Decimal) (divisor : Int64) : Int :=
  let r := (x.remainder? divisor.toInt).getD .zero
  if r.coefficient != 0 && decide (r.coefficient < 0) != decide (divisor.toInt < 0) then
    ((r.add? (.ofInt64 divisor)).getD .zero).floor
  else r.floor

/-- Does the value, divided by the divisor, leave the remainder, once it is rounded down? -/
def leaves (divisor remainder : Int64) : Value → Bool
  | integer n => integerRemainder n divisor == remainder.toInt
  | float x =>
    x.isFinite &&
      (Binary64.ofInt (floatRemainder x divisor).floor).equals (.ofInt remainder.toInt)
  | decimal x => decimalRemainder x divisor == remainder.toInt
  | _ => false

/-! ### Arrays -/

def hasLength (length : Nat) (v : Value) : Bool := v.items?.any fun items => items.length == length

/-- Is each operand equal to some item, or to the array itself? -/
def holdsAll (operands : List Value) (v : Value) : Bool :=
  v.items?.any fun items =>
    operands.all fun operand =>
      items.any (fun item => item.matchesOperand operand) || v.matchesOperand operand

end Value

end DocumentFilter
