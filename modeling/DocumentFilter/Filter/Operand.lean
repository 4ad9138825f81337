import DocumentFilter.Filter.Plan
import DocumentFilter.Number.Integer

/-! Operands that are numbers or patterns: what a query writes and what the plan keeps.

A remainder test keeps the floors of two numbers, a length test a whole number that went
through binary64, and a pattern test the pattern made of the text and the options
beside it. -/
namespace DocumentFilter

/-! ### Numbers -/

/-- The floor of a number, as far as 64 bits hold it. -/
def Value.floor64 : Value → Except ModuloFault Int64
  | .integer n => .ok n
  | .float x =>
    if x.isFinite then (int64? x.floor).elim (.error .outOfRange) .ok else .error .outOfRange
  | .decimal d => (int64? d.floor).elim (.error .outOfRange) .ok
  | _ => .error .notNumber

/-- The divisor and remainder of a remainder test. -/
def moduloOperand : Value → Except ModuloFault (Int64 × Int64)
  | .array [divisor, remainder] => do
    let d ← divisor.floor64
    let r ← remainder.floor64
    if d = 0 then .error .zeroDivisor else .ok (d, r)
  | .array _ => .error .notPair
  | _ => .error .notList

/-- The largest length that a test can ask for. -/
def maxLength : Nat := 0xFFFFFFFFFFFFFFFF

/-- A number as the length of an array. -/
def lengthOf (x : Binary64) : Except SizeFault Nat :=
  if x.compare (.zero false) = some .lt then .error .negative
  else if x.isWhole then .ok (min x.floor.toNat maxLength)
  else .error .notWhole

/-- The length that a length test asks for. -/
def sizeOperand : Value → Except SizeFault Nat
  | .integer n => lengthOf (.ofInt n.toInt)
  | .float x => if x.isFinite then lengthOf x else .error .notNumber
  | .decimal d => lengthOf d.toBinary64
  | _ => .error .notNumber

/-! ### Patterns -/

/-- The pattern of a pattern test, with the options beside it if there are any. A
pattern that has options of its own keeps them if there are none beside it. -/
def patternOperand (field : String) (operand : Value) (options : Option Value) :
    Except Fault Pattern := do
  let letters ←
    match options with
    | none => .ok none
    | some (.string s) => .ok (some s)
    | some v => .error (.optionsOperand field v.kind)
  let (source, letters) ←
    match operand with
    | .string s => .ok (s, letters.getD "")
    | .regex p => .ok (p.source, letters.getD p.options)
    | v => .error (.patternOperand field v.kind)
  match Pattern.make source letters with
  | .ok p => .ok p
  | .error e => .error (.patternText field e)

end DocumentFilter
