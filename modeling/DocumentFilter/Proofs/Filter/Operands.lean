import DocumentFilter.Filter.Planning
import DocumentFilter.Proofs.Number.Binary64

/-! The operands that a query may write for numbers and patterns.

Each is told apart by its shape and its value alone, with no word of what is wrong with
the others; the readers of operands succeed on exactly these. -/
namespace DocumentFilter

namespace Value

/-! ### Remainders -/

/-- The number rounded down. What is not finite has none. -/
def floor? : Value → Option Int
  | integer n => some n.toInt
  | float x => if x.isFinite then some x.floor else none
  | decimal d => some d.floor
  | _ => none

/-- The operand is a list of exactly two numbers that round down to these, and the first
of them is not zero. -/
def AsksRemainder (v : Value) (divisor remainder : Int64) : Prop :=
  ∃ a b, v = array [a, b] ∧ a.floor? = some divisor.toInt ∧ b.floor? = some remainder.toInt ∧
    divisor ≠ 0

/-! ### Lengths -/

/-- A finite number in binary64. -/
def finite64? : Value → Option Binary64
  | float x => if x.isFinite then some x else none
  | v => v.binary64?

/-- The operand is a finite number which in binary64 is whole and not below zero. A length
that no array can have stands for all that are larger. -/
def AsksLength (v : Value) (length : Nat) : Prop :=
  ∃ x, v.finite64? = some x ∧ 0 ≤ x.units ∧ (Binary64.unitsOfOne : Int) ∣ x.units ∧
    length = min x.floor.toNat maxLength

/-! ### Patterns -/

/-- The pattern of an operand with the options beside it, which have to be a string.
Without options beside it a pattern keeps its own. -/
def patternBeside? : (operand : Value) → (options : Option Value) → Option Pattern
  | string s, none => (Pattern.make s "").toOption
  | string s, some (string letters) => (Pattern.make s letters).toOption
  | regex p, none => some p
  | regex p, some (string letters) => (Pattern.make p.source letters).toOption
  | _, _ => none

/-! ### Wrapped element tests -/

/-- The object that a wrapper holds: its only entry is an element test on it. -/
def unwrapped? : Value → Option Entries
  | .object [(key, .object entries)] => if key = elementWord then some entries else none
  | _ => none

theorem unwrapped?_eq_some_iff {v : Value} {entries : Entries} :
    v.unwrapped? = some entries ↔ v = .object [(elementWord, .object entries)] := by
  unfold unwrapped?
  split
  · next key inner =>
    by_cases h : key = elementWord <;> simp [h]
  · next hne =>
    constructor
    · intro h
      cases h
    · intro h
      exact absurd h (hne elementWord entries)

theorem sizeOf_lt_of_unwrapped? {v : Value} {entries : Entries} (h : v.unwrapped? = some entries) :
    sizeOf entries < sizeOf v := by
  rw [unwrapped?_eq_some_iff.mp h]
  simp only [Value.object.sizeOf_spec, List.cons.sizeOf_spec, Prod.mk.sizeOf_spec]
  omega

end Value

/-! ### The readers -/

theorem elim_int64?_eq_ok_iff (n : Int) (k : Int64) :
    (int64? n).elim (.error .outOfRange) .ok = (.ok k : Except ModuloFault Int64) ↔
      n = k.toInt := by
  constructor
  · intro h
    cases hn : int64? n with
    | none =>
      rw [hn] at h
      cases h
    | some j =>
      rw [hn] at h
      cases h
      exact (toInt_of_int64? hn).symm
  · rintro rfl
    rw [int64?_toInt]
    rfl

theorem floor64_eq_ok_iff (v : Value) (k : Int64) :
    v.floor64 = .ok k ↔ v.floor? = some k.toInt := by
  cases v with
  | integer n => simp [Value.floor64, Value.floor?, Int64.toInt_inj]
  | float x =>
    rw [Value.floor64, Value.floor?]
    split
    · rw [elim_int64?_eq_ok_iff, Option.some.injEq]
    · simp
  | decimal d => rw [Value.floor64, Value.floor?, elim_int64?_eq_ok_iff, Option.some.injEq]
  | _ => simp [Value.floor64, Value.floor?]

theorem bind_eq_ok_iff {ε α β : Type} (x : Except ε α) (f : α → Except ε β) (b : β) :
    x >>= f = .ok b ↔ ∃ a, x = .ok a ∧ f a = .ok b := by
  cases x with
  | error e => simp [bind, Except.bind]
  | ok a => simp [bind, Except.bind]

theorem moduloOperand_eq_ok_iff (v : Value) (divisor remainder : Int64) :
    moduloOperand v = .ok (divisor, remainder) ↔ v.AsksRemainder divisor remainder := by
  unfold moduloOperand Value.AsksRemainder
  split
  · next a b =>
    simp only [bind_eq_ok_iff, floor64_eq_ok_iff, Value.array.injEq, List.cons.injEq, and_true]
    constructor
    · rintro ⟨d, hd, r, hr, h⟩
      split at h
      · cases h
      · next hne =>
        cases h
        exact ⟨a, b, ⟨rfl, rfl⟩, hd, hr, hne⟩
    · rintro ⟨_, _, ⟨rfl, rfl⟩, hd, hr, hne⟩
      exact ⟨divisor, hd, remainder, hr, if_neg hne⟩
  · next items hne =>
    simp only [reduceCtorEq, Value.array.injEq, false_iff]
    rintro ⟨a, b, rfl, -⟩
    exact hne a b rfl
  · next hne =>
    simp only [reduceCtorEq, false_iff]
    rintro ⟨a, b, rfl, -⟩
    exact hne _ rfl

theorem lengthOf_eq_ok_iff {x : Binary64} (hx : x.isNaN = false) (length : Nat) :
    lengthOf x = .ok length ↔
      0 ≤ x.units ∧ (Binary64.unitsOfOne : Int) ∣ x.units ∧
        length = min x.floor.toNat maxLength := by
  rw [← Binary64.compare_zero_ne_lt_iff hx, ← Binary64.isWhole_iff, lengthOf]
  split
  · next h => simp [h]
  · next h =>
    split
    · next hw => simp [h, hw, eq_comm]
    · next hw => simp [hw]

theorem sizeOperand_eq_ok_iff (v : Value) (length : Nat) :
    sizeOperand v = .ok length ↔ v.AsksLength length := by
  unfold Value.AsksLength
  cases v with
  | integer n =>
    simp only [sizeOperand, Value.finite64?, Value.binary64?, Option.some.injEq, exists_eq_left']
    exact lengthOf_eq_ok_iff (Binary64.isNaN_ofInt _) length
  | float x =>
    rw [sizeOperand, Value.finite64?]
    split
    · next h =>
      simp only [Option.some.injEq, exists_eq_left']
      exact lengthOf_eq_ok_iff (Binary64.isNaN_of_isFinite h) length
    · simp only [reduceCtorEq, false_and, exists_false]
  | decimal d =>
    simp only [sizeOperand, Value.finite64?, Value.binary64?, Option.some.injEq, exists_eq_left']
    exact lengthOf_eq_ok_iff d.isNaN_toBinary64 length
  | _ =>
    simp only [sizeOperand, Value.finite64?, Value.binary64?, reduceCtorEq, false_and, exists_false]

/-- A pattern is what its own text and options make. -/
theorem Pattern.make_self (p : Pattern) : Pattern.make p.source p.options = .ok p := by
  unfold Pattern.make
  split
  · next regex h =>
    exact congrArg Except.ok (Pattern.ext_source rfl rfl)
  · next e h =>
    rw [p.compiled] at h
    cases h

theorem patternOperand_eq_ok_iff (field : String) (operand : Value) (options : Option Value)
    (p : Pattern) :
    patternOperand field operand options = .ok p ↔ operand.patternBeside? options = some p := by
  -- Every operand that has a pattern stands for a text with its options written out.
  have hmake (source letters : String) :
      patternOperand field (.string source) (some (.string letters)) = .ok p ↔
        (Pattern.make source letters).toOption = some p := by
    simp only [patternOperand, bind, Except.bind]
    cases h : Pattern.make source letters <;> simp [h, Except.toOption]
  have hkept (q : Pattern) : (Pattern.make q.source q.options).toOption = some p ↔
      some q = some p := by
    rw [q.make_self]
    rfl
  cases options with
  | none =>
    cases operand with
    | string s => exact hmake s ""
    | regex q => exact (hmake q.source q.options).trans (hkept q)
    | _ => simp [patternOperand, Value.patternBeside?, bind, Except.bind]
  | some v =>
    cases v with
    | string letters =>
      cases operand with
      | string s => exact hmake s letters
      | regex q => exact hmake q.source letters
      | _ => simp [patternOperand, Value.patternBeside?, bind, Except.bind]
    | _ => cases operand <;> simp [patternOperand, Value.patternBeside?, bind, Except.bind]

end DocumentFilter
