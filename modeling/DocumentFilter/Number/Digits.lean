/-! Decimal digits as text: a number padded to a width, a number with a decimal
point, and the value of a digit. Readers and writers of numbers, dates and times
share them. -/
namespace DocumentFilter.Digits

/-- The value of an ASCII digit. -/
def digit? (c : Char) : Option Nat :=
  if '0' ≤ c ∧ c ≤ '9' then some (c.toNat - '0'.toNat) else none

/-- The number that a run of ASCII digits denotes; nothing for no digits or for a
character that is not one. -/
def number? : List Char → Option Nat
  | [] => none
  | cs => cs.foldlM (fun value c => (digit? c).map fun d => value * 10 + d) 0

/-- The last `width` decimal digits of a number, with leading zeros. -/
def fixed : (width : Nat) → Nat → List Char
  | 0, _ => []
  | width + 1, n => fixed width (n / 10) ++ [Nat.digitChar (n % 10)]

theorem length_fixed (width n : Nat) : (fixed width n).length = width := by
  induction width generalizing n with
  | zero => rfl
  | succ width ih => simp [fixed, ih]

/-- A number in at least `width` digits. -/
def padded (width n : Nat) : List Char :=
  if n < Nat.pow 10 width then fixed width n else Nat.toDigits 10 n

/-- The number `coefficient / 10 ^ places` in positional notation, with exactly `places`
digits after the point and no point when there are none. -/
def positional (coefficient places : Nat) : List Char :=
  Nat.toDigits 10 (coefficient / Nat.pow 10 places) ++
    if places = 0 then [] else '.' :: fixed places coefficient

end DocumentFilter.Digits
