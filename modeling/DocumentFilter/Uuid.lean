/-! Universally unique identifiers: 128 bits and their text.

Written, they are 32 lower-case hexadecimal digits in groups of 8, 4, 4, 4 and 12.
Read, the digits may have either case, and the groups may be run together, or stand
in braces, or after `urn:uuid:`. -/
namespace DocumentFilter

structure Uuid where
  bits : BitVec 128
deriving DecidableEq

namespace Uuid

/-- The order of the numbers, which is that of the bytes. -/
def compare (a b : Uuid) : Ordering := Ord.compare a.bits.toNat b.bits.toNat

/-- The groups of hexadecimal digits. -/
def groups : List Nat := [8, 4, 4, 4, 12]

/-- Cuts a list into runs of the lengths given, with a separator between them. -/
def separate {α : Type} (separator : α) : (lengths : List Nat) → List α → List α
  | [], xs => xs
  | [_], xs => xs
  | n :: lengths, xs => xs.take n ++ separator :: separate separator lengths (xs.drop n)

/-- The last `width` hexadecimal digits of a number. -/
def hexDigits : (width : Nat) → Nat → List Char
  | 0, _ => []
  | width + 1, n => hexDigits width (n / 16) ++ [Nat.digitChar (n % 16)]

def text (u : Uuid) : List Char := separate '-' groups (hexDigits 32 u.bits.toNat)

/-- The value of a hexadecimal digit of either case. -/
def hexValue? (c : Char) : Option Nat :=
  if '0' ≤ c ∧ c ≤ '9' then some (c.toNat - '0'.toNat)
  else if 'a' ≤ c ∧ c ≤ 'f' then some (c.toNat - 'a'.toNat + 10)
  else if 'A' ≤ c ∧ c ≤ 'F' then some (c.toNat - 'A'.toNat + 10)
  else none

/-- Thirty-two hexadecimal digits run together. -/
def readDigits? (cs : List Char) : Option Uuid := do
  let n ← cs.foldlM (fun value c => (hexValue? c).map fun d => value * 16 + d) 0
  if cs.length = 32 then some ⟨BitVec.ofNat 128 n⟩ else none

/-- The digits of a text in groups, which has a hyphen after each group but the
last. -/
def ungroup? (cs : List Char) : Option (List Char) :=
  let digits := cs.filter (· != '-')
  if digits.length = 32 ∧ cs = separate '-' groups digits then some digits else none

/-- The identifier that a text denotes. -/
def read? (cs : List Char) : Option Uuid :=
  match readDigits? cs with
  | some u => some u
  | none => do
    let inner ←
      match cs with
      | '\x7b' :: rest => if rest.getLast? = some '\x7d' then some rest.dropLast else none
      | 'u' :: 'r' :: 'n' :: ':' :: 'u' :: 'u' :: 'i' :: 'd' :: ':' :: rest => some rest
      | _ => some cs
    readDigits? (← ungroup? inner)

end Uuid

end DocumentFilter
