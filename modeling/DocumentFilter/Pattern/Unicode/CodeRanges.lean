/-! Tables of code points, written compactly.

A table is a list of ranges in ascending order. Its text gives, for each range, how
many code points lie between the end of the one before and its start, and how many
follow its start. Each number is written to base 32, most significant digit first: its
last digit is one of `0`-`9` and `a`-`v`, and the digits before it are taken from a
second alphabet, so that numbers need no separator. -/
namespace DocumentFilter.Unicode

/-- Ranges of code points, both ends included. -/
abbrev CodeRanges := List (Nat × Nat)

namespace CodeRanges

def contains (ranges : CodeRanges) (c : Nat) : Bool :=
  ranges.any fun r => decide (r.1 ≤ c) && decide (c ≤ r.2)

/-- The value of the last digit of a number. -/
def finalDigit? (c : Char) : Option Nat :=
  if '0' ≤ c ∧ c ≤ '9' then some (c.toNat - '0'.toNat)
  else if 'a' ≤ c ∧ c ≤ 'v' then some (c.toNat - 'a'.toNat + 10)
  else none

/-- The value of a digit with more to come. -/
def innerDigit (c : Char) : Nat :=
  if 'A' ≤ c ∧ c ≤ 'Z' then c.toNat - 'A'.toNat
  else if 'w' ≤ c ∧ c ≤ 'z' then c.toNat - 'w'.toNat + 26
  else if c = '_' then 30
  else 31

/-- The numbers in a text, whose lines are run together. -/
def numbers (lines : List String) : List Nat := go 0 (lines.flatMap String.toList)
where
  /-- Continues after digits of value `high`. -/
  go (high : Nat) : List Char → List Nat
    | [] => []
    | c :: rest =>
      match finalDigit? c with
      | some d => (high * 32 + d) :: go 0 rest
      | none => go (high * 32 + innerDigit c) rest

/-- The ranges that distances and lengths stand for, from a code point on. -/
def ofNumbers (start : Nat) : List Nat → CodeRanges
  | gap :: length :: rest =>
    (start + gap, start + gap + length) :: ofNumbers (start + gap + length + 1) rest
  | _ => []

/-- The ranges in the text of a table. -/
def decode (lines : List String) : CodeRanges := ofNumbers 0 (numbers lines)

end CodeRanges

end DocumentFilter.Unicode
