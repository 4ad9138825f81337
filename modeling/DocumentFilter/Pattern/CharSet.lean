import DocumentFilter.Pattern.Unicode.BinaryProperty
import DocumentFilter.Pattern.Unicode.CaseFolding
import DocumentFilter.Pattern.Unicode.Category
import DocumentFilter.Text.Blank

/-! Sets of characters, as they are written in patterns.

A set is kept as it was put together, and membership is computed along it. Folding
case closes a set under the characters that differ from a member in case only; it is
a step of its own, because a pattern folds before it negates. -/
namespace DocumentFilter

inductive CharSet where
  /-- The characters of a table. -/
  | ranges (table : Unicode.CodeRanges)
  | blank
  | union (a b : CharSet)
  | intersection (a b : CharSet)
  | complement (a : CharSet)
  /-- The set with all characters that differ from a member in case only. -/
  | folded (a : CharSet)
  /-- The set with the ASCII letters that differ from a member in case only. -/
  | asciiFolded (a : CharSet)

namespace CharSet

/-- The ASCII letter of the other case. -/
def asciiVariant? (c : Nat) : Option Nat :=
  if 0x41 ≤ c ∧ c ≤ 0x5A then some (c + 0x20)
  else if 0x61 ≤ c ∧ c ≤ 0x7A then some (c - 0x20)
  else none

def contains : CharSet → Nat → Bool
  | ranges table, c => Unicode.CodeRanges.contains table c
  | blank, c => Text.isBlank (Char.ofNat c)
  | union a b, c => a.contains c || b.contains c
  | intersection a b, c => a.contains c && b.contains c
  | complement a, c => !a.contains c
  | folded a, c => a.contains c || (Unicode.caseVariants c).any fun v => a.contains v
  | asciiFolded a, c => a.contains c || (asciiVariant? c).any fun v => a.contains v

def empty : CharSet := ranges []

def range (low high : Char) : CharSet := ranges [(low.toNat, high.toNat)]

def single (c : Char) : CharSet := range c c

def difference (a b : CharSet) : CharSet := intersection a (complement b)

def symmetricDifference (a b : CharSet) : CharSet := union (difference a b) (difference b a)

/-- The union of some categories. -/
def ofCategories (categories : List Unicode.Category) : CharSet :=
  ranges (categories.flatMap Unicode.Category.ranges)

/-! ### The sets with a letter of their own -/

def digit : CharSet := ofCategories [.nd]

/-- Letters, marks, digits, connecting punctuation and joining controls. -/
def word : CharSet :=
  ranges (Unicode.BinaryProperty.alphabetic.ranges ++ Unicode.BinaryProperty.joinControl.ranges ++
    [Unicode.Category.mn, .mc, .me, .nd, .pc].flatMap Unicode.Category.ranges)

def asciiDigit : CharSet := range '0' '9'

def asciiBlank : CharSet := ranges [(9, 13), (32, 32)]

def asciiWord : CharSet := ranges [(0x30, 0x39), (0x41, 0x5A), (0x5F, 0x5F), (0x61, 0x7A)]

theorem contains_complement (a : CharSet) (c : Nat) :
    (complement a).contains c = !a.contains c := rfl

theorem contains_difference (a b : CharSet) (c : Nat) :
    (difference a b).contains c = (a.contains c && !b.contains c) := rfl

end CharSet

end DocumentFilter
