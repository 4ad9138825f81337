import DocumentFilter.Document.Value

/-! The canonical equality and order of values.

Both take values as they are, without converting one to the kind of the other, except
that numbers compare by value across their three kinds. The order is partial: values
of different kinds have none, nor do patterns. Containers are ordered by their first
difference, and when one runs out it is the smaller. -/
namespace DocumentFilter

namespace Number

/-- A number as a decimal, when it can be one. -/
def decimal? : Number → Option Decimal
  | integer n => some (.ofInt64 n)
  | float x => Decimal.ofBinary? x
  | decimal d => some d

/-- A number as binary64. -/
def binary64 : Number → Binary64
  | integer n => .ofInt n.toInt
  | float x => x
  | decimal d => d.toBinary64

/-- Integers compare exactly, a decimal with anything as decimals, and what is left in
binary64. -/
def compare : Number → Number → Option Ordering
  | integer m, integer n => some (Ord.compare m.toInt n.toInt)
  | decimal d, n => n.decimal?.map fun e => d.compare e
  | m, decimal e => m.decimal?.map fun d => d.compare e
  | m, n => m.binary64.compare n.binary64

end Number

namespace Value

mutual

/-- Structural equality: numbers by value, timestamps by instant, objects entry by
entry in their order. -/
def equals : Value → Value → Bool
  | null, null => true
  | boolean a, boolean b => a == b
  | string a, string b => a == b
  | date a, date b => a == b
  | datetime a, datetime b => a.compare b == some .eq
  | uuid a, uuid b => a == b
  | regex a, regex b => a == b
  | array xs, array ys => equalItems xs ys
  | object xs, object ys => equalEntries xs ys
  | a, b =>
    match a.number?, b.number? with
    | some m, some n => m.compare n == some .eq
    | _, _ => false
  termination_by structural a => a

/-- Equality of arrays, item by item. -/
def equalItems : List Value → List Value → Bool
  | [], [] => true
  | x :: xs, y :: ys => x.equals y && equalItems xs ys
  | _, _ => false
  termination_by structural xs => xs

/-- Equality of objects, entry by entry. -/
def equalEntries : Entries → Entries → Bool
  | [], [] => true
  | (k, x) :: xs, (l, y) :: ys => k == l && x.equals y && equalEntries xs ys
  | _, _ => false
  termination_by structural xs => xs

end

mutual

/-- The order of two values, or none. -/
def compare : Value → Value → Option Ordering
  | null, null => some .eq
  | boolean a, boolean b => some (Ord.compare a b)
  | string a, string b => some (Ord.compare a b)
  | date a, date b => some (a.compare b)
  | datetime a, datetime b => a.compare b
  | uuid a, uuid b => some (a.compare b)
  | array xs, array ys => compareItems xs ys
  | object xs, object ys => compareEntries xs ys
  | a, b =>
    match a.number?, b.number? with
    | some m, some n => m.compare n
    | _, _ => none
  termination_by structural a => a

/-- The order of arrays: that of the first items that differ, or else of the lengths. -/
def compareItems : List Value → List Value → Option Ordering
  | [], [] => some .eq
  | [], _ :: _ => some .lt
  | _ :: _, [] => some .gt
  | x :: xs, y :: ys =>
    match x.compare y with
    | some .eq => compareItems xs ys
    | decided => decided
  termination_by structural xs => xs

/-- The order of objects: that of the first keys that differ or of the first values
that do, whichever comes first, or else of the lengths. -/
def compareEntries : Entries → Entries → Option Ordering
  | [], [] => some .eq
  | [], _ :: _ => some .lt
  | _ :: _, [] => some .gt
  | (k, x) :: xs, (l, y) :: ys =>
    if k = l then
      match x.compare y with
      | some .eq => compareEntries xs ys
      | decided => decided
    else some (Ord.compare k l)
  termination_by structural xs => xs

end

end Value

end DocumentFilter
