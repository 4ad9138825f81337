import DocumentFilter.Document.Value

/-! Identity of values, a finer relation than canonical equality.

It never crosses kinds, and tells timestamps apart that show one instant on different
clocks. The order of an object's entries does not count. A float that is not a number
is not identical with itself. -/
namespace DocumentFilter.Value

mutual

def identical : Value → Value → Bool
  | null, null => true
  | boolean a, boolean b => a == b
  | integer a, integer b => a == b
  | float a, float b => a.equals b
  | decimal a, decimal b => a.equals b
  | string a, string b => a == b
  | date a, date b => a == b
  | datetime a, datetime b => a == b
  | uuid a, uuid b => a == b
  | regex a, regex b => a == b
  | array xs, array ys => identicalItems xs ys
  | object xs, object ys => xs.length == ys.length && identicalEntries xs ys
  | _, _ => false
  termination_by structural a => a

def identicalItems : List Value → List Value → Bool
  | [], [] => true
  | x :: xs, y :: ys => x.identical y && identicalItems xs ys
  | _, _ => false
  termination_by structural xs => xs

/-- Is each entry among those of the other object? -/
def identicalEntries : Entries → Entries → Bool
  | [], _ => true
  | (k, x) :: xs, ys =>
    (match ys.get? k with
      | some y => x.identical y
      | none => false) && identicalEntries xs ys
  termination_by structural xs => xs

end

end DocumentFilter.Value
