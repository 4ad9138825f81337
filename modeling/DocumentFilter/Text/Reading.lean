/-! Readers: functions that take something from the front of a text and give it with the
rest of the text, or give nothing. -/
namespace DocumentFilter

/-- Something read from the front of a text. -/
abbrev Reading (α : Type) := List Char → Option (α × List Char)

namespace Reading

/-- The character given. -/
def character (c : Char) : Reading Unit
  | [] => none
  | x :: rest => if x = c then some ((), rest) else none

/-- What was read, if nothing is left. -/
def complete {α : Type} (r : Reading α) (cs : List Char) : Option α :=
  match r cs with
  | some (a, []) => some a
  | _ => none

theorem complete_eq_some_iff {α : Type} (r : Reading α) (cs : List Char) (a : α) :
    r.complete cs = some a ↔ r cs = some (a, []) := by
  unfold complete
  split
  · next h => simp [h]
  · next h =>
    constructor
    · intro hn
      cases hn
    · intro hr
      exact absurd hr (h a)

end Reading

end DocumentFilter
