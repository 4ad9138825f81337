import DocumentFilter.Document.Route
import DocumentFilter.Document.Value

/-! Searching a document along a route.

A route through an object follows the key. Through an array it follows an index that
is in bounds, and any other step is tried on every item. Where the route ends, the test
is put to the value and, if items count too, to the items of an array as well, at any
depth. Where an object lacks the key, or a scalar is in the way, the value is missing.
The search stops at the first success. -/
namespace DocumentFilter

/-- What the test is put to at the end of a route. -/
inductive Reach where
  /-- The value, and the items of an array at any depth. -/
  | items
  /-- The value alone. -/
  | whole
deriving DecidableEq

namespace Value

section
variable {m : Type → Type} [Monad m]

/-- Tries a test along a list until it succeeds. -/
def orElseM (first : m Bool) (second : Unit → m Bool) : m Bool := do
  if ← first then return true else second ()

mutual

/-- Searches from a value. The test may have effects, which show the order in which
it is put to values. -/
def searchM (test : Value → m Bool) (missing : Bool) (reach : Reach) (v : Value)
    (route : Route) : m Bool :=
  match v, route with
  | array items, [] =>
    orElseM (test (array items)) fun _ =>
      match reach with
      | .items => searchItemsM test missing reach items []
      | .whole => return false
  | v, [] => test v
  | object entries, step :: rest => searchEntriesM test missing reach entries step.key rest
  | array items, step :: rest =>
    match step.index with
    | some i =>
      if i < items.length then searchItemM test missing reach items i rest
      else searchItemsM test missing reach items (step :: rest)
    | none => searchItemsM test missing reach items (step :: rest)
  | _, _ :: _ => return missing
  termination_by structural v

/-- Searches from the items of an array, in order. -/
def searchItemsM (test : Value → m Bool) (missing : Bool) (reach : Reach) (items : List Value)
    (route : Route) : m Bool :=
  match items with
  | [] => return false
  | v :: rest =>
    orElseM (searchM test missing reach v route) fun _ =>
      searchItemsM test missing reach rest route
  termination_by structural items

/-- Searches from the item with an index. -/
def searchItemM (test : Value → m Bool) (missing : Bool) (reach : Reach) (items : List Value)
    (index : Nat) (route : Route) : m Bool :=
  match items, index with
  | [], _ => return missing
  | v :: _, 0 => searchM test missing reach v route
  | _ :: rest, index + 1 => searchItemM test missing reach rest index route
  termination_by structural items

/-- Searches from the value under a key. -/
def searchEntriesM (test : Value → m Bool) (missing : Bool) (reach : Reach) (entries : Entries)
    (key : String) (route : Route) : m Bool :=
  match entries with
  | [] => return missing
  | (k, v) :: rest =>
    if k = key then searchM test missing reach v route
    else searchEntriesM test missing reach rest key route
  termination_by structural entries

end

end

/-- Does the test succeed somewhere along the route? -/
def search (test : Value → Bool) (missing : Bool) (reach : Reach) (v : Value) (route : Route) :
    Bool :=
  Id.run (searchM (fun v => pure (test v)) missing reach v route)

/-- The outcome of a search with the values that the test was put to, in order. -/
def searchTrace (test : Value → Bool) (missing : Bool) (reach : Reach) (v : Value)
    (route : Route) : Bool × List Value :=
  let visit (v : Value) : StateM (List Value) Bool := do
    modify (v :: ·)
    return test v
  let (found, visited) := (searchM visit missing reach v route).run []
  (found, visited.reverse)

end Value

end DocumentFilter
