import DocumentFilter.Number.Digits

/-! Routes: dotted field names, taken apart.

A field name is cut at its dots. Each step is a key; one of ASCII digits only is also
an index into arrays, if 64 bits hold it. The empty route leads to the value itself
and has no dotted name. -/
namespace DocumentFilter

/-- One step of a route. -/
structure Step where
  key : String
  index : Option Nat
deriving DecidableEq

/-- The steps from a value to a value inside it. -/
abbrev Route := List Step

/-- The index that a key is. -/
def Step.indexOfKey? (key : List Char) : Option Nat :=
  (Digits.number? key).bind fun n => if n < 0x10000000000000000 then some n else none

def Step.ofKey (key : String) : Step := ⟨key, indexOfKey? key.toList⟩

namespace Route

/-- Cuts a text at its dots. -/
def cutAtDots : List Char → List (List Char)
  | [] => [[]]
  | c :: rest =>
    if c = '.' then [] :: cutAtDots rest
    else
      match cutAtDots rest with
      | [] => [[c]]
      | first :: more => (c :: first) :: more

/-- The route that a field name spells. -/
def ofName (name : String) : Route :=
  (cutAtDots name.toList).map fun key => .ofKey (String.ofList key)

/-- The keys with dots between them. -/
def name (route : Route) : String := ".".intercalate (route.map (·.key))

end Route

end DocumentFilter
