import DocumentFilter.Filter.Checking
import DocumentFilter.Filter.Matching
import DocumentFilter.Filter.Planning

/-! Filters: queries ready to be put to documents.

Making a filter plans the query once and never fails; a malformed part just accepts
nothing. `check` turns a filter with a fault away. -/
namespace DocumentFilter

/-- A query with its plan. -/
structure Filter where
  condition : Condition

namespace Filter

def ofQuery (query : Value) : Filter := ⟨planQuery query⟩

/-- Does the document satisfy the query? -/
def accepts (f : Filter) (doc : Value) : Bool := allClauses f.condition doc

/-- The documents that satisfy the query, in their order. -/
def keep (f : Filter) (docs : List Value) : List Value := docs.filter f.accepts

/-- The filter itself, or the first fault of its plan. -/
def check (f : Filter) : Except Fault Filter :=
  match clausesFault? f.condition with
  | some fault => .error fault
  | none => .ok f

end Filter

end DocumentFilter
