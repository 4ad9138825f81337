/-! The words of the query language.

A word starts with a dollar sign. Connectives join whole conditions and stand where a
field name could; operators test the value of a field. -/
namespace DocumentFilter

/-- The connectives of conditions. -/
inductive Connective where
  /-- Every condition holds. -/
  | and
  /-- Some condition holds. -/
  | or
  /-- No condition holds. -/
  | nor
deriving DecidableEq

namespace Connective

def word : Connective → String
  | and => "$and"
  | or => "$or"
  | nor => "$nor"

def ofWord? : String → Option Connective
  | "$and" => some and
  | "$or" => some or
  | "$nor" => some nor
  | _ => none

theorem ofWord?_word (c : Connective) : ofWord? c.word = some c := by cases c <;> rfl

theorem word_of_ofWord? {s : String} {c : Connective} (h : ofWord? s = some c) : c.word = s := by
  unfold ofWord? at h
  split at h <;> cases h <;> rfl

end Connective

/-- The operators on fields. -/
inductive Operator where
  /-- Equal. -/
  | eq
  /-- Not equal. -/
  | ne
  /-- Greater than. -/
  | gt
  /-- Greater than or equal. -/
  | gte
  /-- Less than. -/
  | lt
  /-- Less than or equal. -/
  | lte
  /-- Equal to some value of a list. -/
  | among
  /-- Equal to no value of a list. -/
  | notAmong
  /-- An expression or a pattern does not match. -/
  | not
  /-- The route leads to something, or not. -/
  | exist
  /-- A pattern matches. -/
  | pattern
  /-- The options of the pattern beside it. -/
  | options
  /-- The remainder of a floored division. -/
  | modulo
  /-- The length of an array. -/
  | size
  /-- An array holds all of a list. -/
  | all
  /-- Some item of an array matches. -/
  | element
deriving DecidableEq

namespace Operator

def word : Operator → String
  | eq => "$eq"
  | ne => "$ne"
  | gt => "$gt"
  | gte => "$gte"
  | lt => "$lt"
  | lte => "$lte"
  | among => "$in"
  | notAmong => "$nin"
  | not => "$not"
  | exist => "$exists"
  | pattern => "$regex"
  | options => "$options"
  | modulo => "$mod"
  | size => "$size"
  | all => "$all"
  | element => "$elemMatch"

def ofWord? : String → Option Operator
  | "$eq" => some eq
  | "$ne" => some ne
  | "$gt" => some gt
  | "$gte" => some gte
  | "$lt" => some lt
  | "$lte" => some lte
  | "$in" => some among
  | "$nin" => some notAmong
  | "$not" => some not
  | "$exists" => some exist
  | "$regex" => some pattern
  | "$options" => some options
  | "$mod" => some modulo
  | "$size" => some size
  | "$all" => some all
  | "$elemMatch" => some element
  | _ => none

theorem ofWord?_word (o : Operator) : ofWord? o.word = some o := by cases o <;> rfl

theorem word_of_ofWord? {s : String} {o : Operator} (h : ofWord? s = some o) : o.word = s := by
  unfold ofWord? at h
  split at h <;> cases h <;> rfl

end Operator

end DocumentFilter
