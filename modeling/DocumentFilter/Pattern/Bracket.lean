import DocumentFilter.Pattern.Escape

/-! Sets of characters in brackets.

Brackets hold characters, ranges, classes and further brackets, all united, with `&&`,
`--` and `~~` between such unions, evaluated from the left. The reader keeps a level
for each bracket that is open. Beside each set goes the depth of what was written,
since a pattern must not be nested too deeply. -/
namespace DocumentFilter.Pattern

/-- A set, with how deeply its text is nested. -/
structure Nested where
  set : CharSet
  depth : Nat

/-- The operations between unions. -/
inductive SetOperation where
  | intersection | difference | symmetricDifference
deriving DecidableEq

def SetOperation.apply : SetOperation → CharSet → CharSet → CharSet
  | intersection => CharSet.intersection
  | difference => CharSet.difference
  | symmetricDifference => CharSet.symmetricDifference

/-- A bracket that is open. -/
structure Bracket where
  negated : Bool
  /-- The operation under way and what stands on its left. -/
  pending : Option (SetOperation × Nested) := none
  /-- The union read since. -/
  set : CharSet := .empty
  /-- How many parts the union has. -/
  count : Nat := 0
  /-- The depth of the deepest of them. -/
  depth : Nat := 0

namespace Bracket

/-- Unites one more part. -/
def add (b : Bracket) (part : Nested) : Bracket :=
  { b with
    set := .union b.set part.set
    count := b.count + 1
    depth := max b.depth part.depth }

/-- What was read so far, with the operation under way carried out. -/
def value (mode : Mode) (b : Bracket) : Nested :=
  let union : Nested := ⟨b.set, if 2 ≤ b.count then b.depth + 1 else b.depth⟩
  match b.pending with
  | none => union
  | some (operation, left) =>
    ⟨operation.apply (mode.fold left.set) (mode.fold union.set), max left.depth union.depth + 1⟩

/-- Starts an operation with what was read so far on its left. -/
def operate (mode : Mode) (b : Bracket) (operation : SetOperation) : Bracket :=
  { negated := b.negated, pending := some (operation, b.value mode) }

/-- The set of the whole bracket. -/
def close? (mode : Mode) (b : Bracket) : Option Nested :=
  let value := b.value mode
  (mode.close? b.negated value.set).map fun set => ⟨set, value.depth + 1⟩

/-! ### Reading -/

/-- Hyphens at the start, which stand for themselves. -/
def openingHyphens (mode : Mode) (b : Bracket) : (fuel : Nat) → Reading Bracket
  | 0, cs => some (b, cs)
  | fuel + 1, cs =>
    match cs with
    | '-' :: rest => openingHyphens mode (b.add ⟨.single '-', 0⟩) fuel (mode.skip rest)
    | _ => some (b, cs)

/-- Starts a bracket behind its opening character: a caret negates it, and hyphens or
one closing bracket at its start stand for themselves. -/
def opening (mode : Mode) : Reading Bracket := fun cs =>
  let (negated, cs) :=
    match mode.skip cs with
    | '^' :: rest => (true, mode.skip rest)
    | cs => (false, cs)
  match openingHyphens mode { negated := negated } cs.length cs with
  | some (b, ']' :: rest) =>
    if b.count = 0 then some (b.add ⟨.single ']', 0⟩, mode.skip rest)
    else some (b, ']' :: rest)
  | result => result

/-- An ASCII class behind its opening bracket, as in `[:alpha:]`: the class and whether
it is negated. -/
def asciiClass? : List Char → Option ((CharSet × Bool) × List Char)
  | ':' :: rest =>
    let (negated, rest) :=
      match rest with
      | '^' :: rest => (true, rest)
      | _ => (false, rest)
    match rest.dropWhile (· != ':') with
    | ':' :: ']' :: after =>
      (CharSet.ofAsciiName? (String.ofList (rest.takeWhile (· != ':')))).map fun set =>
        ((set, negated), after)
    | _ => none
  | _ => none

/-- One character or escape. -/
def item (mode : Mode) : Reading Escape
  | [] => none
  | '\\' :: rest => Escape.read mode rest
  | c :: rest => some (.literal c, rest)

/-- The next character that is neither blank nor, in a comment, its mark. -/
def following? (mode : Mode) (cs : List Char) : Option Char :=
  if mode.spaced then
    match Text.skipBlanks cs with
    | '#' :: rest => (Text.skipBlanks rest).head?
    | cs => cs.head?
  else cs.head?

/-- May the character stand in a bracket? -/
def admits (mode : Mode) (c : Char) : Bool := !mode.asciiOnly || decide (c.toNat < 128)

/-- A part other than a bracket: a character, a class, or a range, which has characters
at both ends. A hyphen before a closing bracket or another hyphen makes no range. -/
def part (mode : Mode) : Reading CharSet := fun cs => do
  let (first, cs) ← item mode cs
  let alone : Option CharSet :=
    match first with
    | .literal c => if admits mode c then some (.single c) else none
    | .chars set => some set
    | .look _ => none
  match mode.skip cs with
  | [] => none
  | '-' :: rest =>
    let next := following? mode rest
    if next = some ']' ∨ next = some '-' then alone.map fun set => (set, '-' :: rest)
    else
      let (second, rest) ← item mode (mode.skip rest)
      match first, second with
      | .literal low, .literal high =>
        if low ≤ high ∧ admits mode low ∧ admits mode high then some (.range low high, rest)
        else none
      | _, _ => none
  | cs => alone.map fun set => (set, cs)

/-- Reads on, with the bracket that is open and those around it, innermost first. -/
def readFrom (mode : Mode) : (fuel : Nat) → Bracket → List Bracket → Reading Nested
  | 0, _, _, _ => none
  | fuel + 1, b, outer, cs =>
    match mode.skip cs with
    | [] => none
    | '[' :: rest =>
      match asciiClass? rest with
      | some ((set, negated), rest) => do
        let set ← mode.close? negated set
        readFrom mode fuel (b.add ⟨set, 0⟩) outer rest
      | none => do
        let (inner, rest) ← opening mode rest
        readFrom mode fuel inner (b :: outer) rest
    | ']' :: rest => do
      let value ← b.close? mode
      match outer with
      | [] => some (value, rest)
      | parent :: outer => readFrom mode fuel (parent.add value) outer rest
    | '&' :: '&' :: rest => readFrom mode fuel (b.operate mode .intersection) outer rest
    | '-' :: '-' :: rest => readFrom mode fuel (b.operate mode .difference) outer rest
    | '~' :: '~' :: rest => readFrom mode fuel (b.operate mode .symmetricDifference) outer rest
    | cs => do
      let (set, rest) ← part mode cs
      readFrom mode fuel (b.add ⟨set, 0⟩) outer rest

/-- Reads a set behind its opening bracket. -/
def read (mode : Mode) : Reading Nested := fun cs => do
  let (b, rest) ← opening mode cs
  readFrom mode (cs.length + 1) b [] rest

end Bracket

end DocumentFilter.Pattern
