import DocumentFilter.Pattern.Lexeme

/-! From the parts of a pattern to a regular expression.

The parts are put together from left to right. A level is kept for each group that is
open: the alternatives before the last bar, and the pieces since. How deeply the pattern
is nested is kept beside the expressions, because there is a limit to it. -/
namespace DocumentFilter.Pattern

/-- A piece of a sequence. -/
structure Piece where
  regex : Regex
  depth : Nat
  /-- May a repetition follow? -/
  repeatable : Bool

/-- What was read of a group. -/
structure Level where
  /-- The alternatives before the last bar, and the depth of the deepest. -/
  alternatives : Option (Regex × Nat) := none
  /-- The pieces since, last first. -/
  pieces : List Piece := []

namespace Level

def push (l : Level) (p : Piece) : Level := { l with pieces := p :: l.pieces }

/-- The pieces in sequence. -/
def sequence (l : Level) : Regex × Nat :=
  match l.pieces with
  | [] => (.empty, 0)
  | [p] => (p.regex, p.depth)
  | p :: before =>
    (before.foldl (fun regex q => .concat q.regex regex) p.regex,
      before.foldl (fun depth q => max depth q.depth) p.depth + 1)

/-- The alternatives with the sequence after them, without a step of depth for the
choice. -/
def alternate (l : Level) : Regex × Nat :=
  let (regex, depth) := l.sequence
  match l.alternatives with
  | none => (regex, depth)
  | some (before, deepest) => (.alternate before regex, max deepest depth)

/-- What the level matches. -/
def value (l : Level) : Regex × Nat :=
  let (regex, depth) := l.alternate
  (regex, if l.alternatives.isSome then depth + 1 else depth)

end Level

/-- Puts parts together, with the level that is open and those around it, innermost
first. -/
def assembleFrom? (l : Level) (outer : List Level) : List Lexeme → Option (Regex × Nat)
  | [] => if outer.isEmpty then some l.value else none
  | .atom regex depth :: rest => assembleFrom? (l.push ⟨regex, depth, true⟩) outer rest
  | .modifier :: rest => assembleFrom? (l.push ⟨.empty, 0, false⟩) outer rest
  | .repetition least most :: rest =>
    match l.pieces with
    | [] => none
    | p :: before =>
      if p.repeatable then
        let repeated : Piece := ⟨.repetition p.regex least most, p.depth + 1, true⟩
        assembleFrom? { l with pieces := repeated :: before } outer rest
      else none
  | .opening :: rest => assembleFrom? {} (l :: outer) rest
  | .closing :: rest =>
    match outer with
    | [] => none
    | parent :: outer =>
      let (regex, depth) := l.value
      assembleFrom? (parent.push ⟨regex, depth + 1, true⟩) outer rest
  | .bar :: rest => assembleFrom? { alternatives := some l.alternate } outer rest

/-- How deeply a pattern may be nested. -/
def maxDepth : Nat := 250

/-- The expression that a text denotes in the mode given, if it denotes one. Its depth is limited. A
limit to the room that it takes once it is compiled is left out: `\w{1000}` would be past one of ten
mebibytes, and it denotes an expression here. -/
def regexOfText? (mode : Mode) (cs : List Char) : Option Regex := do
  let (regex, depth) ← assembleFrom? {} [] (← Lexeme.readAll? mode cs)
  if depth ≤ maxDepth then some regex else none

end DocumentFilter.Pattern
