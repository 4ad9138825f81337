import DocumentFilter.Pattern.Regex

/-! The modes of a pattern, set by its options and by modifiers inside it.

A mode says how letters, dots and anchors are read from there on. With `spaced`,
blanks and comments between the parts of a pattern mean nothing; a comment runs from
`#` to the end of its line. -/
namespace DocumentFilter.Pattern

structure Mode where
  /-- Letters match in either case. -/
  ignoreCase : Bool := false
  /-- Anchors also hold at the ends of lines. -/
  multiLine : Bool := false
  /-- The dot also matches a line feed. -/
  dotAll : Bool := false
  /-- A carriage return ends a line too. -/
  returns : Bool := false
  /-- Classes and case know ASCII only. -/
  asciiOnly : Bool := false
  /-- Blanks and comments are skipped. -/
  spaced : Bool := false
deriving DecidableEq

namespace Mode

/-- The mode after a modifier letter was turned on or off. The letter `U`, which swaps
greedy and lazy repetitions, has no bearing on whether a text matches. -/
def set? (mode : Mode) (letter : Char) (on : Bool) : Option Mode :=
  match letter with
  | 'i' => some { mode with ignoreCase := on }
  | 'm' => some { mode with multiLine := on }
  | 's' => some { mode with dotAll := on }
  | 'R' => some { mode with returns := on }
  | 'u' => some { mode with asciiOnly := !on }
  | 'x' => some { mode with spaced := on }
  | 'U' => some mode
  | _ => none

/-- Skips blanks and comments. -/
def skipSpaced (inComment : Bool) : List Char → List Char
  | [] => []
  | c :: rest =>
    if inComment then skipSpaced (c != '\n') rest
    else if Text.isBlank c then skipSpaced false rest
    else if c = '#' then skipSpaced true rest
    else c :: rest

/-- Skips what means nothing in the mode. -/
def skip (mode : Mode) (cs : List Char) : List Char :=
  if mode.spaced then skipSpaced false cs else cs

/-- The set closed under case, where case does not matter. -/
def fold (mode : Mode) (set : CharSet) : CharSet :=
  if !mode.ignoreCase then set
  else if mode.asciiOnly then .asciiFolded set
  else .folded set

/-- The characters outside the set. With ASCII only there is no such set, as it would
hold parts of characters. -/
def complement? (mode : Mode) (set : CharSet) : Option CharSet :=
  if mode.asciiOnly then none else some (.complement set)

/-- The set folded and, if asked for, complemented. -/
def close? (mode : Mode) (negated : Bool) (set : CharSet) : Option CharSet :=
  if negated then mode.complement? (mode.fold set) else some (mode.fold set)

/-- The characters that a literal stands for. -/
def literal (mode : Mode) (c : Char) : CharSet :=
  let variants :=
    if !mode.ignoreCase then []
    else if mode.asciiOnly then (CharSet.asciiVariant? c.toNat).toList
    else Unicode.caseVariants c.toNat
  .ranges ((c.toNat :: variants).map fun v => (v, v))

/-- The characters that a dot stands for. -/
def dot? (mode : Mode) : Option CharSet :=
  mode.complement? <|
    if mode.dotAll then .empty
    else if mode.returns then .ranges [(10, 10), (13, 13)]
    else .ranges [(10, 10)]

/-- What counts as a character of words. -/
def word (mode : Mode) : CharSet := if mode.asciiOnly then .asciiWord else .word

/-- The condition that starts a line. -/
def lineStart (mode : Mode) : Look :=
  if !mode.multiLine then .textStart else if mode.returns then .lineStartReturn else .lineStart

/-- The condition that ends a line. -/
def lineEnd (mode : Mode) : Look :=
  if !mode.multiLine then .textEnd else if mode.returns then .lineEndReturn else .lineEnd

end Mode

end DocumentFilter.Pattern
