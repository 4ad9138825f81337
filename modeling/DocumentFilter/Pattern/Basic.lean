import DocumentFilter.Pattern.Nesting

/-! Patterns: regular expressions together with the text and the options they were
written with.

The option letters are checked first, from left to right; then the text is read. The
same text and options always give the same expression, so a pattern is known by them. -/
namespace DocumentFilter

/-- Why a pattern cannot be made. -/
inductive PatternError where
  | unknownOption (letter : Char)
  | malformed
deriving DecidableEq

/-- What is wrong with the options; a malformed text has no message of its own. -/
def PatternError.message : PatternError → String
  | unknownOption letter => "unsupported regex option '" ++ letter.toString ++ "'"
  | malformed => "malformed pattern"

namespace Pattern

/-- The mode that the options set: `i` for either case, `m` for anchors at lines, `s` for
dots that match line feeds, `x` for blanks without meaning. -/
def modeOf (mode : Mode) : (options : List Char) → Except PatternError Mode
  | [] => .ok mode
  | 'i' :: rest => modeOf { mode with ignoreCase := true } rest
  | 'm' :: rest => modeOf { mode with multiLine := true } rest
  | 's' :: rest => modeOf { mode with dotAll := true } rest
  | 'x' :: rest => modeOf { mode with spaced := true } rest
  | letter :: _ => .error (.unknownOption letter)

/-- The expression of a text with options. -/
def compile (source options : String) : Except PatternError Regex := do
  let mode ← modeOf {} options.toList
  match regexOfText? mode source.toList with
  | some regex => .ok regex
  | none => .error .malformed

end Pattern

/-- A text with options, and the expression that they denote. -/
structure Pattern where
  source : String
  options : String
  regex : Regex
  compiled : Pattern.compile source options = .ok regex

namespace Pattern

/-- The pattern of a text with options. -/
def make (source options : String) : Except PatternError Pattern :=
  match h : compile source options with
  | .ok regex => .ok ⟨source, options, regex, h⟩
  | .error e => .error e

/-- A pattern is known by its text and options. -/
theorem ext_source {p q : Pattern} (hs : p.source = q.source) (ho : p.options = q.options) :
    p = q := by
  obtain ⟨s, o, r, hr⟩ := p
  obtain ⟨s', o', r', hr'⟩ := q
  simp only at hs ho
  subst hs ho
  rw [hr] at hr'
  cases hr'
  rfl

instance : DecidableEq Pattern := fun p q =>
  if h : p.source = q.source ∧ p.options = q.options then .isTrue (ext_source h.1 h.2)
  else .isFalse fun e => h (by rw [e]; exact ⟨rfl, rfl⟩)

/-- Does the pattern match some part of the text? -/
def search (p : Pattern) (text : String) : Bool := p.regex.search text.toList

/-- The pattern between slashes, with its options behind. -/
def text (p : Pattern) : String := "/" ++ p.source ++ "/" ++ p.options

end Pattern

end DocumentFilter
