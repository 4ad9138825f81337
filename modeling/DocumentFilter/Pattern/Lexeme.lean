import DocumentFilter.Pattern.Bracket

/-! The parts of a pattern: characters and sets, repetitions, groups and bars.

Reading them settles the modes. A modifier holds to the end of the group that it stands
in, across bars, so the reader keeps the mode to go back to for each group that is
open. Groups with a name have names of their own. -/
namespace DocumentFilter.Pattern

inductive Lexeme where
  /-- Something that matches on its own, with how deeply its text is nested. -/
  | atom (regex : Regex) (depth : Nat)
  /-- A change of mode, which matches nothing and cannot be repeated. -/
  | modifier
  | repetition (least : Nat) (most : Option Nat)
  | opening
  | closing
  | bar

namespace Lexeme

/-! ### Repetitions -/

/-- The decimal digits at the front, with what the mode skips after each. -/
def countDigits (mode : Mode) : (fuel : Nat) → List Char → List Char × List Char
  | 0, cs => ([], cs)
  | fuel + 1, cs =>
    match cs with
    | [] => ([], [])
    | c :: rest =>
      if (Digits.digit? c).isSome then
        let (digits, rest) := countDigits mode fuel (mode.skip rest)
        (c :: digits, rest)
      else ([], cs)

/-- A count below `2 ^ 32`, with blanks around it. -/
def count (mode : Mode) : Reading Nat := fun cs => do
  let cs := Text.skipBlanks cs
  let (digits, rest) := countDigits mode cs.length cs
  let n ← Digits.number? digits
  if n < 0x100000000 then some (n, mode.skip (Text.skipBlanks rest)) else none

/-- The bounds of a repetition, behind the opening brace. -/
def bounds (mode : Mode) : Reading (Nat × Option Nat) := fun cs => do
  let (least, cs) ← count mode (mode.skip cs)
  match cs with
  | '\x7d' :: rest => some ((least, some least), rest)
  | ',' :: rest =>
    match mode.skip rest with
    | '\x7d' :: rest => some ((least, none), rest)
    | cs => do
      let (most, cs) ← count mode cs
      match cs with
      | '\x7d' :: rest => if least ≤ most then some ((least, some most), rest) else none
      | _ => none
  | _ => none

/-- Skips the mark that makes a repetition lazy. -/
def skipLazy : List Char → List Char
  | '?' :: rest => rest
  | cs => cs

/-! ### Groups -/

/-- The modifiers at the front of a group: the mode after them, whether there are any,
and the character that ends them. No letter may come twice, and what follows the one
hyphen is turned off. -/
def modifiers (mode : Mode) (off dangling : Bool) (seen : List Char) :
    List Char → Option ((Mode × Bool × Char) × List Char)
  | [] => none
  | c :: rest =>
    if c = ':' ∨ c = ')' then
      if dangling then none else some ((mode, !seen.isEmpty, c), rest)
    else if c = '-' then
      if off then none else modifiers mode true true seen rest
    else if seen.contains c then none
    else do modifiers (← mode.set? c (!off)) off false (c :: seen) rest

/-- May the character start a name? -/
def startsName (c : Char) : Bool :=
  c == '_' || Unicode.CodeRanges.contains Unicode.BinaryProperty.alphabetic.ranges c.toNat

/-- May the character stand in a name? -/
def continuesName (c : Char) : Bool :=
  startsName c || c == '.' || c == '[' || c == ']' ||
    (CharSet.ofCategories [.nd, .nl, .no]).contains c.toNat

/-- The name of a group, up to the closing angle bracket. -/
def groupName : Reading (List Char) := fun cs =>
  let name := cs.takeWhile (· != '>')
  match name, cs.dropWhile (· != '>') with
  | c :: more, _ :: rest =>
    if startsName c && more.all continuesName then some (name, rest) else none
  | _, _ => none

/-- What the front of a group says. -/
inductive GroupStart where
  | plain (mode : Mode)
  | named (name : List Char)
  /-- No group, but a change of mode. -/
  | modifier (mode : Mode)

/-- Reads the front of a group behind its parenthesis. Looking around is not
supported. -/
def groupStart (mode : Mode) : Reading GroupStart := fun cs =>
  match mode.skip cs with
  | '?' :: '=' :: _ | '?' :: '!' :: _ | '?' :: '<' :: '=' :: _ | '?' :: '<' :: '!' :: _ => none
  | '?' :: 'P' :: '<' :: rest | '?' :: '<' :: rest =>
    (groupName rest).map fun (name, rest) => (.named name, rest)
  | '?' :: rest => do
    let ((inner, any, last), rest) ← modifiers mode false false [] rest
    if last = ':' then some (.plain inner, rest)
    else if any then some (.modifier inner, rest)
    else none
  | cs => some (.plain mode, cs)

/-! ### All parts -/

/-- What an escape matches. -/
def ofEscape (mode : Mode) : Escape → Regex
  | .literal c => .set (mode.literal c)
  | .chars set => .set set
  | .look condition => .look condition mode.word

/-- The parts of a text from here on, with the mode, the modes around the open groups
and the names given so far. -/
def readFrom : (fuel : Nat) → Mode → (outer : List Mode) → (names : List (List Char)) →
    List Char → Option (List Lexeme)
  | 0, _, _, _, _ => none
  | fuel + 1, mode, outer, names, cs =>
    match mode.skip cs with
    | [] => some []
    | '(' :: rest => do
      match ← groupStart mode rest with
      | (.plain inner, rest) =>
        return opening :: (← readFrom fuel inner (mode :: outer) names rest)
      | (.named name, rest) =>
        if names.contains name then none
        else return opening :: (← readFrom fuel mode (mode :: outer) (name :: names) rest)
      | (.modifier inner, rest) =>
        return modifier :: (← readFrom fuel inner outer names rest)
    | ')' :: rest =>
      match outer with
      | [] => none
      | mode :: outer => do return closing :: (← readFrom fuel mode outer names rest)
    | '|' :: rest => do return bar :: (← readFrom fuel mode outer names rest)
    | '?' :: rest => do
      return repetition 0 (some 1) :: (← readFrom fuel mode outer names (skipLazy rest))
    | '*' :: rest => do
      return repetition 0 none :: (← readFrom fuel mode outer names (skipLazy rest))
    | '+' :: rest => do
      return repetition 1 none :: (← readFrom fuel mode outer names (skipLazy rest))
    | '\x7b' :: rest => do
      let ((least, most), rest) ← bounds mode rest
      return repetition least most ::
        (← readFrom fuel mode outer names (skipLazy (mode.skip rest)))
    | '[' :: rest => do
      let (value, rest) ← Bracket.read mode rest
      return atom (.set value.set) value.depth :: (← readFrom fuel mode outer names rest)
    | '.' :: rest => do
      return atom (.set (← mode.dot?)) 0 :: (← readFrom fuel mode outer names rest)
    | '^' :: rest => do
      return atom (.look mode.lineStart mode.word) 0 :: (← readFrom fuel mode outer names rest)
    | '$' :: rest => do
      return atom (.look mode.lineEnd mode.word) 0 :: (← readFrom fuel mode outer names rest)
    | '\\' :: rest => do
      let (escape, rest) ← Escape.read mode rest
      return atom (ofEscape mode escape) 0 :: (← readFrom fuel mode outer names rest)
    | c :: rest => do
      return atom (.set (mode.literal c)) 0 :: (← readFrom fuel mode outer names rest)

/-- The parts of a pattern that starts in the mode given. -/
def readAll? (mode : Mode) (cs : List Char) : Option (List Lexeme) :=
  readFrom (cs.length + 1) mode [] [] cs

end Lexeme

end DocumentFilter.Pattern
