import DocumentFilter.Number.Digits
import DocumentFilter.Pattern.Mode
import DocumentFilter.Pattern.Named
import DocumentFilter.Text.Reading
import DocumentFilter.Uuid

/-! Escapes: what a backslash and the characters after it stand for.

Every reader here starts behind the backslash. Punctuation stands for itself, letters
for control characters, classes, properties or conditions, and digits for nothing.
Whatever a mode skips may stand inside an escape of several characters. -/
namespace DocumentFilter.Pattern

/-- What an escape stands for. -/
inductive Escape where
  | literal (c : Char)
  | chars (set : CharSet)
  | look (condition : Look)

namespace Escape

/-- The ASCII characters other than letters, digits and angle brackets stand for
themselves. -/
def isPlain (c : Char) : Bool :=
  decide (c.toNat < 128) && !c.isAlphanum && c != '<' && c != '>'

/-! ### Characters by number -/

/-- Exactly `count` hexadecimal digits. -/
def hexDigits (mode : Mode) : (count value : Nat) → Reading Nat
  | 0, value, cs => some (value, cs)
  | count + 1, value, cs =>
    match mode.skip cs with
    | [] => none
    | c :: rest => (Uuid.hexValue? c).bind fun d => hexDigits mode count (value * 16 + d) rest

/-- Hexadecimal digits up to a closing brace. -/
def hexUntilBrace (mode : Mode) (value : Nat) (started : Bool) : (fuel : Nat) → Reading Nat
  | 0, _ => none
  | fuel + 1, cs =>
    match mode.skip cs with
    | [] => none
    | '\x7d' :: rest => if started then some (value, rest) else none
    | c :: rest =>
      (Uuid.hexValue? c).bind fun d => hexUntilBrace mode (value * 16 + d) true fuel rest

/-- The character with a code point, if there is one. -/
def character? (n : Nat) : Option Char :=
  if h : n.isValidChar then some (Char.ofNatAux n h) else none

/-- A character by its code point: so many digits, or any number in braces. With ASCII
only, two digits are a byte and have to be ASCII. -/
def numbered (mode : Mode) (width : Nat) : Reading Escape := fun cs =>
  match mode.skip cs with
  | '\x7b' :: rest => do
    let (n, rest) ← hexUntilBrace mode 0 false rest.length rest
    return (literal (← character? n), rest)
  | cs => do
    let (n, rest) ← hexDigits mode width 0 cs
    let c ← character? n
    if mode.asciiOnly && width == 2 && decide (127 < n) then none else some (literal c, rest)

/-! ### Classes -/

/-- A class letter, which is negated in upper case. -/
def ofClass? (mode : Mode) (negated : Bool) (unicode ascii : CharSet) : Option Escape :=
  if negated then (mode.complement? (if mode.asciiOnly then ascii else unicode)).map chars
  else some (chars (if mode.asciiOnly then ascii else unicode))

/-- What stands before a closing brace, and what after it. -/
def untilBrace (mode : Mode) : (fuel : Nat) → Reading (List Char)
  | 0, _ => none
  | fuel + 1, cs =>
    match mode.skip cs with
    | [] => none
    | '\x7d' :: rest => some ([], rest)
    | c :: rest => (untilBrace mode fuel rest).map fun (name, rest) => (c :: name, rest)

/-- Cuts a text at the first character for which the test holds. -/
def cut? (mark : Char → Bool) (cs : List Char) : Option (List Char × List Char) :=
  match cs.dropWhile fun c => !mark c with
  | [] => none
  | _ :: rest => some (cs.takeWhile fun c => !mark c, rest)

/-- Cuts a text at its first `!=`. -/
def cutUnequal? : List Char → Option (List Char × List Char)
  | [] => none
  | '!' :: '=' :: rest => some ([], rest)
  | c :: rest => (cutUnequal? rest).map fun (before, after) => (c :: before, after)

/-- A property in braces: its name, or a name and a value with `=`, `:` or `!=`
between them. -/
def ofProperty? (mode : Mode) (negated : Bool) (text : List Char) : Option CharSet :=
  match cutUnequal? text with
  | some (name, value) =>
    CharSet.ofPropertyValue? name value >>= mode.close? !negated
  | none =>
    match cut? (· == ':') text <|> cut? (· == '=') text with
    | some (name, value) => CharSet.ofPropertyValue? name value >>= mode.close? negated
    | none => CharSet.ofPropertyName? text >>= mode.close? negated

/-- A property by one letter, or in braces. Properties need more than ASCII. -/
def property (mode : Mode) (negated : Bool) : Reading Escape := fun cs =>
  if mode.asciiOnly then none
  else
    match mode.skip cs with
    | [] | '\\' :: _ => none
    | '\x7b' :: rest => do
      let (text, rest) ← untilBrace mode rest.length rest
      return (chars (← ofProperty? mode negated text), rest)
    | c :: rest => do
      return (chars (← CharSet.ofPropertyName? [c] >>= mode.close? negated), rest)

/-! ### Conditions -/

def isBoundaryLetter (c : Char) : Bool := c.isAlpha || c == '-'

/-- The letters up to a closing brace. -/
def boundaryName (mode : Mode) : (fuel : Nat) → Reading (List Char)
  | 0, _ => none
  | fuel + 1, cs =>
    match mode.skip cs with
    | '\x7d' :: rest => some ([], rest)
    | c :: rest =>
      if isBoundaryLetter c then
        (boundaryName mode fuel rest).map fun (name, rest) => (c :: name, rest)
      else none
    | [] => none

/-- A word boundary, which a name in braces may narrow. Braces that start otherwise
are left for a repetition. -/
def boundary (mode : Mode) : Reading Escape := fun cs =>
  match cs with
  | '\x7b' :: rest =>
    match mode.skip rest with
    | [] => none
    | c :: _ =>
      if isBoundaryLetter c then do
        let (name, rest) ← boundaryName mode rest.length rest
        match String.ofList name with
        | "start" => some (look .wordStart, rest)
        | "end" => some (look .wordEnd, rest)
        | "start-half" => some (look .wordStartHalf, rest)
        | "end-half" => some (look .wordEndHalf, rest)
        | _ => none
      else some (look .boundary, cs)
  | _ => some (look .boundary, cs)

/-! ### All escapes -/

def read (mode : Mode) : Reading Escape
  | [] => none
  | c :: rest =>
    match c with
    | 'x' => numbered mode 2 rest
    | 'u' => numbered mode 4 rest
    | 'U' => numbered mode 8 rest
    | 'p' => property mode false rest
    | 'P' => property mode true rest
    | 'd' | 'D' => (ofClass? mode (c == 'D') .digit .asciiDigit).map fun e => (e, rest)
    | 's' | 'S' => (ofClass? mode (c == 'S') .blank .asciiBlank).map fun e => (e, rest)
    | 'w' | 'W' => (ofClass? mode (c == 'W') .word .asciiWord).map fun e => (e, rest)
    | 'a' => some (literal '\x07', rest)
    | 'f' => some (literal '\x0c', rest)
    | 't' => some (literal '\t', rest)
    | 'n' => some (literal '\n', rest)
    | 'r' => some (literal '\r', rest)
    | 'v' => some (literal '\x0b', rest)
    | 'A' => some (look .textStart, rest)
    | 'z' => some (look .textEnd, rest)
    | 'b' => boundary mode rest
    | 'B' => some (look .notBoundary, rest)
    | '<' => some (look .wordStart, rest)
    | '>' => some (look .wordEnd, rest)
    | _ => if isPlain c then some (literal c, rest) else none

end Escape

end DocumentFilter.Pattern
