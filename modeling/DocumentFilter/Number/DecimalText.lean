import DocumentFilter.Number.Decimal
import DocumentFilter.Number.Digits

/-! Decimals as text.

Written, a decimal is its digits with as many after the point as it has places.
Read, it is an optional sign, digits with at most one point among them, and
separators `_` anywhere after the first digit. Whole digits have to fit; digits of
the fraction that do not, because there are twenty-eight already or because the
coefficient is full, are cut off and the first of them rounds, a half up. A separator
in the place of that first digit counts as zero, unless the coefficient is wide: then
it is passed over, and the digit after it is taken in if the coefficient has room. A
text may also carry an exponent after `e` or `E`. -/
namespace DocumentFilter.Decimal

open Digits (digit?)

/-- The decimal's digits, with exactly `scale` of them after the point. -/
def text (d : Decimal) : List Char :=
  (if d.coefficient < 0 then ['-'] else []) ++ Digits.positional d.coefficient.natAbs d.scale

/-! ### Plain digits -/

/-- The coefficient and places after the first digit that does not fit. A coefficient
that rounding makes too large gives up one more place. -/
def roundOff? (coefficient places next : Nat) : Option (Nat × Nat) :=
  if next < 5 then some (coefficient, places)
  else if coefficient + 1 < limit then some (coefficient + 1, places)
  else if places = 0 then none
  else some ((coefficient + 5) / 10, places - 1)

/-- The value of a character of the fraction, a separator standing for zero. -/
def fractionDigit? (c : Char) : Option Nat := if c = '_' then some 0 else digit? c

/-- From this coefficient on one more digit may need more than 64 bits. -/
def wideFrom : Nat := 0xFFFFFFFFFFFFFFFF / 10 - 255

/-- Was the coefficient wide already before its last digit? -/
def isWide (coefficient : Nat) : Bool := decide (wideFrom ≤ coefficient / 10)

/-- Reads after the point. In `past`, the last character was a separator. -/
def readFraction? (coefficient places : Nat) (started past : Bool) :
    List Char → Option (Nat × Nat)
  | [] => if started then some (coefficient, places) else none
  | c :: rest => do
    let d ← fractionDigit? c
    if c = '_' && (places < maxScale || isWide coefficient) then
      if started then readFraction? coefficient places true true rest else none
    else if (places < maxScale || past) && coefficient * 10 + d < limit then
      readFraction? (coefficient * 10 + d) (places + 1) true false rest
    else if rest.all fun r => (fractionDigit? r).isSome then roundOff? coefficient places d
    else none

/-- Reads up to the point and on. -/
def readWhole? (coefficient : Nat) (started : Bool) : List Char → Option (Nat × Nat)
  | [] => if started then some (coefficient, 0) else none
  | '.' :: rest => readFraction? coefficient 0 started false rest
  | '_' :: rest => if started then readWhole? coefficient true rest else none
  | c :: rest => do
    let d ← digit? c
    if coefficient * 10 + d < limit then readWhole? (coefficient * 10 + d) true rest else none

/-- The decimal of a text without an exponent, with a sign or without. The count of
places runs round: after the largest comes none. -/
def readPlain? (cs : List Char) : Option Decimal := do
  let (negative, cs) :=
    match cs with
    | '-' :: rest => (true, rest)
    | '+' :: rest => (false, rest)
    | _ => (false, cs)
  let (coefficient, places) ← readWhole? 0 false cs
  ofParts? (if negative then -(coefficient : Int) else coefficient) (places % (maxScale + 1))

/-! ### Exponents -/

/-- An unsigned exponent: digits, after an optional plus sign, below `2 ^ 32`. -/
def exponent? (cs : List Char) : Option Nat := do
  let n ← Digits.number? (match cs with | '+' :: rest => rest | _ => cs)
  if n < 0x100000000 then some n else none

/-- Divides by `10 ^ exponent`. Places beyond the largest count are rounded off, a
half away from zero. -/
def scaleDown? (d : Decimal) (exponent : Nat) : Option Decimal :=
  let excess := d.scale + exponent - maxScale
  let magnitude := (d.coefficient.natAbs + 5 * Nat.pow 10 excess / 10) / Nat.pow 10 excess
  if exponent ≤ maxScale then
    ofParts? (if d.coefficient < 0 then -(magnitude : Int) else magnitude)
      (d.scale + exponent - excess)
  else none

/-- Multiplies by `10 ^ exponent`. Places are used up first; past them the result is
whole. -/
def scaleUp? (d : Decimal) (exponent : Nat) : Option Decimal :=
  if exponent ≤ d.scale then ofParts? d.coefficient (d.scale - exponent)
  else if exponent ≤ maxScale then ofParts? (d.coefficient * Nat.pow 10 (exponent - d.scale)) 0
  else none

/-- Reads digits, the letter `e` or `E`, and an exponent. -/
def readScientific? (cs : List Char) : Option Decimal := do
  let isMark (c : Char) : Bool := c == 'e' || c == 'E'
  let d ← readPlain? (cs.takeWhile fun c => !isMark c)
  match cs.dropWhile fun c => !isMark c with
  | [] => none
  | _ :: '-' :: rest => scaleDown? d (← exponent? rest)
  | _ :: rest => scaleUp? d (← exponent? rest)

/-- The decimal that a text denotes. -/
def read? (cs : List Char) : Option Decimal := readPlain? cs <|> readScientific? cs

end DocumentFilter.Decimal
