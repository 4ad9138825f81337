import DocumentFilter.Pattern.CharSet

/-! Regular expressions and where they match in a text.

The positions of a text are the gaps before, between and after its characters. A set
of positions is a natural number whose bits tell its members, lowest bit first. An
expression takes the positions where a match may start to those where it may end;
whether a repetition is greedy makes no difference to that, so it is not recorded.
Repeating a step more often than the text has positions changes nothing, which bounds
every repetition. -/
namespace DocumentFilter

/-- A condition on a position, by the characters around it. -/
inductive Look where
  | textStart | textEnd
  | lineStart | lineEnd
  /-- As above, where a carriage return, a line feed or both in this order end a
  line. -/
  | lineStartReturn | lineEndReturn
  | boundary | notBoundary
  | wordStart | wordEnd
  | wordStartHalf | wordEndHalf
deriving DecidableEq

inductive Regex where
  | empty
  | set (chars : CharSet)
  /-- A condition, and what counts as a character of words. -/
  | look (condition : Look) (word : CharSet)
  | concat (a b : Regex)
  | alternate (a b : Regex)
  /-- At least `least` times and, if there is a bound, at most `most` times. -/
  | repetition (a : Regex) (least : Nat) (most : Option Nat)

namespace Look

/-- Does the condition hold between these characters? Nothing stands for an end of
the text. -/
def holds (condition : Look) (word : CharSet) (before after : Option Char) : Bool :=
  let inWord (c : Option Char) : Bool := c.any fun c => word.contains c.toNat
  match condition with
  | textStart => before.isNone
  | textEnd => after.isNone
  | lineStart => before.isNone || before == some '\n'
  | lineEnd => after.isNone || after == some '\n'
  | lineStartReturn =>
    before.isNone || before == some '\n' || (before == some '\r' && after != some '\n')
  | lineEndReturn =>
    after.isNone || after == some '\r' || (after == some '\n' && before != some '\r')
  | boundary => inWord before != inWord after
  | notBoundary => inWord before == inWord after
  | wordStart => !inWord before && inWord after
  | wordEnd => inWord before && !inWord after
  | wordStartHalf => !inWord before
  | wordEndHalf => !inWord after

end Look

namespace Regex

/-- The members whose next character is in the set, moved past it. -/
def advance (chars : CharSet) : (text : List Char) → (positions : Nat) → Nat
  | [], _ => 0
  | c :: rest, positions =>
    if positions = 0 then 0
    else
      2 * ((if positions % 2 = 1 && chars.contains c.toNat then 1 else 0) +
        advance chars rest (positions / 2))

/-- The members at which the condition holds. -/
def guard (holds : Option Char → Option Char → Bool) :
    (before : Option Char) → (text : List Char) → (positions : Nat) → Nat
  | before, [], positions => if positions % 2 = 1 && holds before none then 1 else 0
  | before, c :: rest, positions =>
    if positions = 0 then 0
    else
      (if positions % 2 = 1 && holds before (some c) then 1 else 0) +
        2 * guard holds (some c) rest (positions / 2)

/-- Applies a step so many times, or until it changes nothing. -/
def iterate (step : Nat → Nat) : (count : Nat) → Nat → Nat
  | 0, positions => positions
  | count + 1, positions =>
    let next := step positions
    if next = positions then positions else iterate step count next

/-- Where matches that start at the positions given may end. -/
def ends (text : List Char) : Regex → (starts : Nat) → Nat
  | empty, starts => starts
  | set chars, starts => advance chars text starts
  | look condition word, starts => guard (condition.holds word) none text starts
  | concat a b, starts => b.ends text (a.ends text starts)
  | alternate a b, starts => a.ends text starts ||| b.ends text starts
  | repetition a least most, starts =>
    let bound := text.length + 1
    let further := match most with
      | some most => min (most - least) bound
      | none => bound
    iterate (fun s => s ||| a.ends text s) further
      (iterate (fun s => a.ends text s) (min least bound) starts)

/-- Does the expression match some part of the text? -/
def search (r : Regex) (text : List Char) : Bool :=
  r.ends text ((1 <<< (text.length + 1)) - 1) != 0

end Regex

end DocumentFilter
