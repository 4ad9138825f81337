import DocumentFilter.Calendar.Timestamp
import DocumentFilter.Number.Digits
import DocumentFilter.Text.Blank
import DocumentFilter.Text.Reading

/-! Reading dates and timestamps.

A strict form is tried first: every field at its full width, a zone at the end. Then
come eight loose layouts, which allow blanks before a number, short fields and signed
years: a letter `T` or blanks between day and time, seconds or none, a zone or none.
Last comes a bare day, at its midnight. A text is accepted when nothing of it is
left. -/
namespace DocumentFilter

open Digits (digit? number?)
open Text (skipBlanks)

namespace Reading

/-- At most `most` digits, and at least one. -/
def digits (most : Nat) : Reading Nat := fun cs =>
  let run := (cs.take most).takeWhile fun c => (digit? c).isSome
  (number? run).map fun n => (n, cs.drop run.length)

/-- Exactly `width` digits. -/
def exactly (width : Nat) : Reading Nat := fun cs => do
  let run := cs.take width
  if run.length = width then (number? run).map fun n => (n, cs.drop width) else none

/-- Blanks, then at most `most` digits. -/
def field (most : Nat) : Reading Nat := fun cs => digits most (skipBlanks cs)

/-- Blanks, then four digits or fewer, or a sign and as many as there are. -/
def year : Reading Int := fun cs =>
  match skipBlanks cs with
  | '-' :: rest => (digits rest.length rest).map fun (n, rest) => (-(n : Int), rest)
  | '+' :: rest => (digits rest.length rest).map fun (n, rest) => ((n : Int), rest)
  | rest => (digits 4 rest).map fun (n, rest) => ((n : Int), rest)

/-- Nothing, or a point and digits: nanoseconds, digits past the ninth ignored. -/
def fraction : Reading Nat
  | '.' :: rest =>
    let run := rest.takeWhile fun c => (digit? c).isSome
    (number? (run.take 9)).map fun n => (n * Nat.pow 10 (9 - (run.take 9).length), rest.drop run.length)
  | cs => some (0, cs)

/-- Plus or minus; the minus sign of typography counts. -/
def sign : Reading Bool
  | '+' :: rest => some (false, rest)
  | '-' :: rest | '−' :: rest => some (true, rest)
  | _ => none

/-- A signed offset: two digits of hours, what `between` skips, two of minutes. -/
def offset (between : List Char → Option (List Char)) : Reading Offset := fun cs => do
  let (west, cs) ← sign cs
  let (hour, cs) ← exactly 2 cs
  let cs ← between cs
  let (minute, cs) ← exactly 2 cs
  let seconds : Int := (hour * 3600 + minute * 60 : Nat)
  let offset ← Offset.ofSeconds? (if west then -seconds else seconds)
  if minute < 60 then some (offset, cs) else none

end Reading

open Reading

/-! ### The strict form -/

/-- An offset with a colon, or the letter for universal time. -/
def Reading.strictOffset : Reading Offset
  | 'Z' :: rest | 'z' :: rest => some (.universal, rest)
  | cs => offset (fun cs => (character ':' cs).map (·.2)) cs

/-- Every field at its full width. -/
def Reading.strictTimestamp : Reading Timestamp := fun cs => do
  let (year, cs) ← exactly 4 cs
  let (_, cs) ← character '-' cs
  let (month, cs) ← exactly 2 cs
  let (_, cs) ← character '-' cs
  let (day, cs) ← exactly 2 cs
  let (_, cs) ← character 'T' cs <|> character 't' cs <|> character ' ' cs
  let (hour, cs) ← exactly 2 cs
  let (_, cs) ← character ':' cs
  let (minute, cs) ← exactly 2 cs
  let (_, cs) ← character ':' cs
  let (second, cs) ← exactly 2 cs
  let (nanosecond, cs) ← fraction cs
  let (offset, cs) ← strictOffset cs
  let date ← Date.ofParts? year month day
  let time ← TimeOfDay.ofClock? hour minute second nanosecond
  return (⟨⟨date, time⟩, some offset⟩, cs)

/-! ### The loose layouts -/

/-- Year, month and day. -/
def Reading.date : Reading Date := fun cs => do
  let (year, cs) ← year cs
  let (_, cs) ← character '-' cs
  let (month, cs) ← field 2 cs
  let (_, cs) ← character '-' cs
  let (day, cs) ← field 2 cs
  let date ← Date.ofParts? year month day
  return (date, cs)

/-- Which parts a loose timestamp has. -/
structure Layout where
  /-- The letter `T` between day and time, or else blanks. -/
  letter : Bool
  /-- Seconds with their fraction. -/
  seconds : Bool
  /-- An offset at the end. -/
  zoned : Bool
deriving DecidableEq

namespace Layout

/-- Hours, minutes and, where the layout has them, seconds. -/
def time (l : Layout) : Reading TimeOfDay := fun cs => do
  let (hour, cs) ← field 2 cs
  let (_, cs) ← character ':' cs
  let (minute, cs) ← field 2 cs
  if l.seconds then
    let (_, cs) ← character ':' cs
    let (second, cs) ← field 2 cs
    let (nanosecond, cs) ← fraction cs
    return (← TimeOfDay.ofClock? hour minute second nanosecond, cs)
  else return (← TimeOfDay.ofClock? hour minute 0 0, cs)

/-- Blanks and an offset; any colons and blanks stand between hours and minutes. -/
def offset : Reading Offset := fun cs =>
  Reading.offset (fun cs => some (cs.dropWhile fun c => c == ':' || Text.isBlank c)) (skipBlanks cs)

/-- A timestamp in this layout. A zoned one has to have an instant. -/
def timestamp (l : Layout) : Reading Timestamp := fun cs => do
  let (date, cs) ← Reading.date cs
  let cs ← if l.letter then (character 'T' cs).map (·.2) else some (skipBlanks cs)
  let (time, cs) ← l.time cs
  if l.zoned then
    let (offset, cs) ← offset cs
    let t : Timestamp := ⟨⟨date, time⟩, some offset⟩
    let _ ← t.instant?
    return (t, cs)
  else return (⟨⟨date, time⟩, none⟩, cs)

/-- The loose layouts, in the order in which they are tried. -/
def all : List Layout :=
  [⟨true, true, true⟩, ⟨false, true, true⟩, ⟨true, false, true⟩, ⟨false, false, true⟩,
    ⟨true, true, false⟩, ⟨false, true, false⟩, ⟨true, false, false⟩, ⟨false, false, false⟩]

end Layout

/-! ### Whole texts -/

/-- The day that a text denotes. -/
def Date.read? (cs : List Char) : Option Date := Reading.date.complete cs

/-- The start of a day. -/
def Date.midnight (d : Date) : Timestamp := ⟨⟨d, .midnight⟩, none⟩

/-- The timestamp that a text denotes. -/
def Timestamp.read? (cs : List Char) : Option Timestamp :=
  strictTimestamp.complete cs <|>
    Layout.all.findSome? (fun l => l.timestamp.complete cs) <|>
    (Date.read? cs).map Date.midnight

end DocumentFilter
