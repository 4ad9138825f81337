import DocumentFilter.Calendar.Date

/-! The time of day, and a day with a time.

A leap second is told by its nanoseconds: they run from one billion to just below
two billion while the second stays the one before. Moving a wall clock by an offset
below a day leaves the nanoseconds alone and crosses midnight at most once. -/
namespace DocumentFilter

/-- How many seconds a day has. -/
def secondsPerDay : Nat := 86400

/-- A time of day. -/
structure TimeOfDay where
  /-- Seconds since midnight. -/
  second : Nat
  /-- From one billion on, in a leap second. -/
  nanosecond : Nat
  second_lt : second < secondsPerDay
  nanosecond_lt : nanosecond < 2000000000
deriving DecidableEq

namespace TimeOfDay

def ofParts? (second nanosecond : Nat) : Option TimeOfDay :=
  if h : second < secondsPerDay ∧ nanosecond < 2000000000 then
    some ⟨second, nanosecond, h.1, h.2⟩
  else none

/-- The time on a clock face. Second sixty is a leap second of the second before. -/
def ofClock? (hour minute second nanosecond : Nat) : Option TimeOfDay :=
  if hour < 24 ∧ minute < 60 ∧ second ≤ 60 ∧ nanosecond < 1000000000 then
    if second = 60 then ofParts? (hour * 3600 + minute * 60 + 59) (nanosecond + 1000000000)
    else ofParts? (hour * 3600 + minute * 60 + second) nanosecond
  else none

def midnight : TimeOfDay := ⟨0, 0, by decide, by decide⟩

def compare (a b : TimeOfDay) : Ordering :=
  (Ord.compare a.second b.second).then (Ord.compare a.nanosecond b.nanosecond)

end TimeOfDay

/-- A day and a time on it, wherever that is. -/
structure WallClock where
  date : Date
  time : TimeOfDay
deriving DecidableEq

namespace WallClock

def compare (a b : WallClock) : Ordering :=
  (a.date.compare b.date).then (a.time.compare b.time)

/-- The wall clock this many seconds later, for less than a day either way; nothing
past the ends of the calendar. -/
def shift? (w : WallClock) (seconds : Int) : Option WallClock := do
  let moved := w.time.second + seconds
  let date ←
    if moved < 0 then w.date.previous?
    else if moved < secondsPerDay then some w.date
    else w.date.next?
  let time ← TimeOfDay.ofParts? (moved % secondsPerDay).toNat w.time.nanosecond
  return ⟨date, time⟩

end WallClock

end DocumentFilter
