import DocumentFilter.Calendar.WallClock

/-! Timestamps: a wall clock, naive or with an offset from universal time.

Two naive timestamps stand in the order of their wall clocks, two zoned ones in the
order of their instants, and a naive and a zoned one in none. A zoned timestamp whose
instant lies past the ends of the calendar stands in no order, not even with
itself. -/
namespace DocumentFilter

/-- Seconds east of universal time, less than a day either way. -/
structure Offset where
  seconds : Int
  natAbs_lt : seconds.natAbs < secondsPerDay
deriving DecidableEq

namespace Offset

def ofSeconds? (seconds : Int) : Option Offset :=
  if h : seconds.natAbs < secondsPerDay then some ⟨seconds, h⟩ else none

/-- Universal time. -/
def universal : Offset := ⟨0, by decide⟩

end Offset

/-- A wall clock, with the offset of its zone or without. -/
structure Timestamp where
  wall : WallClock
  offset : Option Offset
deriving DecidableEq

namespace Timestamp

/-- The same wall clock in the zone given. -/
def withOffset (t : Timestamp) (offset : Offset) : Timestamp := { t with offset := some offset }

/-- The timestamp of an instant of universal time, as a clock with the offset shows
it. -/
def ofInstant? (universal : WallClock) (offset : Offset) : Option Timestamp :=
  (universal.shift? offset.seconds).map fun wall => ⟨wall, some offset⟩

/-- The universal time of a zoned timestamp. -/
def instant? (t : Timestamp) : Option WallClock := do
  let offset ← t.offset
  t.wall.shift? (-offset.seconds)

def compare (a b : Timestamp) : Option Ordering :=
  match a.offset, b.offset with
  | none, none => some (a.wall.compare b.wall)
  | some _, some _ => do
    let u ← a.instant?
    let v ← b.instant?
    return u.compare v
  | _, _ => none

end Timestamp

end DocumentFilter
