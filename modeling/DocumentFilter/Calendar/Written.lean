import DocumentFilter.Calendar.Timestamp
import DocumentFilter.Number.Digits

/-! Dates and timestamps as text.

A year from 0 to 9999 has four digits; any other has a sign and at least four. The
fraction of a second has no digits, three, six or nine, the fewest that are exact. A
leap second is written as second sixty. -/
namespace DocumentFilter

open Digits (fixed padded)

def yearText (year : Int) : List Char :=
  if 0 ≤ year ∧ year ≤ 9999 then fixed 4 year.toNat
  else (if year < 0 then '-' else '+') :: padded 4 year.natAbs

def Date.text (d : Date) : List Char :=
  yearText d.year ++ '-' :: fixed 2 d.month ++ '-' :: fixed 2 d.day

/-- The fraction of a second, with its point. -/
def fractionText (nanosecond : Nat) : List Char :=
  if nanosecond = 0 then []
  else if nanosecond % 1000000 = 0 then '.' :: fixed 3 (nanosecond / 1000000)
  else if nanosecond % 1000 = 0 then '.' :: fixed 6 (nanosecond / 1000)
  else '.' :: fixed 9 nanosecond

def TimeOfDay.text (t : TimeOfDay) : List Char :=
  let leap := t.nanosecond / 1000000000
  fixed 2 (t.second / 3600) ++ ':' :: fixed 2 (t.second / 60 % 60) ++
    ':' :: fixed 2 (t.second % 60 + leap) ++ fractionText (t.nanosecond % 1000000000)

def WallClock.text (w : WallClock) : List Char := w.date.text ++ 'T' :: w.time.text

/-- The sign, hours and minutes of an offset, rounded to the nearest minute, a half
away from zero. -/
def Offset.text (o : Offset) : List Char :=
  let minutes := (o.seconds.natAbs + 30) / 60
  (if o.seconds < 0 then '-' else '+') :: fixed 2 (minutes / 60) ++ ':' :: fixed 2 (minutes % 60)

/-- The wall clock, and the offset when the timestamp has an instant. -/
def Timestamp.text (t : Timestamp) : List Char :=
  match t.offset, t.instant? with
  | some offset, some _ => t.wall.text ++ offset.text
  | _, _ => t.wall.text

end DocumentFilter
