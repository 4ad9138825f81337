import DocumentFilter.Document.Order
import DocumentFilter.Proofs.Calendar.TimeLine
import Mathlib.Algebra.Order.Group.Int
import Mathlib.Algebra.Order.Monoid.Unbundled.Basic

/-! Zoned timestamps and their instants.

A zoned timestamp keeps the wall clock and the offset and not the instant that it was made of. The
instant is worked out again each time it is asked for, by taking off the offset that was added. On
the line of seconds the two cancel, wherever the offset carried the clock over midnight or into
another year, so the timestamp gives back the instant it was made of, and two of them stand in the
order of their instants. -/
namespace DocumentFilter

namespace Timestamp

/-! ### There and back -/

theorem ofInstant?_eq_some_iff {u : WallClock} {o : Offset} {t : Timestamp} :
    ofInstant? u o = some t ↔
      t.offset = some o ∧ t.wall.seconds = u.seconds + o.seconds ∧
        t.wall.time.nanosecond = u.time.nanosecond := by
  rw [ofInstant?, Option.map_eq_some_iff, ← WallClock.shift?_eq_some_iff o.natAbs_lt]
  constructor
  · rintro ⟨w, hw, rfl⟩
    exact ⟨rfl, hw⟩
  · rintro ⟨hoffset, hw⟩
    exact ⟨t.wall, hw, by rw [← hoffset]⟩

theorem instant?_eq_some_iff {t : Timestamp} {o : Offset} (ho : t.offset = some o)
    {u : WallClock} :
    t.instant? = some u ↔
      u.seconds = t.wall.seconds - o.seconds ∧ u.time.nanosecond = t.wall.time.nanosecond := by
  have hlt : (-o.seconds).natAbs < secondsPerDay := by
    rw [Int.natAbs_neg]
    exact o.natAbs_lt
  rw [instant?, ho, Int.sub_eq_add_neg, ← WallClock.shift?_eq_some_iff hlt]
  rfl

/-- There is a timestamp just when the clock that shows the instant is on the calendar. -/
theorem isSome_ofInstant?_iff (u : WallClock) (o : Offset) :
    (ofInstant? u o).isSome = true ↔ WallClock.OnCalendar (u.seconds + o.seconds) := by
  rw [ofInstant?, Option.isSome_map, WallClock.isSome_shift?_iff _ o.natAbs_lt]

section
variable {u v : WallClock} {o p : Offset} {t s : Timestamp} (ht : ofInstant? u o = some t)
include ht

/-- What the offset added is taken off again. -/
theorem instant?_of_ofInstant? : t.instant? = some u := by
  obtain ⟨hoffset, hseconds, hnanosecond⟩ := ofInstant?_eq_some_iff.mp ht
  refine (instant?_eq_some_iff hoffset).mpr ⟨?_, hnanosecond.symm⟩
  rw [hseconds, Int.add_sub_cancel]

variable (hs : ofInstant? v p = some s)
include hs

theorem compare_of_ofInstant? : t.compare s = some (u.compare v) := by
  obtain ⟨ho, -⟩ := ofInstant?_eq_some_iff.mp ht
  obtain ⟨hp, -⟩ := ofInstant?_eq_some_iff.mp hs
  rw [compare, ho, hp, instant?_of_ofInstant? ht, instant?_of_ofInstant? hs]
  rfl

/-- On clocks with one offset the instants are in the order of what the clocks show. -/
theorem compare_wall_of_ofInstant? (hsame : o = p) : t.wall.compare s.wall = u.compare v := by
  obtain ⟨-, htseconds, htnanosecond⟩ := ofInstant?_eq_some_iff.mp ht
  obtain ⟨-, hsseconds, hsnanosecond⟩ := ofInstant?_eq_some_iff.mp hs
  have hmoved : Ord.compare (u.seconds + o.seconds) (v.seconds + o.seconds) =
      Ord.compare u.seconds v.seconds := by
    rw [← cmp_eq_compare, ← cmp_eq_compare, cmp_add_right]
  rw [WallClock.compare_eq, WallClock.compare_eq, htseconds, hsseconds, htnanosecond, hsnanosecond,
    ← hsame, hmoved]

end

end Timestamp

/-- **A zoned timestamp carries its instant exactly.** It is made of every instant whose clock with
the offset is on the calendar, and gives it back. Any two stand in the order of their instants, by
the second and then by the fraction, and are equal when these are the same; with one offset this
is the order of their wall clocks. -/
theorem Timestamp.ofInstant?_exact :
    (∀ (u : WallClock) (o : Offset), WallClock.OnCalendar (u.seconds + o.seconds) →
      ∃ t, ofInstant? u o = some t ∧ t.instant? = some u ∧ t.offset = some o ∧
        t.wall.seconds = u.seconds + o.seconds ∧
        t.wall.time.nanosecond = u.time.nanosecond) ∧
    ∀ (u v : WallClock) (o p : Offset) (t s : Timestamp),
      ofInstant? u o = some t → ofInstant? v p = some s →
        (Value.datetime t).compare (.datetime s) =
          some ((Ord.compare u.seconds v.seconds).then
            (Ord.compare u.time.nanosecond v.time.nanosecond)) ∧
        ((Value.datetime t).equals (.datetime s) = true ↔ u = v) ∧
        (o = p → (Value.datetime t).compare (.datetime s) = some (t.wall.compare s.wall)) := by
  refine ⟨fun u o hcalendar => ?made, fun u v o p t s ht hs => ?ordered⟩
  case made =>
    obtain ⟨t, ht⟩ := Option.isSome_iff_exists.mp ((isSome_ofInstant?_iff u o).mpr hcalendar)
    exact ⟨t, ht, instant?_of_ofInstant? ht, ofInstant?_eq_some_iff.mp ht⟩
  case ordered =>
    have hcompare : (Value.datetime t).compare (.datetime s) = some (u.compare v) :=
      compare_of_ofInstant? ht hs
    refine ⟨?_, ?_, fun hsame => ?_⟩
    · rw [hcompare, WallClock.compare_eq]
    · rw [Value.equals, beq_iff_eq, compare_of_ofInstant? ht hs, Option.some.injEq,
        WallClock.compare_eq_eq_iff]
    · rw [hcompare, compare_wall_of_ofInstant? ht hs hsame]

/-- The leap second at the end of 2016, on a clock that shows the next year already, and the second
after it, on a clock that shows the year before. -/
theorem Timestamp.ofInstant?_exact_of_leap_second :
    let u : WallClock :=
      ⟨⟨2016, 12, 31, by decide, by decide⟩, ⟨86399, 1500000000, by decide, by decide⟩⟩
    let v : WallClock := ⟨⟨2017, 1, 1, by decide, by decide⟩, ⟨0, 0, by decide, by decide⟩⟩
    let t : Timestamp :=
      ⟨⟨⟨2017, 1, 1, by decide, by decide⟩, ⟨3660, 1500000000, by decide, by decide⟩⟩,
        some ⟨3661, by decide⟩⟩
    let s : Timestamp :=
      ⟨⟨⟨2016, 12, 31, by decide, by decide⟩, ⟨86399, 0, by decide, by decide⟩⟩,
        some ⟨-1, by decide⟩⟩
    WallClock.OnCalendar (u.seconds + 3661) ∧ t.instant? = some u ∧
      ofInstant? u ⟨3661, by decide⟩ = some t ∧ ofInstant? v ⟨-1, by decide⟩ = some s ∧
      (Value.datetime t).compare (.datetime s) = some .lt ∧ t.wall.compare s.wall = .gt := by
  intro u v t s
  obtain ⟨hmade, hordered⟩ := ofInstant?_exact
  have hcalendar : WallClock.OnCalendar (u.seconds + 3661) := by decide
  have ht : ofInstant? u ⟨3661, by decide⟩ = some t := by decide
  have hs : ofInstant? v ⟨-1, by decide⟩ = some s := by decide
  obtain ⟨t', ht', hinstant, -⟩ := hmade u ⟨3661, by decide⟩ hcalendar
  obtain rfl := Option.some.inj (ht.symm.trans ht')
  refine ⟨hcalendar, hinstant, ht, hs, ?_, by decide⟩
  rw [(hordered u v _ _ t s ht hs).1]
  decide

end DocumentFilter
