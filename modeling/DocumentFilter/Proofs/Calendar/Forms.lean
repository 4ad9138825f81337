import DocumentFilter.Proofs.Calendar.OffsetText

/-! The forms of timestamps do not disagree.

A timestamp may be written in ten forms, and the readers of them are lenient. All loose layouts read
the day alike, and from there the text tells which of them it can be: the letter or another mark
behind the day, a colon or something else behind the minutes, an offset or the end behind the clock.
So at most one layout takes a text, and a bare day only a text that ends where all of these go on.
The strict form takes its texts apart as the layouts do. Hence two forms that take one text give one
timestamp, and it does not matter in which order the forms are tried
(`Form.readings_agree`). -/
namespace DocumentFilter

open Reading (hourMinute)
open Text (skipBlanks)

/-! ### One layout at most -/

namespace Layout

variable {l m : Layout} {t u : Timestamp} {time : TimeOfDay} {cs after clock tail : List Char}

/-- Only the letter shows that the layout has one: no clock starts with it. -/
theorem letter_iff (hmark : l.afterMark after = some clock)
    (htime : l.time clock = some (time, tail)) : l.letter = true ↔ after.head? = some 'T' := by
  rcases afterMark_eq_some_iff.mp hmark with ⟨hletter, rfl⟩ | ⟨hletter, rfl⟩
  · exact iff_of_true hletter rfl
  · refine iff_of_false (Bool.eq_false_iff.mp hletter) fun hhead => ?_
    obtain ⟨rest, rfl⟩ := List.head?_eq_some_iff.mp hhead
    rw [Text.skipBlanks_cons (by decide), l.time_cons (by decide) (by decide)] at htime
    cases htime

theorem EndsInZone.head?_ne (h : l.EndsInZone t tail) : tail.head? ≠ some ':' := by
  intro hhead
  obtain ⟨rest, rfl⟩ := List.head?_eq_some_iff.mp hhead
  cases h with
  | zoned _ _ hoffset _ => cases (rfl : Layout.offset (':' :: rest) = none).symm.trans hoffset
  | naive _ _ htail => cases htail

/-- A second colon shows that the layout has seconds: no zone starts with one. -/
theorem seconds_iff {hours : Nat × Nat} (hminutes : hourMinute clock = some (hours, after))
    (htime : l.time clock = some (time, tail)) (hzone : l.EndsInZone t tail) :
    l.seconds = true ↔ after.head? = some ':' := by
  obtain ⟨hours', after', hminutes', hseconds⟩ := exists_of_time htime
  cases hminutes.symm.trans hminutes'
  rcases hseconds with ⟨hseconds, -, -, -, -, rfl, -⟩ | ⟨hseconds, rfl⟩
  · exact iff_of_true hseconds rfl
  · exact iff_of_false (Bool.eq_false_iff.mp hseconds) hzone.head?_ne

/-- What is left of the text shows that the layout has a zone. -/
theorem zoned_iff (hzone : l.EndsInZone t tail) : l.zoned = true ↔ tail ≠ [] := by
  cases hzone with
  | zoned hl _ hoffset _ =>
    refine iff_of_true hl ?_
    rintro rfl
    cases (rfl : Layout.offset [] = none).symm.trans hoffset
  | naive hl _ htail => exact iff_of_false (Bool.eq_false_iff.mp hl) fun hne => hne htail

theorem afterMark_congr (h : l.letter = m.letter) (cs : List Char) :
    l.afterMark cs = m.afterMark cs := by
  unfold afterMark
  rw [h]

theorem time_congr (h : l.seconds = m.seconds) (cs : List Char) : l.time cs = m.time cs := by
  unfold time
  rw [h]

/-- **At most one layout takes a text.** -/
theorem eq_of_timestamp (hl : l.timestamp cs = some (t, [])) (hm : m.timestamp cs = some (u, [])) :
    l = m := by
  obtain ⟨after, clock, tail, hday, hmark, htime, hzone⟩ := exists_of_timestamp hl
  obtain ⟨after', clock', tail', hday', hmark', htime', hzone'⟩ := exists_of_timestamp hm
  obtain rfl : after = after' := by
    rw [hday] at hday'
    exact (Prod.mk.inj (Option.some.inj hday')).2
  have hletter : l.letter = m.letter := by
    rw [Bool.eq_iff_iff, letter_iff hmark htime, letter_iff hmark' htime']
  obtain rfl : clock = clock' := by
    rw [afterMark_congr hletter, hmark'] at hmark
    exact (Option.some.inj hmark).symm
  obtain ⟨hours, rest, hminutes, -⟩ := exists_of_time htime
  have hseconds : l.seconds = m.seconds := by
    rw [Bool.eq_iff_iff, seconds_iff hminutes htime hzone, seconds_iff hminutes htime' hzone']
  obtain rfl : tail = tail' := by
    rw [time_congr hseconds, htime'] at htime
    exact (Prod.mk.inj (Option.some.inj htime)).2.symm
  have hzoned : l.zoned = m.zoned := by
    rw [Bool.eq_iff_iff, zoned_iff hzone, zoned_iff hzone']
  cases l
  cases m
  cases hletter
  cases hseconds
  cases hzoned
  rfl

/-! ### The strict form beside the layouts -/

/-- Behind the mark of the strict form every layout that goes on starts at the same clock. -/
theorem clock_of_strictMark {mark : Char} (hstrict : StrictMark mark)
    (hclock : skipBlanks clock = clock) {clock' : List Char}
    (hmark : l.afterMark (mark :: clock) = some clock')
    (htime : l.time clock' = some (time, tail)) : clock' = clock := by
  rcases afterMark_eq_some_iff.mp hmark with ⟨-, hcs⟩ | ⟨-, rfl⟩
  · exact (List.cons.inj hcs).2.symm
  · rcases hstrict with rfl | rfl | rfl
    · rw [Text.skipBlanks_cons (by decide), l.time_cons (by decide) (by decide)] at htime
      cases htime
    · rw [Text.skipBlanks_cons (by decide), l.time_cons (by decide) (by decide)] at htime
      cases htime
    · exact (List.dropWhile_cons_of_pos (by decide)).trans hclock

/-- **A text of the strict form is read alike by the layout that takes it.** -/
theorem eq_of_strictTimestamp (hs : Reading.strictTimestamp cs = some (t, []))
    (hl : l.timestamp cs = some (u, [])) : u = t := by
  obtain ⟨mark, clock, tail, o, hday, hstrict, hclock, htime, hoffset, ho⟩ :=
    Reading.exists_of_strictTimestamp hs
  obtain ⟨after', clock', tail', hday', hmark', htime', hzone'⟩ := exists_of_timestamp hl
  obtain ⟨hdate, rfl⟩ : t.wall.date = u.wall.date ∧ mark :: clock = after' := by
    rw [hday] at hday'
    exact Prod.mk.inj (Option.some.inj hday')
  obtain rfl : clock' = clock := clock_of_strictMark hstrict hclock hmark' htime'
  -- the strict form has seconds, and so has every layout that finds a colon behind the minutes
  have hseconds : l.seconds = true := by
    obtain ⟨hours, rest, hminutes, hcolon⟩ :=
      exists_of_time (htime { l with seconds := true } rfl)
    obtain ⟨-, afterColon, -, -, -, rfl, -⟩ := hcolon.resolve_right nofun
    exact (seconds_iff hminutes htime' hzone').mpr rfl
  obtain ⟨htimeOf, rfl⟩ : t.wall.time = u.wall.time ∧ tail = tail' := by
    rw [htime l hseconds] at htime'
    exact Prod.mk.inj (Option.some.inj htime')
  have hzone : u.offset = some o := by
    cases hzone' with
    | zoned _ ho' hoffset' _ => rw [ho', Reading.strictOffset_agrees hoffset hoffset']
    | naive _ _ htail =>
      subst htail
      cases hoffset
  obtain ⟨⟨date, time⟩, offset⟩ := t
  obtain ⟨⟨date', time'⟩, offset'⟩ := u
  cases hdate
  cases htimeOf
  cases ho
  cases hzone
  rfl

end Layout

/-! ### Bare days -/

/-- A text that ends with its day has no clock for a layout. -/
theorem Layout.timestamp_of_day {d : Date} {cs : List Char} (h : Reading.date cs = some (d, []))
    (l : Layout) (t : Timestamp) : l.timestamp cs ≠ some (t, []) := by
  intro hl
  obtain ⟨after, clock, tail, hday, hmark, htime, -⟩ := exists_of_timestamp hl
  rw [h] at hday
  cases hday
  rcases afterMark_eq_some_iff.mp hmark with ⟨-, ⟨⟩⟩ | ⟨-, rfl⟩
  have hnone : l.time (skipBlanks []) = none := Reading.stop rfl _
  rw [hnone] at htime
  cases htime

theorem Reading.strictTimestamp_of_day {d : Date} {cs : List Char}
    (h : date cs = some (d, [])) (t : Timestamp) : strictTimestamp cs ≠ some (t, []) := by
  intro hs
  obtain ⟨mark, clock, -, -, hday, -⟩ := exists_of_strictTimestamp hs
  rw [h] at hday
  cases hday

/-! ### All forms -/

/-- The forms in which a timestamp may be written. -/
inductive Form where
  /-- Every field at its full width, with an offset. -/
  | strict
  /-- One of the loose layouts. -/
  | loose (l : Layout)
  /-- A bare day, for its midnight. -/
  | day

namespace Form

/-- The timestamp that a text denotes in the form. -/
def read? : Form → List Char → Option Timestamp
  | strict, cs => Reading.strictTimestamp.complete cs
  | loose l, cs => l.timestamp.complete cs
  | day, cs => (Date.read? cs).map Date.midnight

/-- The forms in the order in which they are tried. -/
def all : List Form := strict :: Layout.all.map loose ++ [day]

theorem mem_all (f : Form) : f ∈ all := by
  have hlayouts : ∀ letter seconds zoned : Bool, ⟨letter, seconds, zoned⟩ ∈ Layout.all := by decide
  cases f with
  | strict => exact List.mem_cons_self ..
  | loose l =>
    exact List.mem_append_left _ (List.mem_cons_of_mem _ (List.mem_map_of_mem (hlayouts ..)))
  | day => exact List.mem_append_right _ (List.mem_singleton_self day)

theorem findSome?_all (cs : List Char) :
    all.findSome? (fun f => f.read? cs) = Timestamp.read? cs := by
  have hlayouts : (Layout.all.map loose).findSome? (fun f => f.read? cs) =
      Layout.all.findSome? fun l => l.timestamp.complete cs := List.findSome?_map ..
  have hday : [day].findSome? (fun f => f.read? cs) = (Date.read? cs).map Date.midnight :=
    List.findSome?_singleton ..
  rw [all, List.cons_append, List.findSome?_cons, List.findSome?_append, hlayouts, hday,
    Timestamp.read?, read?]
  cases Reading.strictTimestamp.complete cs with
  | none => exact Option.or_eq_orElse ..
  | some t => rfl

variable {f g : Form} {cs : List Char} {t u : Timestamp}

theorem date_of_day (h : day.read? cs = some t) :
    ∃ d, Reading.date cs = some (d, []) ∧ d.midnight = t := by
  obtain ⟨d, hd, ht⟩ := Option.map_eq_some_iff.mp h
  exact ⟨d, (Reading.complete_eq_some_iff ..).mp hd, ht⟩

/-- **Two forms that take one text give one timestamp.** -/
theorem agree (hf : f.read? cs = some t) (hg : g.read? cs = some u) : t = u := by
  have hcomplete {r : Reading Timestamp} {v : Timestamp} (h : r.complete cs = some v) :
      r cs = some (v, []) := (Reading.complete_eq_some_iff ..).mp h
  cases f with
  | strict =>
    cases g with
    | strict => exact Option.some.inj (hf.symm.trans hg)
    | loose m => exact (Layout.eq_of_strictTimestamp (hcomplete hf) (hcomplete hg)).symm
    | day =>
      obtain ⟨d, hd, -⟩ := date_of_day hg
      exact absurd (hcomplete hf) (Reading.strictTimestamp_of_day hd t)
  | loose l =>
    cases g with
    | strict => exact Layout.eq_of_strictTimestamp (hcomplete hg) (hcomplete hf)
    | loose m =>
      obtain rfl := Layout.eq_of_timestamp (hcomplete hf) (hcomplete hg)
      exact Option.some.inj (hf.symm.trans hg)
    | day =>
      obtain ⟨d, hd, -⟩ := date_of_day hg
      exact absurd (hcomplete hf) (Layout.timestamp_of_day hd l t)
  | day =>
    obtain ⟨d, hd, -⟩ := date_of_day hf
    cases g with
    | strict => exact absurd (hcomplete hg) (Reading.strictTimestamp_of_day hd u)
    | loose m => exact absurd (hcomplete hg) (Layout.timestamp_of_day hd m u)
    | day => exact Option.some.inj (hf.symm.trans hg)

/-- The first form that takes a text gives what any form gives, whichever comes first. -/
theorem findSome?_eq_some_iff {order : List Form} (horder : ∀ f, f ∈ order) :
    order.findSome? (fun f => f.read? cs) = some t ↔ ∃ f : Form, f.read? cs = some t := by
  constructor
  · intro h
    obtain ⟨f, -, hf⟩ := List.exists_of_findSome?_eq_some h
    exact ⟨f, hf⟩
  · rintro ⟨f, hf⟩
    cases h : order.findSome? (fun f => f.read? cs) with
    | none =>
      have hnone := List.findSome?_eq_none_iff.mp h f (horder f)
      rw [hnone] at hf
      cases hf
    | some u =>
      obtain ⟨g, -, hg⟩ := List.exists_of_findSome?_eq_some h
      rw [agree hf hg]

end Form

theorem Timestamp.read?_eq_some_iff {cs : List Char} {t : Timestamp} :
    read? cs = some t ↔ ∃ f : Form, f.read? cs = some t := by
  rw [← Form.findSome?_all, Form.findSome?_eq_some_iff Form.mem_all]

namespace Form

/-- **The forms of timestamps do not disagree.** All forms that take a text give one timestamp, wall
clock, nanoseconds and offset; so the text denotes it in whatever order the forms are tried, and it
denotes one whenever a form takes it. -/
theorem readings_agree (cs : List Char) :
    (∀ (f g : Form) (t u : Timestamp), f.read? cs = some t → g.read? cs = some u → t = u) ∧
      (∀ t, Timestamp.read? cs = some t ↔ ∃ f : Form, f.read? cs = some t) ∧
      all.findSome? (fun f => f.read? cs) = Timestamp.read? cs ∧
      ∀ order : List Form, order.Perm all →
        order.findSome? (fun f => f.read? cs) = Timestamp.read? cs := by
  refine ⟨fun f g t u => agree, fun t => Timestamp.read?_eq_some_iff, findSome?_all cs,
    fun order horder => Option.ext fun t => ?_⟩
  rw [Timestamp.read?_eq_some_iff, findSome?_eq_some_iff fun f => horder.mem_iff.mpr (mem_all f)]

/-- A leap second that the strict form and a layout both take, whichever is asked first. -/
theorem readings_agree_of_leap_second :
    let cs := "2024-02-29T23:59:60.5+05:30".toList
    let t : Timestamp := ⟨⟨⟨2024, 2, 29, by decide, by decide⟩,
      ⟨86399, 1500000000, by decide, by decide⟩⟩, some ⟨19800, by decide⟩⟩
    strict.read? cs = some t ∧ (loose ⟨true, true, true⟩).read? cs = some t ∧
      Timestamp.read? cs = some t ∧ all.reverse.findSome? (fun f => f.read? cs) = some t := by
  intro cs t
  obtain ⟨hagree, hread, -, horder⟩ := readings_agree cs
  have hstrict : strict.read? cs = some t := by decide
  have hsome : ((loose ⟨true, true, true⟩).read? cs).isSome = true := by decide
  obtain ⟨u, hloose⟩ := Option.isSome_iff_exists.mp hsome
  obtain rfl : t = u := hagree strict (loose ⟨true, true, true⟩) t u hstrict hloose
  have htext := (hread t).mpr ⟨strict, hstrict⟩
  exact ⟨hstrict, hloose, htext, (horder all.reverse (List.reverse_perm all)).trans htext⟩

end Form

end DocumentFilter
