import DocumentFilter.Proofs.Calendar.Forms

/-! The offset of a timestamp is the one that its text ends in.

Behind the last character that is none of a clock, a text that ends in an offset has hours and
minutes of two digits each, and that character is a sign or the letter of universal time. A naive
timestamp has the letter of its layout there, the point of a fraction, or the hyphen before its day;
and behind the hyphen stands a day, whose clock has a colon between its numbers or which has no
clock at all. So no naive timestamp ends in an offset (`EndsNaive.not_endsInOffset`), and every
zoned one ends in its own. -/
namespace DocumentFilter

open Digits (fixed)
open Reading (ClockCharacter TakesClock)
open Text (isBlank skipBlanks)

/-- The text ends in the writing of the offset. -/
def EndsInOffset (cs : List Char) (o : Offset) : Prop := ∃ text, text <:+ cs ∧ o.Written text

/-! ### The last character that is none of a clock -/

/-- The mark is the last character of the text that is none of a clock; behind it stands `clock`. -/
structure LastMark (cs : List Char) (mark : Char) (clock : List Char) : Prop where
  suffix : mark :: clock <:+ cs
  outside : ¬ClockCharacter mark
  inside : ∀ c ∈ clock, ClockCharacter c

namespace LastMark

variable {cs clock clock' : List Char} {mark mark' : Char}

theorem of_suffix {cs' : List Char} (h : LastMark cs mark clock) (hcs : cs <:+ cs') :
    LastMark cs' mark clock :=
  ⟨h.suffix.trans hcs, h.outside, h.inside⟩

/-- A mark with clock behind it is not within the clock behind another one. -/
theorem eq_of_suffix (h : LastMark cs mark clock) (h' : LastMark cs mark' clock')
    (hsuffix : mark :: clock <:+ mark' :: clock') : mark = mark' ∧ clock = clock' := by
  rcases List.suffix_cons_iff.mp hsuffix with heq | hinner
  · exact List.cons.inj heq
  · exact absurd (h'.inside mark (hinner.subset (List.mem_cons_self ..))) h.outside

theorem unique (h : LastMark cs mark clock) (h' : LastMark cs mark' clock') :
    mark = mark' ∧ clock = clock' := by
  rcases List.suffix_or_suffix_of_suffix h.suffix h'.suffix with hsuffix | hsuffix
  · exact h.eq_of_suffix h' hsuffix
  · obtain ⟨hmark, hclock⟩ := h'.eq_of_suffix h hsuffix
    exact ⟨hmark.symm, hclock.symm⟩

end LastMark

/-! ### Texts that end in an offset -/

theorem clockCharacter_of_mem_fixed {width n : Nat} {c : Char} (h : c ∈ fixed width n) :
    ClockCharacter c :=
  .inl (Digits.allDigits_fixed width n c h)

/-- What stands behind the sign of an offset: hours and minutes of two digits, and between them no
number. -/
def HoursMinutes (clock : List Char) : Prop :=
  ∃ hours between minutes, clock = fixed 2 hours ++ (between ++ fixed 2 minutes) ∧
    hours < 100 ∧ minutes < 60 ∧ Separates between

theorem Offset.Written.exists_lastMark {cs : List Char} {o : Offset} (h : o.Written cs) :
    ∃ mark clock, cs = mark :: clock ∧ LastMark cs mark clock ∧ mark ≠ 'T' ∧ mark ≠ '.' ∧
      (mark = '-' → HoursMinutes clock) := by
  cases h with
  | @universal c hc =>
    refine ⟨c, [], rfl, ⟨List.suffix_rfl, ?_, nofun⟩, ?_⟩
    · rcases hc with rfl | rfl
      · decide
      · decide
    · rcases hc with rfl | rfl
      · exact ⟨by decide, by decide, fun h => absurd h (by decide)⟩
      · exact ⟨by decide, by decide, fun h => absurd h (by decide)⟩
  | @signed sign west hours minutes between _ hsign hbetween hminutes hseconds =>
    refine ⟨sign, _, rfl, ⟨List.suffix_rfl, hsign.not_clockCharacter, fun c hc => ?_⟩, ?_, ?_,
      fun _ => ⟨hours, between, minutes, rfl, Offset.hours_lt_hundred hseconds, hminutes, hbetween⟩⟩
    · rcases List.mem_append.mp hc with hc | hc
      · exact clockCharacter_of_mem_fixed hc
      · rcases List.mem_append.mp hc with hc | hc
        · exact .inr (hbetween c hc)
        · exact clockCharacter_of_mem_fixed hc
    · rintro rfl
      cases hsign
    · rintro rfl
      cases hsign

/-- A text ends in one offset at most. -/
theorem EndsInOffset.unique {cs : List Char} {o o' : Offset} (h : EndsInOffset cs o)
    (h' : EndsInOffset cs o') : o = o' := by
  obtain ⟨text, hsuffix, hwritten⟩ := h
  obtain ⟨text', hsuffix', hwritten'⟩ := h'
  obtain ⟨mark, clock, rfl, hmark, -⟩ := hwritten.exists_lastMark
  obtain ⟨mark', clock', rfl, hmark', -⟩ := hwritten'.exists_lastMark
  obtain ⟨rfl, rfl⟩ := (hmark.of_suffix hsuffix).unique (hmark'.of_suffix hsuffix')
  exact hwritten.unique hwritten'

/-! ### Naive timestamps -/

namespace Layout

variable {l : Layout} {time : TimeOfDay} {cs : List Char}

/-- A clock to the end of the text is all clock, but for the point of a fraction. -/
theorem forall_or_lastMark_of_time (h : l.time cs = some (time, [])) :
    (∀ c ∈ cs, ClockCharacter c) ∨ ∃ ds, LastMark cs '.' ds := by
  obtain ⟨after, htaken, rfl | ⟨ds, rfl, hds⟩⟩ := takesClock_of_time h
  · exact .inl htaken.forall_mem
  · rw [List.append_nil] at htaken
    exact .inr ⟨ds, htaken.suffix, by decide, fun c hc => .inl (hds c hc)⟩

/-- Two numbers with no more than colons and blanks before the second are no clock behind a day: the
hour would end the text or be missing. -/
theorem time_of_separates {between : List Char} (h : Separates between) {n : Nat} (hn : n < 60) :
    l.time (skipBlanks (between ++ fixed 2 n)) = none := by
  induction between with
  | nil =>
    have hskip : skipBlanks (fixed 2 n) = fixed 2 n := by
      have hdigits := Digits.skipBlanks_digits_append (Digits.allDigits_fixed 2 n)
        (Digits.fixed_ne_nil (by decide) n) []
      rwa [List.append_nil] at hdigits
    have hhour : Reading.field 2 (fixed 2 n) = some (n, []) := by
      have hfield := Reading.field_fixed (by omega : n < 100) []
      rwa [List.append_nil] at hfield
    rw [List.nil_append, hskip]
    refine (Reading.step hhour _).trans ?_
    exact Reading.stop rfl _
  | cons c between ih =>
    obtain ⟨hc, hbetween⟩ := List.forall_mem_cons.mp h
    by_cases hblank : isBlank c = true
    · rw [List.cons_append, skipBlanks, List.dropWhile_cons_of_pos hblank]
      exact ih hbetween
    · obtain rfl : c = ':' := hc.resolve_right hblank
      rw [List.cons_append, Text.skipBlanks_cons (by decide)]
      exact l.time_cons (by decide) (by decide) _

end Layout

/-- What stands at the end of a naive timestamp: the letter with a clock, the point of a fraction, a
day and nothing behind it, or a day with a clock. -/
inductive EndsNaive (cs : List Char) : Prop where
  | letter {clock : List Char} (h : LastMark cs 'T' clock)
  | fraction {digits : List Char} (h : LastMark cs '.' digits)
  | day {day : List Char} {n : Nat} (h : LastMark cs '-' day)
      (hday : Reading.field 2 day = some (n, []))
  | clock {day after : List Char} {n : Nat} {l : Layout} {time : TimeOfDay}
      (h : LastMark cs '-' day) (hday : Reading.field 2 day = some (n, after))
      (hclock : l.time (skipBlanks after) = some (time, []))

theorem EndsNaive.not_endsInOffset {cs : List Char} (h : EndsNaive cs) (o : Offset) :
    ¬EndsInOffset cs o := by
  rintro ⟨text, hsuffix, hwritten⟩
  obtain ⟨mark, clock, rfl, hmark, hletter, hpoint, hhyphen⟩ := hwritten.exists_lastMark
  have hlast := hmark.of_suffix hsuffix
  cases h with
  | letter h => exact hletter (hlast.unique h).1
  | fraction h => exact hpoint (hlast.unique h).1
  | day h hday =>
    obtain ⟨rfl, rfl⟩ := hlast.unique h
    obtain ⟨hours, between, minutes, rfl, hhours, -, -⟩ := hhyphen rfl
    rw [Reading.field_fixed hhours] at hday
    have hend := (Prod.mk.inj (Option.some.inj hday)).2
    exact Digits.fixed_ne_nil (by decide) minutes (List.append_eq_nil_iff.mp hend).2
  | clock h hday hclock =>
    obtain ⟨rfl, rfl⟩ := hlast.unique h
    obtain ⟨hours, between, minutes, rfl, hhours, hminutes, hbetween⟩ := hhyphen rfl
    rw [Reading.field_fixed hhours] at hday
    cases hday
    rw [Layout.time_of_separates hbetween hminutes] at hclock
    cases hclock

/-- A text that ends with its day ends naive. -/
theorem Reading.endsNaive_of_date {d : Date} {cs : List Char} (h : date cs = some (d, [])) :
    EndsNaive cs := by
  obtain ⟨day, hsuffix, hday⟩ := exists_of_date h
  exact .day ⟨hsuffix, by decide, (takesClock_of_field hday).forall_mem⟩ hday

theorem Layout.endsNaive_of_timestamp {l : Layout} {t : Timestamp} {cs : List Char}
    (h : l.timestamp cs = some (t, [])) (ht : t.offset = none) : EndsNaive cs := by
  obtain ⟨after, clock, tail, hdate, hmark, htime, hzone⟩ := exists_of_timestamp h
  obtain ⟨day, hsuffix, hday⟩ := Reading.exists_of_date hdate
  have htaken := Reading.takesClock_of_field hday
  have hafter := Reading.suffix_of_date hdate
  obtain rfl : tail = [] := by
    cases hzone with
    | zoned _ ho _ _ => cases ht.symm.trans ho
    | naive _ _ htail => exact htail
  rcases afterMark_eq_some_iff.mp hmark with ⟨-, rfl⟩ | ⟨-, rfl⟩
  · rcases forall_or_lastMark_of_time htime with hall | ⟨ds, hpoint⟩
    · exact .letter ⟨hafter, by decide, hall⟩
    · exact .fraction (hpoint.of_suffix ((List.suffix_cons ..).trans hafter))
  · have hblanks := TakesClock.skipBlanks after
    rcases forall_or_lastMark_of_time htime with hall | ⟨ds, hpoint⟩
    · obtain ⟨taken, htext, hclock⟩ := htaken.trans hblanks
      refine .clock ⟨hsuffix, by decide, ?_⟩ hday htime
      rw [htext]
      exact List.forall_mem_append.mpr ⟨hclock, hall⟩
    · exact .fraction (hpoint.of_suffix (hblanks.suffix.trans hafter))

/-! ### Zoned timestamps -/

theorem Layout.endsInOffset_of_timestamp {l : Layout} {t : Timestamp} {cs : List Char} {o : Offset}
    (h : l.timestamp cs = some (t, [])) (ht : t.offset = some o) : EndsInOffset cs o := by
  obtain ⟨after, clock, tail, hdate, hmark, htime, hzone⟩ := exists_of_timestamp h
  have htail : tail <:+ cs :=
    (suffix_of_time htime).trans ((suffix_of_afterMark hmark).trans (Reading.suffix_of_date hdate))
  cases hzone with
  | zoned _ ho hoffset _ =>
    obtain rfl := Option.some.inj (ht.symm.trans ho)
    exact ⟨skipBlanks tail, (List.dropWhile_suffix isBlank).trans htail, written_of_offset hoffset⟩
  | naive _ ho _ => cases ht.symm.trans ho

theorem Reading.endsInOffset_of_strictTimestamp {t : Timestamp} {cs : List Char}
    (h : strictTimestamp cs = some (t, [])) : ∃ o, t.offset = some o ∧ EndsInOffset cs o := by
  obtain ⟨mark, clock, tail, o, hdate, -, -, htime, hoffset, ho⟩ := exists_of_strictTimestamp h
  have htail : tail <:+ cs :=
    (Layout.suffix_of_time (htime ⟨true, true, true⟩ rfl)).trans
      ((List.suffix_cons ..).trans (suffix_of_date hdate))
  exact ⟨o, ho, tail, htail, written_of_strictOffset hoffset⟩

/-! ### The zone of a timestamp -/

namespace Form

variable {f : Form} {cs : List Char} {t : Timestamp}

theorem endsNaive (h : f.read? cs = some t) (ht : t.offset = none) : EndsNaive cs := by
  cases f with
  | strict =>
    obtain ⟨o, ho, -⟩ :=
      Reading.endsInOffset_of_strictTimestamp ((Reading.complete_eq_some_iff ..).mp h)
    rw [ht] at ho
    cases ho
  | loose l => exact Layout.endsNaive_of_timestamp ((Reading.complete_eq_some_iff ..).mp h) ht
  | day =>
    obtain ⟨d, hd, -⟩ := date_of_day h
    exact Reading.endsNaive_of_date hd

theorem endsInOffset {o : Offset} (h : f.read? cs = some t) (ht : t.offset = some o) :
    EndsInOffset cs o := by
  cases f with
  | strict =>
    obtain ⟨o', ho', hends⟩ :=
      Reading.endsInOffset_of_strictTimestamp ((Reading.complete_eq_some_iff ..).mp h)
    obtain rfl : o = o' := Option.some.inj (ht.symm.trans ho')
    exact hends
  | loose l => exact Layout.endsInOffset_of_timestamp ((Reading.complete_eq_some_iff ..).mp h) ht
  | day =>
    obtain ⟨d, -, rfl⟩ := date_of_day h
    cases ht

end Form

/-- **A timestamp has the offset that its text ends in, and none when it ends in none.** -/
theorem Timestamp.offset_eq_some_iff {cs : List Char} {t : Timestamp} (h : read? cs = some t)
    (o : Offset) : t.offset = some o ↔ EndsInOffset cs o := by
  obtain ⟨f, hf⟩ := read?_eq_some_iff.mp h
  constructor
  · exact Form.endsInOffset hf
  · intro hends
    cases ht : t.offset with
    | none => exact absurd hends ((Form.endsNaive hf ht).not_endsInOffset o)
    | some own => rw [(Form.endsInOffset hf ht).unique hends]

end DocumentFilter
