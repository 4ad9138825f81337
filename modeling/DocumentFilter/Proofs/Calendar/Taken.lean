import DocumentFilter.Proofs.Calendar.ReadBack
import DocumentFilter.Proofs.Number.DigitRuns

/-! What the readers of dates and times take off a text.

A reader that gives something has found its fields one after the other, so the text is put
together from them and the rest. A field of full width is the number in that width, which makes the
readers of full fields a special case of those of short ones. A field and a clock consist of digits,
blanks and colons; only a fraction brings a point. -/
namespace DocumentFilter

open Digits (AllDigits digit? fixed number?_eq_some_iff)
open Text (isBlank skipBlanks)

theorem Text.skipBlanks_cons {c : Char} (h : isBlank c = false) (cs : List Char) :
    skipBlanks (c :: cs) = c :: cs :=
  List.dropWhile_cons_of_neg (by rw [h]; exact Bool.false_ne_true)

namespace Reading

/-- A reader that gives something went on from what its first part gave. -/
theorem exists_step {α β : Type} {read : Option (α × List Char)}
    {next : α × List Char → Option β} {b : β} (h : (read >>= next) = some b) :
    ∃ a rest, read = some (a, rest) ∧ next (a, rest) = some b := by
  obtain ⟨⟨a, rest⟩, hread, hnext⟩ := Option.bind_eq_some_iff.mp h
  exact ⟨a, rest, hread, hnext⟩

theorem character_eq_some_iff {c : Char} {cs rest : List Char} :
    character c cs = some ((), rest) ↔ cs = c :: rest := by
  constructor
  · intro h
    cases cs with
    | nil => cases h
    | cons x xs =>
      simp only [character] at h
      split at h
      · next hx =>
        cases h
        rw [hx]
      · cases h
  · rintro rfl
    exact character_cons c rest

/-! ### Full fields -/

theorem exactly_eq_some_iff {width n : Nat} {cs rest : List Char} (hwidth : 0 < width) :
    exactly width cs = some (n, rest) ↔ cs = fixed width n ++ rest ∧ n < Nat.pow 10 width := by
  constructor
  · intro h
    simp only [exactly] at h
    split at h
    · next hlength =>
      obtain ⟨m, hm, hmn⟩ := Option.map_eq_some_iff.mp h
      cases hmn
      have hrun := number?_eq_some_iff.mp hm
      have hfixed := hrun.eq_fixed
      have hlt := hrun.lt
      rw [hlength] at hfixed hlt
      refine ⟨?_, hlt⟩
      rw [← hfixed, List.take_append_drop]
    · cases h
  · rintro ⟨rfl, hn⟩
    exact exactly_fixed hwidth hn rest

/-- A full field is a short one as well. -/
theorem field_of_exactly {cs rest : List Char} {n : Nat} (h : exactly 2 cs = some (n, rest)) :
    field 2 cs = some (n, rest) := by
  obtain ⟨rfl, hn⟩ := (exactly_eq_some_iff (by decide)).mp h
  exact field_fixed hn rest

theorem year_of_exactly {cs rest : List Char} {n : Nat} (h : exactly 4 cs = some (n, rest)) :
    year cs = some ((n : Int), rest) := by
  obtain ⟨rfl, hn⟩ := (exactly_eq_some_iff (by decide)).mp h
  exact year_fixed hn rest

theorem skipBlanks_of_exactly {cs rest : List Char} {n : Nat} (h : exactly 2 cs = some (n, rest)) :
    skipBlanks cs = cs := by
  obtain ⟨rfl, hn⟩ := (exactly_eq_some_iff (by decide)).mp h
  exact Digits.skipBlanks_digits_append (Digits.allDigits_fixed 2 n)
    (Digits.fixed_ne_nil (by decide) n) rest

/-! ### Short fields -/

/-- A character of a clock without a fraction: a digit, a colon or a blank. -/
def ClockCharacter (c : Char) : Prop := (digit? c).isSome = true ∨ c = ':' ∨ isBlank c = true

instance : DecidablePred ClockCharacter := fun _ => inferInstanceAs (Decidable (_ ∨ _ ∨ _))

/-- Only characters of a clock stand before the rest. -/
def TakesClock (cs rest : List Char) : Prop :=
  ∃ taken, cs = taken ++ rest ∧ ∀ c ∈ taken, ClockCharacter c

namespace TakesClock

variable {cs rest end' : List Char}

theorem suffix (h : TakesClock cs rest) : rest <:+ cs := by
  obtain ⟨taken, rfl, -⟩ := h
  exact List.suffix_append taken rest

theorem trans (h : TakesClock cs rest) (h' : TakesClock rest end') : TakesClock cs end' := by
  obtain ⟨taken, rfl, htaken⟩ := h
  obtain ⟨taken', rfl, htaken'⟩ := h'
  exact ⟨taken ++ taken', (List.append_assoc ..).symm, List.forall_mem_append.mpr ⟨htaken, htaken'⟩⟩

theorem colon (rest : List Char) : TakesClock (':' :: rest) rest :=
  ⟨[':'], rfl, List.forall_mem_singleton.mpr (.inr (.inl rfl))⟩

theorem skipBlanks (cs : List Char) : TakesClock cs (skipBlanks cs) := by
  refine ⟨cs.takeWhile isBlank, List.takeWhile_append_dropWhile.symm, fun c hc => ?_⟩
  exact .inr (.inr (List.all_eq_true.mp List.all_takeWhile c hc))

/-- Before the end of a text there is nothing but clock. -/
theorem forall_mem (h : TakesClock cs []) : ∀ c ∈ cs, ClockCharacter c := by
  obtain ⟨taken, rfl, htaken⟩ := h
  rwa [List.append_nil]

end TakesClock

theorem exists_digits_append {most n : Nat} {cs rest : List Char}
    (h : digits most cs = some (n, rest)) : ∃ ds, cs = ds ++ rest ∧ AllDigits ds := by
  simp only [digits] at h
  obtain ⟨m, -, hm⟩ := Option.map_eq_some_iff.mp h
  have hprefix :=
    (List.takeWhile_prefix fun c => (digit? c).isSome).trans (List.take_prefix most cs)
  refine ⟨(cs.take most).takeWhile fun c => (digit? c).isSome, ?_,
    fun c hc => List.all_eq_true.mp List.all_takeWhile c hc⟩
  rw [← (Prod.mk.inj hm).2]
  exact List.prefix_iff_eq_append.mp hprefix |>.symm

theorem takesClock_of_digits {most n : Nat} {cs rest : List Char}
    (h : digits most cs = some (n, rest)) : TakesClock cs rest := by
  obtain ⟨ds, rfl, hds⟩ := exists_digits_append h
  exact ⟨ds, rfl, fun c hc => .inl (hds c hc)⟩

theorem takesClock_of_field {most n : Nat} {cs rest : List Char}
    (h : field most cs = some (n, rest)) : TakesClock cs rest :=
  (TakesClock.skipBlanks cs).trans (takesClock_of_digits h)

theorem suffix_of_year {y : Int} {cs rest : List Char} (h : year cs = some (y, rest)) :
    rest <:+ cs := by
  have hskip : skipBlanks cs <:+ cs := List.dropWhile_suffix isBlank
  unfold year at h
  split at h
  · next tail hcs =>
    obtain ⟨⟨n, rest'⟩, hdigits, hrest⟩ := Option.map_eq_some_iff.mp h
    cases hrest
    rw [hcs] at hskip
    exact ((takesClock_of_digits hdigits).suffix.trans (List.suffix_cons ..)).trans hskip
  · next tail hcs =>
    obtain ⟨⟨n, rest'⟩, hdigits, hrest⟩ := Option.map_eq_some_iff.mp h
    cases hrest
    rw [hcs] at hskip
    exact ((takesClock_of_digits hdigits).suffix.trans (List.suffix_cons ..)).trans hskip
  · obtain ⟨⟨n, rest'⟩, hdigits, hrest⟩ := Option.map_eq_some_iff.mp h
    cases hrest
    exact (takesClock_of_digits hdigits).suffix.trans hskip

/-! ### Days -/

/-- The day of the month stands behind the second hyphen. -/
theorem exists_of_date {d : Date} {cs rest : List Char} (h : date cs = some (d, rest)) :
    ∃ day, '-' :: day <:+ cs ∧ field 2 day = some (d.day, rest) := by
  obtain ⟨year, cs₁, hyear, h⟩ := exists_step h
  obtain ⟨⟨⟩, cs₂, hhyphen, h⟩ := exists_step h
  obtain ⟨month, cs₃, hmonth, h⟩ := exists_step h
  obtain ⟨⟨⟩, cs₄, hhyphen', h⟩ := exists_step h
  obtain ⟨day, cs₅, hday, h⟩ := exists_step h
  obtain ⟨found, hfound, hd⟩ := Option.bind_eq_some_iff.mp h
  cases hd
  have hcs₁ : '-' :: cs₂ <:+ cs := character_eq_some_iff.mp hhyphen ▸ suffix_of_year hyear
  have hcs₃ : '-' :: cs₄ <:+ cs₂ :=
    character_eq_some_iff.mp hhyphen' ▸ (takesClock_of_field hmonth).suffix
  refine ⟨cs₄, hcs₃.trans ((List.suffix_cons ..).trans hcs₁), ?_⟩
  have hdayOf : d.day = day := by
    unfold Date.ofParts? at hfound
    split at hfound
    · cases hfound
      rfl
    · cases hfound
  rw [hdayOf, hday]

theorem suffix_of_date {d : Date} {cs rest : List Char} (h : date cs = some (d, rest)) :
    rest <:+ cs := by
  obtain ⟨day, hsuffix, hday⟩ := exists_of_date h
  exact (takesClock_of_field hday).suffix.trans ((List.suffix_cons ..).trans hsuffix)

/-! ### Clocks -/

/-- Hours and minutes, with which every clock starts. -/
def hourMinute : Reading (Nat × Nat) := fun cs => do
  let (hour, cs) ← field 2 cs
  let (_, cs) ← character ':' cs
  let (minute, cs) ← field 2 cs
  return ((hour, minute), cs)

theorem takesClock_of_hourMinute {clock : Nat × Nat} {cs rest : List Char}
    (h : hourMinute cs = some (clock, rest)) : TakesClock cs rest := by
  obtain ⟨hour, cs₁, hhour, h⟩ := exists_step h
  obtain ⟨⟨⟩, cs₂, hcolon, h⟩ := exists_step h
  obtain ⟨minute, cs₃, hminute, h⟩ := exists_step h
  cases h
  have hcs₁ : TakesClock cs₁ cs₂ := character_eq_some_iff.mp hcolon ▸ .colon cs₂
  exact (takesClock_of_field hhour).trans (hcs₁.trans (takesClock_of_field hminute))

/-- A fraction is nothing, or a point and digits. -/
theorem exists_of_fraction {n : Nat} {cs rest : List Char} (h : fraction cs = some (n, rest)) :
    cs = rest ∨ ∃ ds, cs = '.' :: (ds ++ rest) ∧ AllDigits ds := by
  unfold fraction at h
  split at h
  · next tail =>
    obtain ⟨m, -, hm⟩ := Option.map_eq_some_iff.mp h
    refine .inr ⟨tail.takeWhile fun c => (digit? c).isSome, ?_,
      fun c hc => List.all_eq_true.mp List.all_takeWhile c hc⟩
    rw [← (Prod.mk.inj hm).2]
    exact congrArg (List.cons '.')
      (List.prefix_iff_eq_append.mp (List.takeWhile_prefix fun c => (digit? c).isSome)).symm
  · cases h
    exact .inl rfl

end Reading

/-! ### Layouts -/

namespace Layout

open Reading

/-- A clock has seconds where its layout has them, and ends with the minutes where it has not. -/
theorem exists_of_time {l : Layout} {t : TimeOfDay} {cs rest : List Char}
    (h : l.time cs = some (t, rest)) :
    ∃ clock after, hourMinute cs = some (clock, after) ∧
      ((l.seconds = true ∧ ∃ afterColon second afterSecond nanosecond, after = ':' :: afterColon ∧
          field 2 afterColon = some (second, afterSecond) ∧
            fraction afterSecond = some (nanosecond, rest)) ∨
        (l.seconds = false ∧ after = rest)) := by
  obtain ⟨hour, cs₁, hhour, h⟩ := exists_step h
  obtain ⟨⟨⟩, cs₂, hcolon, h⟩ := exists_step h
  obtain ⟨minute, cs₃, hminute, h⟩ := exists_step h
  have hclock : hourMinute cs = some ((hour, minute), cs₃) := by
    refine (step hhour _).trans ?_
    refine (step hcolon _).trans ?_
    exact step hminute _
  refine ⟨_, cs₃, hclock, ?_⟩
  cases hseconds : l.seconds with
  | true =>
    simp only [hseconds, if_true] at h
    obtain ⟨⟨⟩, cs₄, hcolon', h⟩ := exists_step h
    obtain ⟨second, cs₅, hsecond, h⟩ := exists_step h
    obtain ⟨nanosecond, cs₆, hfraction, h⟩ := exists_step h
    obtain ⟨found, -, ht⟩ := Option.bind_eq_some_iff.mp h
    cases ht
    exact .inl
      ⟨rfl, cs₄, second, cs₅, nanosecond, character_eq_some_iff.mp hcolon', hsecond, hfraction⟩
  | false =>
    simp only [hseconds, Bool.false_eq_true, if_false] at h
    obtain ⟨found, -, ht⟩ := Option.bind_eq_some_iff.mp h
    cases ht
    exact .inr ⟨rfl, rfl⟩

/-- A clock starts with a digit or a blank. -/
theorem time_cons (l : Layout) {c : Char} (hdigit : digit? c = none) (hblank : isBlank c = false)
    (cs : List Char) : l.time (c :: cs) = none := by
  have hhour : field 2 (c :: cs) = none := by
    rw [field, Text.skipBlanks_cons hblank]
    exact digits_of_noDigitFirst (Digits.noDigitFirst_cons hdigit cs) 2
  exact stop hhour _

/-- All of a clock but its fraction consists of clock characters. -/
theorem takesClock_of_time {l : Layout} {t : TimeOfDay} {cs rest : List Char}
    (h : l.time cs = some (t, rest)) :
    ∃ after, TakesClock cs after ∧
      (after = rest ∨ ∃ ds, after = '.' :: (ds ++ rest) ∧ AllDigits ds) := by
  obtain ⟨clock, after, hminutes, hseconds⟩ := exists_of_time h
  have htaken := takesClock_of_hourMinute hminutes
  rcases hseconds with
    ⟨-, afterColon, second, afterSecond, nanosecond, rfl, hsecond, hfraction⟩ | hend
  · exact ⟨afterSecond, htaken.trans ((TakesClock.colon _).trans (takesClock_of_field hsecond)),
      exists_of_fraction hfraction⟩
  · exact ⟨after, htaken, .inl hend.2⟩

theorem suffix_of_time {l : Layout} {t : TimeOfDay} {cs rest : List Char}
    (h : l.time cs = some (t, rest)) : rest <:+ cs := by
  obtain ⟨after, htaken, rfl | ⟨ds, rfl, -⟩⟩ := takesClock_of_time h
  · exact htaken.suffix
  · exact ((List.suffix_append ds rest).trans (List.suffix_cons ..)).trans htaken.suffix

/-- What stands between day and clock, the letter or blanks, is passed over. -/
def afterMark (l : Layout) (cs : List Char) : Option (List Char) :=
  if l.letter then (character 'T' cs).map (·.2) else some (skipBlanks cs)

theorem afterMark_eq_some_iff {l : Layout} {cs clock : List Char} :
    l.afterMark cs = some clock ↔
      (l.letter = true ∧ cs = 'T' :: clock) ∨ (l.letter = false ∧ skipBlanks cs = clock) := by
  unfold afterMark
  cases l.letter with
  | true =>
    rw [if_pos rfl, Option.map_eq_some_iff]
    constructor
    · rintro ⟨⟨⟨⟩, rest⟩, hcharacter, rfl⟩
      exact .inl ⟨rfl, character_eq_some_iff.mp hcharacter⟩
    · rintro (⟨-, rfl⟩ | ⟨⟨⟩, -⟩)
      exact ⟨((), clock), character_cons .., rfl⟩
  | false =>
    rw [if_neg Bool.false_ne_true, Option.some.injEq]
    exact ⟨fun h => .inr ⟨rfl, h⟩, fun h => (h.resolve_left nofun).2⟩

theorem suffix_of_afterMark {l : Layout} {cs clock : List Char}
    (h : l.afterMark cs = some clock) : clock <:+ cs := by
  rcases afterMark_eq_some_iff.mp h with ⟨-, rfl⟩ | ⟨-, rfl⟩
  · exact List.suffix_cons ..
  · exact List.dropWhile_suffix isBlank

/-- What a layout reads from the clock on. -/
def fromClock (l : Layout) (day : Date) : Reading Timestamp := fun cs => do
  let (time, cs) ← l.time cs
  if l.zoned then
    let (offset, cs) ← offset cs
    let t : Timestamp := ⟨⟨day, time⟩, some offset⟩
    let _ ← t.instant?
    return (t, cs)
  else return (⟨⟨day, time⟩, none⟩, cs)

theorem timestamp_eq (l : Layout) (cs : List Char) :
    l.timestamp cs = (date cs).bind fun read =>
      (l.afterMark read.2).bind fun clock => l.fromClock read.1 clock := by
  unfold timestamp afterMark
  refine congrArg (Option.bind (date cs)) (funext fun read => ?_)
  cases l.letter with
  | true => rfl
  | false => rfl

/-- The text from the end of the clock on is the zone of the timestamp: an offset with an instant to
it in a layout with a zone, and nothing in one without. -/
inductive EndsInZone (l : Layout) (t : Timestamp) (tail : List Char) : Prop where
  | zoned {o : Offset} (hl : l.zoned = true) (ho : t.offset = some o)
      (hoffset : Layout.offset tail = some (o, [])) (hinstant : t.instant?.isSome = true)
  | naive (hl : l.zoned = false) (ho : t.offset = none) (htail : tail = [])

/-- A timestamp is a day, a mark, a clock and a zone, each read from where the one before ended. -/
theorem exists_of_timestamp {l : Layout} {t : Timestamp} {cs : List Char}
    (h : l.timestamp cs = some (t, [])) :
    ∃ afterDay clock tail, date cs = some (t.wall.date, afterDay) ∧
      l.afterMark afterDay = some clock ∧ l.time clock = some (t.wall.time, tail) ∧
        l.EndsInZone t tail := by
  rw [timestamp_eq] at h
  obtain ⟨⟨day, afterDay⟩, hday, h⟩ := Option.bind_eq_some_iff.mp h
  obtain ⟨clock, hmark, h⟩ := Option.bind_eq_some_iff.mp h
  obtain ⟨time, tail, htime, h⟩ := exists_step h
  cases hzoned : l.zoned with
  | true =>
    simp only [hzoned, if_true] at h
    obtain ⟨o, rest, hoffset, h⟩ := exists_step h
    obtain ⟨u, hinstant, h⟩ := Option.bind_eq_some_iff.mp h
    cases h
    exact ⟨afterDay, clock, tail, hday, hmark, htime,
      .zoned hzoned rfl hoffset (Option.isSome_of_eq_some hinstant)⟩
  | false =>
    simp only [hzoned, Bool.false_eq_true, if_false] at h
    cases h
    exact ⟨afterDay, clock, [], hday, hmark, htime, .naive hzoned rfl rfl⟩

end Layout

/-! ### The strict form -/

/-- The characters that the strict form has between day and clock. -/
def StrictMark (c : Char) : Prop := c = 'T' ∨ c = 't' ∨ c = ' '

namespace Reading

theorem exists_of_mark {cs rest : List Char}
    (h : (character 'T' cs <|> character 't' cs <|> character ' ' cs) = some ((), rest)) :
    ∃ mark, StrictMark mark ∧ cs = mark :: rest := by
  rcases (Option.orElse_eq_some ..).mp h with h | ⟨-, h⟩
  · exact ⟨'T', .inl rfl, character_eq_some_iff.mp h⟩
  · rcases (Option.orElse_eq_some ..).mp h with h | ⟨-, h⟩
    · exact ⟨'t', .inr (.inl rfl), character_eq_some_iff.mp h⟩
    · exact ⟨' ', .inr (.inr rfl), character_eq_some_iff.mp h⟩

/-- What the strict form reads as day and clock, the loose readers read as the same. -/
theorem exists_of_strictTimestamp {t : Timestamp} {cs rest : List Char}
    (h : strictTimestamp cs = some (t, rest)) :
    ∃ mark clock tail o, date cs = some (t.wall.date, mark :: clock) ∧ StrictMark mark ∧
      skipBlanks clock = clock ∧
      (∀ l : Layout, l.seconds = true → l.time clock = some (t.wall.time, tail)) ∧
      strictOffset tail = some (o, rest) ∧ t.offset = some o := by
  obtain ⟨year, cs₁, hyear, h⟩ := exists_step h
  obtain ⟨⟨⟩, cs₂, hhyphen, h⟩ := exists_step h
  obtain ⟨month, cs₃, hmonth, h⟩ := exists_step h
  obtain ⟨⟨⟩, cs₄, hhyphen', h⟩ := exists_step h
  obtain ⟨day, cs₅, hday, h⟩ := exists_step h
  obtain ⟨⟨⟩, clock, hmark, h⟩ := exists_step h
  obtain ⟨hour, cs₆, hhour, h⟩ := exists_step h
  obtain ⟨⟨⟩, cs₇, hcolon, h⟩ := exists_step h
  obtain ⟨minute, cs₈, hminute, h⟩ := exists_step h
  obtain ⟨⟨⟩, cs₉, hcolon', h⟩ := exists_step h
  obtain ⟨second, cs₁₀, hsecond, h⟩ := exists_step h
  obtain ⟨nanosecond, tail, hfraction, h⟩ := exists_step h
  obtain ⟨o, end', hoffset, h⟩ := exists_step h
  obtain ⟨foundDate, hdate, h⟩ := Option.bind_eq_some_iff.mp h
  obtain ⟨foundTime, htime, h⟩ := Option.bind_eq_some_iff.mp h
  cases h
  obtain ⟨mark, hstrict, rfl⟩ := exists_of_mark hmark
  refine ⟨mark, clock, tail, o, ?_, hstrict, skipBlanks_of_exactly hhour, ?_, hoffset, rfl⟩
  · refine (step (year_of_exactly hyear) _).trans ?_
    refine (step hhyphen _).trans ?_
    refine (step (field_of_exactly hmonth) _).trans ?_
    refine (step hhyphen' _).trans ?_
    refine (step (field_of_exactly hday) _).trans ?_
    exact step hdate _
  · intro l hl
    refine (step (field_of_exactly hhour) _).trans ?_
    refine (step hcolon _).trans ?_
    refine (step (field_of_exactly hminute) _).trans ?_
    refine (if_pos hl).trans ?_
    refine (step hcolon' _).trans ?_
    refine (step (field_of_exactly hsecond) _).trans ?_
    refine (step hfraction _).trans ?_
    exact step htime _

end Reading

end DocumentFilter
