import DocumentFilter.Calendar.Layout
import DocumentFilter.Calendar.Written
import DocumentFilter.Proofs.Number.Digits

/-! Fields of dates and times that were written are read back.

Each statement is about a field as it is written with any text after it, as far as that text
cannot be taken for more of the field; the reader gives the value and leaves the text. A field of
two digits fills its reader, so anything may follow it; a signed year and a fraction take all the
digits there are, so no digit may. -/
namespace DocumentFilter

open Digits (AllDigits NoDigitFirst allDigits_fixed digit? dropWhile_digits_append
  exists_padded_eq_fixed fixed fixed_ne_nil isBlank_of_digit? length_fixed ne_of_digit?
  noDigitFirst_cons noDigitFirst_nil number? number?_fixed padded skipBlanks_digits_append
  takeWhile_digits_append)
open Text (skipBlanks)

theorem Digits.NoDigitFirst.take {cs : List Char} (h : NoDigitFirst cs) (count : Nat) :
    NoDigitFirst (cs.take count) := by
  cases cs with
  | nil => rw [List.take_nil]; exact h
  | cons c rest =>
    cases count with
    | zero => exact noDigitFirst_nil
    | succ count => exact noDigitFirst_cons (h c rfl) _

/-! ### Numbers -/

namespace Reading

/-- A reader goes on with what was read. -/
theorem step {α β : Type} {read : Option α} {a : α} (h : read = some a) (next : α → Option β) :
    (read >>= next) = next a := by
  rw [h]
  rfl

/-- A reader gives up where a part of it does. -/
theorem stop {α β : Type} {read : Option α} (h : read = none) (next : α → Option β) :
    (read >>= next) = none := by
  rw [h]
  rfl

theorem character_cons (c : Char) (rest : List Char) :
    character c (c :: rest) = some ((), rest) :=
  if_pos rfl

theorem digits_append {ds rest : List Char} {most n : Nat} (hds : AllDigits ds)
    (hmost : ds.length ≤ most) (hn : number? ds = some n)
    (hrest : ds.length = most ∨ NoDigitFirst rest) :
    digits most (ds ++ rest) = some (n, rest) := by
  have hrun : (((ds ++ rest).take most).takeWhile fun c => (digit? c).isSome) = ds := by
    rw [List.take_append, List.take_of_length_le hmost]
    refine takeWhile_digits_append hds ?_
    rcases hrest with hfull | hstop
    · rw [hfull, Nat.sub_self, List.take_zero]
      exact noDigitFirst_nil
    · exact hstop.take _
  simp only [digits, hrun, hn, Option.map_some, List.drop_left]

theorem exactly_fixed {width n : Nat} (hwidth : 0 < width) (hn : n < Nat.pow 10 width)
    (rest : List Char) : exactly width (fixed width n ++ rest) = some (n, rest) := by
  have htake : (fixed width n ++ rest).take width = fixed width n :=
    List.take_left' (length_fixed width n)
  have hdrop : (fixed width n ++ rest).drop width = rest :=
    List.drop_left' (length_fixed width n)
  simp only [exactly, htake, length_fixed, if_true, number?_fixed hwidth hn, Option.map_some, hdrop]

theorem field_fixed {n : Nat} (hn : n < 100) (rest : List Char) :
    field 2 (fixed 2 n ++ rest) = some (n, rest) := by
  have hds := allDigits_fixed 2 n
  rw [field, skipBlanks_digits_append hds (fixed_ne_nil (by decide) n)]
  exact digits_append hds (Nat.le_of_eq (length_fixed 2 n)) (number?_fixed (by decide) hn)
    (.inl (length_fixed 2 n))

/-! ### Years -/

theorem year_digits {c : Char} (cs : List Char) (hblank : Text.isBlank c = false)
    (hminus : c ≠ '-') (hplus : c ≠ '+') :
    year (c :: cs) = (digits 4 (c :: cs)).map fun (n, rest) => ((n : Int), rest) := by
  have hskip : skipBlanks (c :: cs) = c :: cs :=
    List.dropWhile_cons_of_neg (by rw [hblank]; exact Bool.false_ne_true)
  unfold year
  rw [hskip]
  split
  · next h => exact absurd (List.cons.inj h).1 hminus
  · next h => exact absurd (List.cons.inj h).1 hplus
  · rfl

theorem digits_padded (n : Nat) {rest : List Char} (hrest : NoDigitFirst rest) :
    digits (padded 4 n ++ rest).length (padded 4 n ++ rest) = some (n, rest) := by
  obtain ⟨width, hwidth, hn, hpadded⟩ := exists_padded_eq_fixed (by decide : 0 < 4) n
  rw [hpadded]
  refine digits_append (allDigits_fixed width n) ?_ (number?_fixed hwidth hn) (.inr hrest)
  rw [List.length_append]
  exact Nat.le_add_right ..

theorem year_minus (rest : List Char) :
    year ('-' :: rest) = (digits rest.length rest).map fun (n, rest) => (-(n : Int), rest) := rfl

theorem year_plus (rest : List Char) :
    year ('+' :: rest) = (digits rest.length rest).map fun (n, rest) => ((n : Int), rest) := rfl

/-- The first of four digits is no blank and no sign, so the year is read without one. -/
theorem year_fixed {n : Nat} (hn : n < 10000) (rest : List Char) :
    year (fixed 4 n ++ rest) = some ((n : Int), rest) := by
  have hdigits : digits 4 (fixed 4 n ++ rest) = some (n, rest) :=
    digits_append (allDigits_fixed 4 n) (Nat.le_of_eq (length_fixed 4 n))
      (number?_fixed (by decide) hn) (.inl (length_fixed 4 n))
  obtain ⟨c, d, tail, hcons, hc⟩ :=
    (allDigits_fixed 4 n).exists_eq_cons (fixed_ne_nil (by decide) n)
  rw [hcons, List.cons_append] at hdigits ⊢
  rw [year_digits _ (isBlank_of_digit? hc) (ne_of_digit? hc (by decide))
    (ne_of_digit? hc (by decide)), hdigits]
  rfl

theorem year_yearText (y : Int) {rest : List Char} (hrest : NoDigitFirst rest) :
    year (yearText y ++ rest) = some (y, rest) := by
  unfold yearText
  split
  · next hy =>
    rw [year_fixed (by omega), Int.toNat_of_nonneg hy.1]
  · next hy =>
    -- behind a sign all the digits there are belong to the year, however many it was padded to
    split
    · next hneg =>
      rw [List.cons_append, year_minus, digits_padded _ hrest]
      simp only [Option.map_some, Option.some.injEq, Prod.mk.injEq, and_true]
      omega
    · next hpos =>
      rw [List.cons_append, year_plus, digits_padded _ hrest]
      simp only [Option.map_some, Option.some.injEq, Prod.mk.injEq, and_true]
      omega

end Reading

/-! ### Dates -/

theorem daysInMonth_le (year : Int) (month : Nat) : daysInMonth year month ≤ 31 := by
  unfold daysInMonth
  repeat' split
  all_goals decide

theorem daysInMonth_eq_zero (year : Int) {month : Nat} (h : 12 < month) :
    daysInMonth year month = 0 := by
  unfold daysInMonth
  split <;> omega

namespace Date

theorem day_lt (d : Date) : d.day < 100 :=
  Nat.lt_of_le_of_lt (Nat.le_trans d.day_mem.2 (daysInMonth_le ..)) (by decide)

theorem month_lt (d : Date) : d.month < 100 := by
  have hday := d.day_mem
  by_cases h : 12 < d.month
  · rw [daysInMonth_eq_zero _ h] at hday
    omega
  · omega

theorem text_append (d : Date) (rest : List Char) :
    d.text ++ rest =
      yearText d.year ++ '-' :: (fixed 2 d.month ++ '-' :: (fixed 2 d.day ++ rest)) := by
  simp only [text, List.append_assoc, List.cons_append]

end Date

theorem Reading.date_text (d : Date) (rest : List Char) :
    Reading.date (d.text ++ rest) = some (d, rest) := by
  have hminus : digit? '-' = none := by decide
  rw [d.text_append]
  refine (step (year_yearText d.year (noDigitFirst_cons hminus _)) _).trans ?_
  refine (step (character_cons ..) _).trans ?_
  refine (step (field_fixed d.month_lt _) _).trans ?_
  refine (step (character_cons ..) _).trans ?_
  refine (step (field_fixed d.day_lt _) _).trans ?_
  exact step d.ofParts?_self _

/-! ### The time of day -/

namespace Reading

theorem fraction_digits {ds rest : List Char} {n : Nat} (hds : AllDigits ds)
    (hlength : ds.length ≤ 9) (hn : number? ds = some n) (hrest : NoDigitFirst rest) :
    fraction ('.' :: (ds ++ rest)) = some (n * Nat.pow 10 (9 - ds.length), rest) := by
  simp only [fraction, takeWhile_digits_append hds hrest, List.take_of_length_le hlength, hn,
    Option.map_some, List.drop_left]

theorem fraction_fixed {width n : Nat} (hwidth : 0 < width) (hle : width ≤ 9)
    (hn : n < Nat.pow 10 width) {rest : List Char} (hrest : NoDigitFirst rest) :
    fraction ('.' :: (fixed width n ++ rest)) = some (n * Nat.pow 10 (9 - width), rest) := by
  have hlength := length_fixed width n
  rw [fraction_digits (allDigits_fixed width n) (by omega) (number?_fixed hwidth hn) hrest, hlength]

/-- A fraction ends before this text: it goes on with neither a digit nor a point. -/
def EndsFraction (cs : List Char) : Prop := ∀ c ∈ cs.head?, digit? c = none ∧ c ≠ '.'

theorem endsFraction_nil : EndsFraction [] := nofun

theorem endsFraction_cons {c : Char} (hdigit : digit? c = none) (hpoint : c ≠ '.')
    (rest : List Char) : EndsFraction (c :: rest) := by
  rintro _ ⟨⟩
  exact ⟨hdigit, hpoint⟩

theorem EndsFraction.noDigitFirst {cs : List Char} (h : EndsFraction cs) : NoDigitFirst cs :=
  fun c hc => (h c hc).1

theorem fraction_of_endsFraction {cs : List Char} (h : EndsFraction cs) :
    fraction cs = some (0, cs) := by
  unfold fraction
  split
  · exact absurd rfl (h '.' rfl).2
  · rfl

/-- The digits that the writer leaves out are zeros, and the reader puts them back. -/
theorem fraction_unit (width unit : Nat) {n : Nat} (hwidth : 0 < width) (hle : width ≤ 9)
    (hunit : Nat.pow 10 (9 - width) = unit) (hsecond : unit * Nat.pow 10 width = 1000000000)
    (hn : n < 1000000000) (hzeros : n % unit = 0) {rest : List Char} (hrest : EndsFraction rest) :
    fraction ('.' :: fixed width (n / unit) ++ rest) = some (n, rest) := by
  have hlt : n / unit < Nat.pow 10 width := Nat.div_lt_of_lt_mul (by rwa [hsecond])
  rw [List.cons_append, fraction_fixed hwidth hle hlt hrest.noDigitFirst, hunit,
    Nat.div_mul_cancel (Nat.dvd_of_mod_eq_zero hzeros)]

theorem fraction_fractionText {n : Nat} (hn : n < 1000000000) {rest : List Char}
    (hrest : EndsFraction rest) : fraction (fractionText n ++ rest) = some (n, rest) := by
  unfold fractionText
  repeat' split
  · next h =>
    rw [List.nil_append, fraction_of_endsFraction hrest, h]
  · next h =>
    exact fraction_unit 3 1000000 (by decide) (by decide) rfl rfl hn h hrest
  · next h =>
    exact fraction_unit 6 1000 (by decide) (by decide) rfl rfl hn h hrest
  · have hnine := fraction_unit 9 1 (by decide) (by decide) rfl rfl hn (Nat.mod_one n) hrest
    rwa [Nat.div_one] at hnine

end Reading

namespace TimeOfDay

/-- A leap second follows the last second of a minute, so that its second is written as sixty. -/
def LeapEndsMinute (t : TimeOfDay) : Prop := 1000000000 ≤ t.nanosecond → t.second % 60 = 59

theorem ofParts?_self (t : TimeOfDay) : ofParts? t.second t.nanosecond = some t :=
  dif_pos ⟨t.second_lt, t.nanosecond_lt⟩

/-- The parts that are written are those of the time. -/
theorem ofClock?_written (t : TimeOfDay) (h : t.LeapEndsMinute) :
    ofClock? (t.second / 3600) (t.second / 60 % 60) (t.second % 60 + t.nanosecond / 1000000000)
      (t.nanosecond % 1000000000) = some t := by
  have hsecond : t.second < 86400 := t.second_lt
  have hnanosecond := t.nanosecond_lt
  have hself := t.ofParts?_self
  by_cases hleap : 1000000000 ≤ t.nanosecond
  · have hlast := h hleap
    rw [ofClock?, if_pos (by omega), if_pos (by omega)]
    rw [show t.second / 3600 * 3600 + t.second / 60 % 60 * 60 + 59 = t.second by omega,
      show t.nanosecond % 1000000000 + 1000000000 = t.nanosecond by omega, hself]
  · rw [ofClock?, if_pos (by omega), if_neg (by omega)]
    rw [show t.second / 3600 * 3600 + t.second / 60 % 60 * 60 +
        (t.second % 60 + t.nanosecond / 1000000000) = t.second by omega,
      show t.nanosecond % 1000000000 = t.nanosecond by omega, hself]

theorem text_append (t : TimeOfDay) (rest : List Char) :
    t.text ++ rest =
      fixed 2 (t.second / 3600) ++ ':' :: (fixed 2 (t.second / 60 % 60) ++ ':' ::
        (fixed 2 (t.second % 60 + t.nanosecond / 1000000000) ++
          (fractionText (t.nanosecond % 1000000000) ++ rest))) := by
  simp only [text, List.append_assoc, List.cons_append]

theorem hour_lt (t : TimeOfDay) : t.second / 3600 < 100 := by
  have hsecond : t.second < 86400 := t.second_lt
  omega

theorem minute_lt (t : TimeOfDay) : t.second / 60 % 60 < 100 := by omega

theorem second_lt_hundred (t : TimeOfDay) : t.second % 60 + t.nanosecond / 1000000000 < 100 := by
  have hnanosecond := t.nanosecond_lt
  omega

end TimeOfDay

open Reading (character_cons field_fixed step) in
theorem Layout.time_text {l : Layout} (hl : l.seconds = true) (t : TimeOfDay)
    (h : t.LeapEndsMinute) {rest : List Char} (hrest : Reading.EndsFraction rest) :
    l.time (t.text ++ rest) = some (t, rest) := by
  have hfraction := Reading.fraction_fractionText (Nat.mod_lt t.nanosecond (by decide)) hrest
  rw [t.text_append]
  refine (step (field_fixed t.hour_lt _) _).trans ?_
  refine (step (character_cons ..) _).trans ?_
  refine (step (field_fixed t.minute_lt _) _).trans ?_
  refine (if_pos hl).trans ?_
  refine (step (character_cons ..) _).trans ?_
  refine (step (field_fixed t.second_lt_hundred _) _).trans ?_
  refine (step hfraction _).trans ?_
  exact step (t.ofClock?_written h) _

/-! ### Offsets -/

namespace Offset

/-- The offset is a whole number of minutes, as it is written. -/
def WholeMinutes (o : Offset) : Prop := o.seconds % 60 = 0

theorem ofSeconds?_self (o : Offset) : ofSeconds? o.seconds = some o := dif_pos o.natAbs_lt

theorem text_append (o : Offset) (rest : List Char) :
    o.text ++ rest = (if o.seconds < 0 then '-' else '+') ::
      (fixed 2 ((o.seconds.natAbs + 30) / 60 / 60) ++ ':' ::
        (fixed 2 ((o.seconds.natAbs + 30) / 60 % 60) ++ rest)) := by
  simp only [text, List.append_assoc, List.cons_append]

/-- A written offset starts with its sign. -/
theorem exists_text_append_eq_cons (o : Offset) (rest : List Char) :
    ∃ c tail, o.text ++ rest = c :: tail ∧ (c = '-' ∨ c = '+') := by
  refine ⟨_, _, o.text_append rest, ?_⟩
  split
  · exact .inl rfl
  · exact .inr rfl

theorem endsFraction_text (o : Offset) (rest : List Char) :
    Reading.EndsFraction (o.text ++ rest) := by
  obtain ⟨c, tail, htext, rfl | rfl⟩ := o.exists_text_append_eq_cons rest
  · rw [htext]
    exact Reading.endsFraction_cons (by decide) (by decide) tail
  · rw [htext]
    exact Reading.endsFraction_cons (by decide) (by decide) tail

theorem skipBlanks_text (o : Offset) (rest : List Char) :
    skipBlanks (o.text ++ rest) = o.text ++ rest := by
  obtain ⟨c, tail, htext, rfl | rfl⟩ := o.exists_text_append_eq_cons rest
  · rw [htext]
    exact List.dropWhile_cons_of_neg (by decide)
  · rw [htext]
    exact List.dropWhile_cons_of_neg (by decide)

theorem hours_lt (o : Offset) : (o.seconds.natAbs + 30) / 60 / 60 < 100 := by
  have hseconds : o.seconds.natAbs < 86400 := o.natAbs_lt
  omega

/-- The sign, hours and minutes that are written make up the offset. -/
theorem ofSeconds?_written (o : Offset) (h : o.WholeMinutes) (hours minutes : Nat)
    (hhours : hours = (o.seconds.natAbs + 30) / 60 / 60)
    (hminutes : minutes = (o.seconds.natAbs + 30) / 60 % 60) :
    ofSeconds? (if decide (o.seconds < 0) then -((hours * 3600 + minutes * 60 : Nat) : Int)
      else ((hours * 3600 + minutes * 60 : Nat) : Int)) = some o := by
  have hwhole : o.seconds % 60 = 0 := h
  have hseconds : (if decide (o.seconds < 0) then -((hours * 3600 + minutes * 60 : Nat) : Int)
      else ((hours * 3600 + minutes * 60 : Nat) : Int)) = o.seconds := by
    simp only [decide_eq_true_eq]
    omega
  rw [hseconds, o.ofSeconds?_self]

end Offset

namespace Reading

theorem sign_cons (west : Prop) [Decidable west] (rest : List Char) :
    sign ((if west then '-' else '+') :: rest) = some (decide west, rest) := by
  by_cases h : west
  · rw [if_pos h, decide_eq_true h]
    rfl
  · rw [if_neg h, decide_eq_false h]
    rfl

/-- An offset is read back by every reader that passes over the colon and nothing else. -/
theorem offset_text {between : List Char → Option (List Char)} (o : Offset) (h : o.WholeMinutes)
    {rest : List Char}
    (hbetween : ∀ n, between (':' :: (fixed 2 n ++ rest)) = some (fixed 2 n ++ rest)) :
    offset between (o.text ++ rest) = some (o, rest) := by
  have hminutes : (o.seconds.natAbs + 30) / 60 % 60 < 60 := Nat.mod_lt _ (by decide)
  rw [o.text_append]
  refine (step (sign_cons ..) _).trans ?_
  refine (step (exactly_fixed (by decide) o.hours_lt _) _).trans ?_
  refine (step (hbetween _) _).trans ?_
  refine (step (exactly_fixed (by decide) (Nat.lt_trans hminutes (by decide)) _) _).trans ?_
  refine (step (o.ofSeconds?_written h _ _ rfl rfl) _).trans ?_
  exact if_pos hminutes

theorem strictOffset_text (o : Offset) (h : o.WholeMinutes) (rest : List Char) :
    strictOffset (o.text ++ rest) = some (o, rest) := by
  have hread :
      offset (fun cs => (character ':' cs).map (·.2)) (o.text ++ rest) = some (o, rest) := by
    refine offset_text o h fun n => ?_
    rw [character_cons, Option.map_some]
  obtain ⟨c, tail, htext, rfl | rfl⟩ := o.exists_text_append_eq_cons rest
  · rw [htext] at hread ⊢
    exact hread
  · rw [htext] at hread ⊢
    exact hread

end Reading

theorem Layout.offset_text (o : Offset) (h : o.WholeMinutes) (rest : List Char) :
    Layout.offset (o.text ++ rest) = some (o, rest) := by
  rw [Layout.offset, o.skipBlanks_text]
  refine Reading.offset_text o h fun n => ?_
  rw [List.dropWhile_cons_of_pos (by rfl), dropWhile_digits_append ?_ (allDigits_fixed 2 n)
    (fixed_ne_nil (by decide) n)]
  intro c d hd
  rw [isBlank_of_digit? hd, Bool.or_false, beq_eq_false_iff_ne]
  exact ne_of_digit? hd (by decide)

end DocumentFilter
