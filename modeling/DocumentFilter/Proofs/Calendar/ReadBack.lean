import DocumentFilter.Proofs.Calendar.Fields

/-! Dates and timestamps that were written are read back.

A timestamp is offered to the strict form first, then to the layouts in their order. So for each
text it is said which of them take it: the strict form takes a year of four digits with an offset
and nothing else, the layouts without the letter none, and of those with it the first with seconds
and the right zone. No reader before the right one takes the text for something else. -/
namespace DocumentFilter

open Digits (NoDigitFirst digit? fixed noDigitFirst_cons number? takeWhile_eq_nil_of_noDigitFirst)
open Text (skipBlanks)

/-! ### Readers that give up -/

theorem Digits.number?_of_noDigitFirst {cs : List Char} (h : NoDigitFirst cs) :
    number? cs = none := by
  cases cs with
  | nil => rfl
  | cons c rest =>
    show (((digit? c).map fun d => 0 * 10 + d) >>= fun value => rest.foldlM _ value) = none
    rw [h c rfl]
    rfl

namespace Reading

theorem digits_of_noDigitFirst {cs : List Char} (h : NoDigitFirst cs) (most : Nat) :
    digits most cs = none := by
  simp only [digits, takeWhile_eq_nil_of_noDigitFirst (h.take most)]
  rfl

theorem exactly_of_noDigitFirst {cs : List Char} (h : NoDigitFirst cs) (width : Nat) :
    exactly width cs = none := by
  simp only [exactly, Digits.number?_of_noDigitFirst (h.take width), Option.map_none, ite_self]

end Reading

/-! ### The wall clock -/

theorem WallClock.text_append (w : WallClock) (rest : List Char) :
    w.text ++ rest = w.date.text ++ 'T' :: (w.time.text ++ rest) := by
  simp only [text, List.append_assoc, List.cons_append]

namespace Reading

/-- The strict form takes a written wall clock with a year of four digits, and it is the offset
that decides. -/
theorem strictTimestamp_of_four_digits (w : WallClock)
    (hyear : 0 ≤ w.date.year ∧ w.date.year ≤ 9999) (hleap : w.time.LeapEndsMinute)
    {rest : List Char} (hrest : EndsFraction rest) :
    strictTimestamp (w.text ++ rest) =
      (strictOffset rest).map fun (offset, rest) => (⟨w, some offset⟩, rest) := by
  have hyearText : yearText w.date.year = fixed 4 w.date.year.toNat := if_pos hyear
  have hyearNat : w.date.year.toNat < 10000 := by omega
  have hdate : Date.ofParts? (w.date.year.toNat : Int) w.date.month w.date.day = some w.date := by
    rw [Int.toNat_of_nonneg hyear.1, w.date.ofParts?_self]
  have hfraction := fraction_fractionText (Nat.mod_lt w.time.nanosecond (by decide)) hrest
  have hpos : 0 < 2 := by decide
  rw [w.text_append, w.date.text_append, w.time.text_append, hyearText]
  refine (step (exactly_fixed (by decide) hyearNat _) _).trans ?_
  refine (step (character_cons ..) _).trans ?_
  refine (step (exactly_fixed hpos w.date.month_lt _) _).trans ?_
  refine (step (character_cons ..) _).trans ?_
  refine (step (exactly_fixed hpos w.date.day_lt _) _).trans ?_
  -- the first of the three marks that may stand between day and time
  refine (step (a := ((), _)) rfl _).trans ?_
  refine (step (exactly_fixed hpos w.time.hour_lt _) _).trans ?_
  refine (step (character_cons ..) _).trans ?_
  refine (step (exactly_fixed hpos w.time.minute_lt _) _).trans ?_
  refine (step (character_cons ..) _).trans ?_
  refine (step (exactly_fixed hpos w.time.second_lt_hundred _) _).trans ?_
  refine (step hfraction _).trans ?_
  cases hoffset : strictOffset rest with
  | none =>
    show (strictOffset rest >>= _) = _
    rw [hoffset]
    rfl
  | some read =>
    refine (step hoffset _).trans ?_
    refine (step hdate _).trans ?_
    exact step (w.time.ofClock?_written hleap) _

/-- A sign in front of the year is not taken by the strict form. -/
theorem strictTimestamp_of_sign (w : WallClock)
    (hyear : ¬(0 ≤ w.date.year ∧ w.date.year ≤ 9999)) (rest : List Char) :
    strictTimestamp (w.text ++ rest) = none := by
  have hsign : NoDigitFirst (w.text ++ rest) := by
    rw [w.text_append, w.date.text_append, yearText, if_neg hyear]
    refine noDigitFirst_cons ?_ _
    split
    · decide
    · decide
  exact stop (exactly_of_noDigitFirst hsign 4) _

end Reading

namespace Layout

open Reading (character_cons date_text field_fixed step stop)

theorem timestamp_without_letter {l : Layout} (hl : l.letter = false) (w : WallClock)
    (rest : List Char) : l.timestamp (w.text ++ rest) = none := by
  have hletter : ¬l.letter = true := Bool.eq_false_iff.mp hl
  have hhour : Reading.field 2 (skipBlanks ('T' :: (w.time.text ++ rest))) = none :=
    Reading.digits_of_noDigitFirst (noDigitFirst_cons (by decide) _) 2
  have htime : l.time (skipBlanks ('T' :: (w.time.text ++ rest))) = none := stop hhour _
  rw [w.text_append]
  refine (step (date_text w.date _) _).trans ?_
  refine (if_neg hletter).trans ?_
  refine (step rfl _).trans ?_
  exact stop htime _

/-- Without seconds the second colon is left. -/
theorem time_without_seconds (zoned : Bool) (t : TimeOfDay) (rest : List Char) :
    ∃ clock tail, (⟨true, false, zoned⟩ : Layout).time (t.text ++ rest) =
      Option.map (fun time => (time, ':' :: tail)) clock := by
  refine ⟨TimeOfDay.ofClock? (t.second / 3600) (t.second / 60 % 60) 0 0,
    fixed 2 (t.second % 60 + t.nanosecond / 1000000000) ++
      (fractionText (t.nanosecond % 1000000000) ++ rest), ?_⟩
  rw [t.text_append]
  refine (step (field_fixed t.hour_lt _) _).trans ?_
  refine (step (character_cons ..) _).trans ?_
  refine (step (field_fixed t.minute_lt _) _).trans ?_
  exact (Option.map_eq_bind ..).symm

/-- The layout without seconds expects the offset where the second colon stands. -/
theorem timestamp_zoned_without_seconds (w : WallClock) (rest : List Char) :
    (⟨true, false, true⟩ : Layout).timestamp (w.text ++ rest) = none := by
  obtain ⟨clock, tail, htime⟩ := time_without_seconds true w.time rest
  rw [w.text_append]
  refine (step (date_text w.date _) _).trans ?_
  refine (step (a := w.time.text ++ rest) rfl _).trans ?_
  cases clock with
  | none => exact stop htime _
  | some time =>
    refine (step htime _).trans ?_
    exact stop rfl _

theorem timestamp_zoned (w : WallClock) (hleap : w.time.LeapEndsMinute) {rest : List Char}
    (hrest : Reading.EndsFraction rest) :
    (⟨true, true, true⟩ : Layout).timestamp (w.text ++ rest) = do
      let (offset, rest) ← Layout.offset rest
      let _ ← (⟨w, some offset⟩ : Timestamp).instant?
      return (⟨w, some offset⟩, rest) := by
  have htime := Layout.time_text (l := ⟨true, true, true⟩) rfl w.time hleap hrest
  rw [w.text_append]
  refine (step (date_text w.date _) _).trans ?_
  refine (step (a := w.time.text ++ rest) rfl _).trans ?_
  exact step htime _

theorem timestamp_naive (w : WallClock) (hleap : w.time.LeapEndsMinute) {rest : List Char}
    (hrest : Reading.EndsFraction rest) :
    (⟨true, true, false⟩ : Layout).timestamp (w.text ++ rest) = some (⟨w, none⟩, rest) := by
  have htime := Layout.time_text (l := ⟨true, true, false⟩) rfl w.time hleap hrest
  rw [w.text_append]
  refine (step (date_text w.date _) _).trans ?_
  refine (step (a := w.time.text ++ rest) rfl _).trans ?_
  exact step htime _

end Layout

/-! ### Whole texts -/

theorem Date.read?_text (d : Date) : Date.read? d.text = some d := by
  rw [Date.read?, Reading.complete_eq_some_iff]
  have hread := Reading.date_text d []
  rw [List.append_nil] at hread
  exact hread

namespace Timestamp

/-- The text says all about the timestamp: a leap second is written as second sixty, an offset has
no seconds to leave out, and there is an instant, without which no offset is written. -/
structure Writable (t : Timestamp) : Prop where
  leap : t.wall.time.LeapEndsMinute
  minutes : ∀ o, t.offset = some o → o.WholeMinutes
  instant : t.offset.isSome = true → t.instant?.isSome = true

theorem read?_of_strict {cs : List Char} {t : Timestamp}
    (h : Reading.strictTimestamp cs = some (t, [])) : read? cs = some t := by
  have hstrict := (Reading.complete_eq_some_iff ..).mpr h
  rw [read?, hstrict]
  rfl

/-- The layouts are tried when the strict form refuses the text. -/
theorem read?_of_layouts {cs : List Char} {t : Timestamp}
    (hstrict : Reading.strictTimestamp cs = none)
    (h : Layout.all.findSome? (fun l => l.timestamp.complete cs) = some t) : read? cs = some t := by
  have hcomplete : Reading.strictTimestamp.complete cs = none := by
    rw [Reading.complete, hstrict]
  rw [read?, hcomplete, h]
  rfl

/-- Without an offset the strict form fails at the end of the text, and so does each layout with a
zone; the layout after these takes all of it. -/
theorem read?_naive (w : WallClock) (hleap : w.time.LeapEndsMinute) :
    read? w.text = some ⟨w, none⟩ := by
  have hend := Reading.endsFraction_nil
  have happend := List.append_nil w.text
  have hstrict : Reading.strictTimestamp w.text = none := by
    rw [← happend]
    by_cases hyear : 0 ≤ w.date.year ∧ w.date.year ≤ 9999
    · rw [Reading.strictTimestamp_of_four_digits w hyear hleap hend]
      rfl
    · exact Reading.strictTimestamp_of_sign w hyear []
  have hzoned : (⟨true, true, true⟩ : Layout).timestamp w.text = none := by
    rw [← happend, Layout.timestamp_zoned w hleap hend]
    rfl
  have hwithoutSeconds := Layout.timestamp_zoned_without_seconds w []
  have hwithoutLetter (seconds zoned : Bool) :=
    Layout.timestamp_without_letter (l := ⟨false, seconds, zoned⟩) rfl w []
  have hnaive := Layout.timestamp_naive w hleap hend
  rw [happend] at hwithoutSeconds hnaive
  simp only [happend] at hwithoutLetter
  refine read?_of_layouts hstrict ?_
  simp only [Layout.all, List.findSome?_cons, Reading.complete, hzoned, hwithoutLetter,
    hwithoutSeconds, hnaive]

/-- With an offset it is the width of the year that decides between the strict form and the first
layout; both read the same. -/
theorem read?_zoned (w : WallClock) (offset : Offset) (hleap : w.time.LeapEndsMinute)
    (hminutes : offset.WholeMinutes)
    (hinstant : (⟨w, some offset⟩ : Timestamp).instant?.isSome = true) :
    read? (w.text ++ offset.text) = some ⟨w, some offset⟩ := by
  have hend : Reading.EndsFraction offset.text := by
    rw [← List.append_nil offset.text]
    exact offset.endsFraction_text []
  by_cases hyear : 0 ≤ w.date.year ∧ w.date.year ≤ 9999
  · have hoffset := Reading.strictOffset_text offset hminutes []
    rw [List.append_nil] at hoffset
    refine read?_of_strict ?_
    rw [Reading.strictTimestamp_of_four_digits w hyear hleap hend, hoffset]
    rfl
  · obtain ⟨u, hu⟩ := Option.isSome_iff_exists.mp hinstant
    have hoffset := Layout.offset_text offset hminutes []
    rw [List.append_nil] at hoffset
    have hzoned : (⟨true, true, true⟩ : Layout).timestamp (w.text ++ offset.text) =
        some (⟨w, some offset⟩, []) := by
      rw [Layout.timestamp_zoned w hleap hend]
      simp only [hoffset, hu, bind, Option.bind_some, pure]
    refine read?_of_layouts (Reading.strictTimestamp_of_sign w hyear _) ?_
    simp only [Layout.all, List.findSome?_cons, Reading.complete, hzoned]

/-- A timestamp that is written whole is read back. -/
theorem read?_text {t : Timestamp} (h : t.Writable) : read? t.text = some t := by
  obtain ⟨wall, offset⟩ := t
  cases offset with
  | none => exact read?_naive wall h.leap
  | some offset =>
    have hinstant := h.instant rfl
    obtain ⟨u, hu⟩ := Option.isSome_iff_exists.mp hinstant
    rw [text, hu]
    exact read?_zoned wall offset h.leap (h.minutes offset rfl) hinstant

end Timestamp

end DocumentFilter
