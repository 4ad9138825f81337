import DocumentFilter.Proofs.Calendar.Taken

/-! The text of an offset.

An offset is written as `Z` for universal time, or as a sign with two digits of hours and two of
minutes, nothing or any colons and blanks between them. The strict form and the loose layouts take
only such texts (`written_of_strictOffset`, `written_of_offset`), and no text is the writing of two
offsets (`Written.unique`). -/
namespace DocumentFilter

open Digits (fixed)
open Reading (ClockCharacter)
open Text (isBlank skipBlanks)

/-- The characters that are signs, and whether they point west. The minus sign of typography is one
of them. -/
inductive SignCharacter : Char → Bool → Prop where
  | plus : SignCharacter '+' false
  | hyphen : SignCharacter '-' true
  | minus : SignCharacter '−' true

/-- What may stand between the hours and the minutes of an offset: colons and blanks. -/
def Separates (between : List Char) : Prop := ∀ c ∈ between, c = ':' ∨ isBlank c = true

/-- The text is an offset. -/
inductive Offset.Written : List Char → Offset → Prop where
  | universal {c : Char} (hc : c = 'Z' ∨ c = 'z') : Written [c] .universal
  | signed {sign : Char} {west : Bool} {hours minutes : Nat} {between : List Char} {o : Offset}
      (hsign : SignCharacter sign west) (hbetween : Separates between) (hminutes : minutes < 60)
      (hseconds : o.seconds = if west then -((hours * 3600 + minutes * 60 : Nat) : Int)
        else ((hours * 3600 + minutes * 60 : Nat) : Int)) :
      Written (sign :: (fixed 2 hours ++ (between ++ fixed 2 minutes))) o

/-! ### Signs -/

namespace SignCharacter

variable {sign : Char} {west : Bool}

theorem not_clockCharacter (h : SignCharacter sign west) : ¬ClockCharacter sign := by
  cases h with
  | plus => decide
  | hyphen => decide
  | minus => decide

theorem skipBlanks_cons (h : SignCharacter sign west) (cs : List Char) :
    skipBlanks (sign :: cs) = sign :: cs := by
  refine Text.skipBlanks_cons (Bool.eq_false_iff.mpr fun hblank => ?_) cs
  exact h.not_clockCharacter (.inr (.inr hblank))

end SignCharacter

theorem Reading.sign_eq_some_iff {cs rest : List Char} {west : Bool} :
    sign cs = some (west, rest) ↔ ∃ c, SignCharacter c west ∧ cs = c :: rest := by
  constructor
  · intro h
    unfold sign at h
    split at h
    · cases h
      exact ⟨'+', .plus, rfl⟩
    · cases h
      exact ⟨'-', .hyphen, rfl⟩
    · cases h
      exact ⟨'−', .minus, rfl⟩
    · cases h
  · rintro ⟨c, hc, rfl⟩
    cases hc with
    | plus => rfl
    | hyphen => rfl
    | minus => rfl

/-! ### Reading an offset -/

namespace Offset

theorem ofSeconds?_eq_some_iff {seconds : Int} {o : Offset} :
    ofSeconds? seconds = some o ↔ o.seconds = seconds := by
  constructor
  · intro h
    unfold ofSeconds? at h
    split at h
    · cases h
      rfl
    · cases h
  · rintro rfl
    exact o.ofSeconds?_self

/-- An offset is below a day, so its hours have no third digit. -/
theorem hours_lt_hundred {o : Offset} {west : Bool} {hours minutes : Nat}
    (h : o.seconds = if west then -((hours * 3600 + minutes * 60 : Nat) : Int)
      else ((hours * 3600 + minutes * 60 : Nat) : Int)) : hours < 100 := by
  have hday : o.seconds.natAbs < 86400 := o.natAbs_lt
  rw [h] at hday
  split at hday <;> omega

end Offset

namespace Reading

/-- A reader of offsets takes a sign, hours, what it passes over, and minutes. -/
theorem offset_eq_some_iff {between : List Char → Option (List Char)} {cs rest : List Char}
    {o : Offset} :
    offset between cs = some (o, rest) ↔
      ∃ sign west hours tail minutes, SignCharacter sign west ∧
        cs = sign :: (fixed 2 hours ++ tail) ∧ between tail = some (fixed 2 minutes ++ rest) ∧
        minutes < 60 ∧ o.seconds = if west then -((hours * 3600 + minutes * 60 : Nat) : Int)
          else ((hours * 3600 + minutes * 60 : Nat) : Int) := by
  constructor
  · intro h
    obtain ⟨west, cs₁, hsign, h⟩ := exists_step h
    obtain ⟨hours, tail, hhours, h⟩ := exists_step h
    obtain ⟨cs₂, hbetween, h⟩ := Option.bind_eq_some_iff.mp h
    obtain ⟨minutes, cs₃, hminutes, h⟩ := exists_step h
    obtain ⟨found, hfound, h⟩ := Option.bind_eq_some_iff.mp h
    split at h
    · next hlt =>
      cases h
      obtain ⟨sign, hsignCharacter, rfl⟩ := sign_eq_some_iff.mp hsign
      obtain ⟨rfl, -⟩ := (exactly_eq_some_iff (by decide)).mp hhours
      obtain ⟨rfl, -⟩ := (exactly_eq_some_iff (by decide)).mp hminutes
      exact ⟨sign, west, hours, tail, minutes, hsignCharacter, rfl, hbetween, hlt,
        Offset.ofSeconds?_eq_some_iff.mp hfound⟩
    · cases h
  · rintro ⟨sign, west, hours, tail, minutes, hsign, rfl, hbetween, hlt, hseconds⟩
    have hhours := Offset.hours_lt_hundred hseconds
    refine (step (sign_eq_some_iff.mpr ⟨sign, hsign, rfl⟩) _).trans ?_
    refine (step (exactly_fixed (by decide) hhours _) _).trans ?_
    refine (step hbetween _).trans ?_
    refine (step (exactly_fixed (by decide) (Nat.lt_trans hlt (by decide)) _) _).trans ?_
    refine (step (Offset.ofSeconds?_eq_some_iff.mpr hseconds) _).trans ?_
    exact if_pos hlt

theorem written_of_strictOffset {cs : List Char} {o : Offset}
    (h : strictOffset cs = some (o, [])) : o.Written cs := by
  unfold strictOffset at h
  split at h
  · cases h
    exact .universal (.inl rfl)
  · cases h
    exact .universal (.inr rfl)
  · obtain ⟨sign, west, hours, tail, minutes, hsign, rfl, hbetween, hlt, hseconds⟩ :=
      offset_eq_some_iff.mp h
    obtain ⟨⟨⟨⟩, rest⟩, hcolon, rfl⟩ := Option.map_eq_some_iff.mp hbetween
    have hseparates : Separates [':'] := List.forall_mem_singleton.mpr (.inl rfl)
    rw [character_eq_some_iff.mp hcolon, List.append_nil]
    exact .signed hsign hseparates hlt hseconds

end Reading

/-- Colons and blanks are dropped in front of digits, and nothing else. -/
theorem dropWhile_separates_append {between : List Char} (h : Separates between) (n : Nat) :
    ((between ++ fixed 2 n).dropWhile fun c => c == ':' || isBlank c) = fixed 2 n := by
  rw [List.dropWhile_append_of_pos fun c hc => by simpa using h c hc]
  have hdigits := Digits.dropWhile_digits_append (p := fun c => c == ':' || isBlank c) ?_
    (Digits.allDigits_fixed 2 n) (Digits.fixed_ne_nil (by decide) n) []
  · simpa using hdigits
  · intro c d hd
    rw [Digits.isBlank_of_digit? hd, Bool.or_false, beq_eq_false_iff_ne]
    exact Digits.ne_of_digit? hd (by decide)

namespace Layout

theorem written_of_offset {cs : List Char} {o : Offset} (h : Layout.offset cs = some (o, [])) :
    o.Written (skipBlanks cs) := by
  obtain ⟨sign, west, hours, tail, minutes, hsign, hcs, hbetween, hlt, hseconds⟩ :=
    Reading.offset_eq_some_iff.mp h
  have htail := List.takeWhile_append_dropWhile (p := fun c => c == ':' || isBlank c) (l := tail)
  rw [Option.some.inj hbetween, List.append_nil] at htail
  rw [hcs, ← htail]
  refine .signed hsign (fun c hc => ?_) hlt hseconds
  simpa using List.all_eq_true.mp List.all_takeWhile c hc

end Layout

namespace Offset.Written

variable {cs : List Char} {o : Offset}

/-- Universal time has its letter, and every other writing is read by the loose layouts. -/
theorem letter_or_offset (h : o.Written cs) :
    (o = .universal ∧ (cs = ['Z'] ∨ cs = ['z'])) ∨ Layout.offset cs = some (o, []) := by
  cases h with
  | universal hc =>
    rcases hc with rfl | rfl
    · exact .inl ⟨rfl, .inl rfl⟩
    · exact .inl ⟨rfl, .inr rfl⟩
  | @signed sign west hours minutes between _ hsign hbetween hminutes hseconds =>
    refine .inr (Reading.offset_eq_some_iff.mpr ?_)
    refine ⟨sign, west, hours, between ++ fixed 2 minutes, minutes, hsign, hsign.skipBlanks_cons _,
      ?_, hminutes, hseconds⟩
    rw [dropWhile_separates_append hbetween, List.append_nil]

/-- **No text is the writing of two offsets.** -/
theorem unique {o' : Offset} (h : o.Written cs) (h' : o'.Written cs) : o = o' := by
  rcases h.letter_or_offset with ⟨ho, hletter⟩ | hoffset
  · rcases h'.letter_or_offset with ⟨ho', -⟩ | hoffset'
    · rw [ho, ho']
    · rcases hletter with rfl | rfl
      · cases hoffset'
      · cases hoffset'
  · rcases h'.letter_or_offset with ⟨-, rfl | rfl⟩ | hoffset'
    · cases hoffset
    · cases hoffset
    · rw [hoffset] at hoffset'
      exact (Prod.mk.inj (Option.some.inj hoffset')).1

theorem skipBlanks_eq (h : o.Written cs) : skipBlanks cs = cs := by
  cases h with
  | universal hc =>
    rcases hc with rfl | rfl
    · rfl
    · rfl
  | signed hsign _ _ _ => exact hsign.skipBlanks_cons _

end Offset.Written

/-- **The two readers of offsets agree.** -/
theorem Reading.strictOffset_agrees {cs : List Char} {o o' : Offset}
    (h : strictOffset cs = some (o, [])) (h' : Layout.offset cs = some (o', [])) : o = o' := by
  have hwritten := written_of_strictOffset h
  have hwritten' := Layout.written_of_offset h'
  rw [hwritten.skipBlanks_eq] at hwritten'
  exact hwritten.unique hwritten'

end DocumentFilter
