import DocumentFilter.Proofs.Calendar.Fields
import DocumentFilter.Proofs.Document.ScalarOrder
import Mathlib.Order.Monotone.Basic

/-! Days and wall clocks on one line.

Days are numbered in the order in which they follow one another, by the length of the years and
months before them, and seconds are counted through all the days. On this line the neighbours of
a day have the numbers next to its own, the order of dates and of wall clocks is that of the
numbers, and to shift a wall clock is to add: there is an answer just when the sum lies between the
ends of the calendar (`isSome_shift?_iff`), and the fraction of the second is not touched. -/
namespace DocumentFilter

/-! ### Years and months -/

theorem isLeapYear_iff (year : Int) :
    isLeapYear year = true ↔ year % 4 = 0 ∧ (year % 100 ≠ 0 ∨ year % 400 = 0) := by
  simp [isLeapYear]

def daysInYear (year : Int) : Nat := if isLeapYear year then 366 else 365

/-- The days from the start of year one to the start of the year. Before year one they count down. -/
def daysBeforeYear (year : Int) : Int :=
  365 * (year - 1) + (year - 1) / 4 - (year - 1) / 100 + (year - 1) / 400

theorem daysBeforeYear_succ (year : Int) :
    daysBeforeYear (year + 1) = daysBeforeYear year + daysInYear year := by
  -- A quotient goes up by one at the multiples of its divisor.
  have hfour : year / 4 = (year - 1) / 4 + if year % 4 = 0 then 1 else 0 := by split <;> omega
  have hhundred : year / 100 = (year - 1) / 100 + if year % 100 = 0 then 1 else 0 := by
    split <;> omega
  have hfourHundred : year / 400 = (year - 1) / 400 + if year % 400 = 0 then 1 else 0 := by
    split <;> omega
  rw [daysBeforeYear, daysBeforeYear, Int.add_sub_cancel, hfour, hhundred, hfourHundred]
  simp only [daysInYear, isLeapYear_iff]
  split <;> split <;> split <;> split <;> omega

/-- The days from the start of the year to the start of the month. -/
def daysBeforeMonth (year : Int) : (month : Nat) → Nat
  | 0 => 0
  | month + 1 => daysBeforeMonth year month + daysInMonth year month

theorem daysBeforeMonth_thirteen (year : Int) : daysBeforeMonth year 13 = daysInYear year := by
  simp only [daysBeforeMonth, daysInMonth, daysInYear]
  split <;> rfl

theorem daysBeforeMonth_december (year : Int) :
    daysBeforeMonth year 13 = daysBeforeMonth year 12 + 31 := rfl

theorem daysBeforeMonth_le {year : Int} {m n : Nat} (h : m ≤ n) :
    daysBeforeMonth year m ≤ daysBeforeMonth year n :=
  monotone_nat_of_le_succ (fun _ => Nat.le_add_right ..) h

@[simp] theorem daysBeforeMonth_one (year : Int) : daysBeforeMonth year 1 = 0 := rfl

theorem one_le_daysInMonth (year : Int) {month : Nat} (h : 1 ≤ month ∧ month ≤ 12) :
    1 ≤ daysInMonth year month := by
  fun_cases daysInMonth year month
  all_goals grind

theorem daysBeforeYear_lt_iff (a b : Int) : daysBeforeYear a < daysBeforeYear b ↔ a < b := by
  have hmono : StrictMono daysBeforeYear := by
    refine strictMono_int_of_lt_succ fun year => ?_
    rw [daysBeforeYear_succ]
    unfold daysInYear
    split <;> omega
  exact hmono.lt_iff_lt

theorem daysBeforeYear_le {a b : Int} (h : a ≤ b) : daysBeforeYear a ≤ daysBeforeYear b := by
  rwa [← Int.not_lt, daysBeforeYear_lt_iff, Int.not_lt]

/-! ### Days -/

namespace Date

/-- The number of the day. The first day of year one has number one. -/
def number (d : Date) : Int := daysBeforeYear d.year + daysBeforeMonth d.year d.month + d.day

theorem month_mem (d : Date) : 1 ≤ d.month ∧ d.month ≤ 12 := by
  have hday := d.day_mem
  constructor
  · by_contra h
    have hzero : d.month = 0 := by omega
    rw [hzero] at hday
    exact absurd (hday.1.trans hday.2) (by simp [daysInMonth])
  · by_contra h
    rw [daysInMonth_eq_zero _ (by omega)] at hday
    omega

/-- A day is within its month and its month within its year. -/
theorem day_le_daysInYear (d : Date) :
    daysBeforeMonth d.year d.month + d.day ≤ daysInYear d.year := by
  have hnext : daysBeforeMonth d.year (d.month + 1) ≤ daysBeforeMonth d.year 13 :=
    daysBeforeMonth_le (by have := d.month_mem; omega)
  rw [daysBeforeMonth_thirteen, daysBeforeMonth] at hnext
  have := d.day_mem
  omega

theorem number_lt_of_compare {a b : Date} (h : a.compare b = .lt) : a.number < b.number := by
  have ha := a.day_mem
  have hb := b.day_mem
  simp only [compare, Ordering.then_eq_lt, Int.compare_eq_lt, Int.compare_eq_eq, Nat.compare_eq_lt,
    Nat.compare_eq_eq] at h
  unfold number
  rcases h with hyear | ⟨hyear, hmonth | ⟨hmonth, hday⟩⟩
  · have hle := daysBeforeYear_le (Int.add_one_le_of_lt hyear)
    rw [daysBeforeYear_succ] at hle
    have := a.day_le_daysInYear
    omega
  · have hle : daysBeforeMonth a.year (a.month + 1) ≤ daysBeforeMonth a.year b.month :=
      daysBeforeMonth_le hmonth
    rw [daysBeforeMonth] at hle
    rw [← hyear]
    omega
  · rw [← hyear, ← hmonth]
    omega

/-- **The order of dates is that of their numbers.** -/
theorem compare_eq (a b : Date) : a.compare b = Ord.compare a.number b.number := by
  cases h : a.compare b with
  | lt => exact (Int.compare_eq_lt.mpr (number_lt_of_compare h)).symm
  | eq => rw [Std.LawfulEqCmp.eq_of_compare h, Int.compare_eq_eq.mpr rfl]
  | gt =>
    have hswap := Std.OrientedCmp.gt_iff_lt.mp h
    exact (Int.compare_eq_gt.mpr (number_lt_of_compare hswap)).symm

theorem number_injective {a b : Date} (h : a.number = b.number) : a = b := by
  have htie : a.compare b = .eq := by rw [compare_eq, h, Int.compare_eq_eq]
  exact Std.LawfulEqCmp.eq_of_compare htie

/-! ### The ends of the calendar -/

def first : Date := ⟨firstYear, 1, 1, by decide, by decide⟩

def last : Date := ⟨lastYear, 12, 31, by decide, by decide⟩

theorem number_first : first.number = daysBeforeYear firstYear + 1 := by decide

theorem number_last : last.number = daysBeforeYear (lastYear + 1) := by decide

theorem number_first_le (d : Date) : first.number ≤ d.number := by
  have hle := daysBeforeYear_le d.year_mem.1
  have hday := d.day_mem
  rw [number_first, number]
  omega

theorem number_le_last (d : Date) : d.number ≤ last.number := by
  have hle := daysBeforeYear_le (Int.add_le_add_right d.year_mem.2 1)
  have hday := d.day_le_daysInYear
  rw [daysBeforeYear_succ] at hle
  rw [number_last, number]
  omega

/-! ### The neighbours of a day -/

theorem exists_ofParts? (year : Int) (month day : Nat) (hyear : firstYear ≤ year ∧ year ≤ lastYear)
    (hday : 1 ≤ day ∧ day ≤ daysInMonth year month) :
    ∃ d, ofParts? year month day = some d ∧
      d.number = daysBeforeYear year + daysBeforeMonth year month + day :=
  ⟨_, dif_pos ⟨hyear, hday⟩, rfl⟩

theorem exists_next? {d : Date} (h : d.number < last.number) :
    ∃ e, d.next? = some e ∧ e.number = d.number + 1 := by
  have hday := d.day_mem
  have hmonth := d.month_mem
  have hyear := d.year_mem
  unfold next?
  split
  · next hlt =>
    obtain ⟨e, he, hnumber⟩ := exists_ofParts? d.year d.month (d.day + 1) hyear ⟨by omega, hlt⟩
    refine ⟨e, he, ?_⟩
    rw [hnumber, number]
    omega
  · next hend =>
    have hmonthEnd : d.number = daysBeforeYear d.year + daysBeforeMonth d.year (d.month + 1) := by
      rw [number, daysBeforeMonth]
      omega
    split
    · next hlt =>
      obtain ⟨e, he, hnumber⟩ := exists_ofParts? d.year (d.month + 1) 1 hyear
        ⟨Nat.le_refl 1, one_le_daysInMonth _ (by omega)⟩
      refine ⟨e, he, ?_⟩
      rw [hnumber, hmonthEnd]
      rfl
    · next hlast =>
      have htwelve : d.month = 12 := by omega
      rw [htwelve, daysBeforeMonth_thirteen, ← daysBeforeYear_succ] at hmonthEnd
      rw [hmonthEnd, number_last, daysBeforeYear_lt_iff] at h
      obtain ⟨e, he, hnumber⟩ := exists_ofParts? (d.year + 1) 1 1 (by omega)
        ⟨Nat.le_refl 1, one_le_daysInMonth _ (by decide)⟩
      refine ⟨e, he, ?_⟩
      rw [hnumber, hmonthEnd, daysBeforeMonth_one, Int.natCast_zero, Int.add_zero, Int.natCast_one]

theorem exists_previous? {d : Date} (h : first.number < d.number) :
    ∃ e, d.previous? = some e ∧ e.number = d.number - 1 := by
  have hday := d.day_mem
  have hmonth := d.month_mem
  have hyear := d.year_mem
  unfold previous?
  split
  · next hlt =>
    obtain ⟨e, he, hnumber⟩ := exists_ofParts? d.year d.month (d.day - 1) hyear (by omega)
    refine ⟨e, he, ?_⟩
    rw [hnumber, number]
    omega
  · next hstart =>
    have hmonthStart : d.number = daysBeforeYear d.year + daysBeforeMonth d.year d.month + 1 := by
      rw [number]
      omega
    split
    · next hlt =>
      obtain ⟨month, hsucc⟩ : ∃ month, d.month = month + 1 := ⟨d.month - 1, by omega⟩
      rw [hsucc, daysBeforeMonth] at hmonthStart
      obtain ⟨e, he, hnumber⟩ := exists_ofParts? d.year month (daysInMonth d.year month) hyear
        ⟨one_le_daysInMonth _ (by omega), Nat.le_refl _⟩
      rw [hsucc, Nat.add_sub_cancel]
      refine ⟨e, he, ?_⟩
      rw [hnumber, hmonthStart]
      omega
    · next hfirst =>
      have hone : d.month = 1 := by omega
      rw [hone, daysBeforeMonth_one] at hmonthStart
      have hlt : firstYear < d.year := by
        rw [← daysBeforeYear_lt_iff]
        rw [number_first] at h
        omega
      obtain ⟨e, he, hnumber⟩ := exists_ofParts? (d.year - 1) 12 31 (by omega)
        ⟨by decide, Nat.le_refl _⟩
      have hyearEnd := daysBeforeYear_succ (d.year - 1)
      rw [Int.sub_add_cancel, ← daysBeforeMonth_thirteen, daysBeforeMonth_december] at hyearEnd
      refine ⟨e, he, ?_⟩
      rw [hnumber, hmonthStart, hyearEnd]
      omega

theorem next?_last : last.next? = none := by decide

theorem previous?_first : first.previous? = none := by decide

theorem next?_eq_some_iff (d e : Date) : d.next? = some e ↔ e.number = d.number + 1 := by
  have hlast := e.number_le_last
  rcases Int.lt_or_eq_of_le d.number_le_last with hlt | heq
  · obtain ⟨e', he', hnumber⟩ := exists_next? hlt
    rw [he', Option.some.injEq, ← hnumber]
    exact ⟨fun h => h ▸ rfl, fun h => number_injective h.symm⟩
  · rw [number_injective heq, next?_last]
    exact ⟨nofun, by omega⟩

theorem previous?_eq_some_iff (d e : Date) : d.previous? = some e ↔ e.number = d.number - 1 := by
  have hfirst := e.number_first_le
  rcases Int.lt_or_eq_of_le d.number_first_le with hlt | heq
  · obtain ⟨e', he', hnumber⟩ := exists_previous? hlt
    rw [he', Option.some.injEq, ← hnumber]
    exact ⟨fun h => h ▸ rfl, fun h => number_injective h.symm⟩
  · rw [← number_injective heq, previous?_first]
    exact ⟨nofun, by omega⟩

/-- Between the ends of the calendar every number is that of a day. -/
theorem exists_number_eq {n : Int} (hfirst : first.number ≤ n) (hlast : n ≤ last.number) :
    ∃ d : Date, d.number = n := by
  obtain ⟨k, rfl⟩ := Int.le.dest hfirst
  induction k with
  | zero => exact ⟨first, (Int.add_zero _).symm⟩
  | succ k ih =>
    obtain ⟨d, hd⟩ := ih (by omega) (by omega)
    obtain ⟨e, -, he⟩ := exists_next? (d := d) (by omega)
    exact ⟨e, by omega⟩

end Date

/-! ### Wall clocks -/

theorem TimeOfDay.ofParts?_eq_some_iff {second nanosecond : Nat} {t : TimeOfDay} :
    ofParts? second nanosecond = some t ↔ t.second = second ∧ t.nanosecond = nanosecond := by
  constructor
  · intro h
    unfold ofParts? at h
    split at h
    · cases h
      exact ⟨rfl, rfl⟩
    · cases h
  · rintro ⟨rfl, rfl⟩
    exact t.ofParts?_self

namespace WallClock

/-- The seconds from the start of the line to the second that the clock shows. -/
def seconds (w : WallClock) : Int := w.date.number * secondsPerDay + w.time.second

/-- The second is on some day of the calendar. -/
def OnCalendar (seconds : Int) : Prop :=
  Date.first.number * secondsPerDay ≤ seconds ∧ seconds < (Date.last.number + 1) * secondsPerDay

instance (seconds : Int) : Decidable (OnCalendar seconds) := instDecidableAnd

theorem secondsPerDay_eq : (secondsPerDay : Int) = 86400 := rfl

theorem second_lt_day (w : WallClock) : (w.time.second : Int) < secondsPerDay :=
  Int.ofNat_lt.mpr w.time.second_lt

theorem ext_seconds {w v : WallClock} (hseconds : w.seconds = v.seconds)
    (hnanosecond : w.time.nanosecond = v.time.nanosecond) : w = v := by
  have hw := w.second_lt_day
  have hv := v.second_lt_day
  simp only [seconds, secondsPerDay_eq] at hseconds hw hv
  have hdate : w.date = v.date := Date.number_injective (by omega)
  have hsecond : w.time.second = v.time.second := by omega
  obtain ⟨_, _, _⟩ := w
  obtain ⟨_, _, _⟩ := v
  grind

theorem onCalendar_seconds (w : WallClock) : OnCalendar w.seconds := by
  have hfirst := w.date.number_first_le
  have hlast := w.date.number_le_last
  have hsecond := w.second_lt_day
  simp only [OnCalendar, seconds, secondsPerDay_eq] at hsecond ⊢
  omega

/-- Every second on the calendar is shown by a clock, with any fraction. -/
theorem exists_seconds_eq {n : Int} (h : OnCalendar n) {nanosecond : Nat}
    (hnanosecond : nanosecond < 2000000000) :
    ∃ w : WallClock, w.seconds = n ∧ w.time.nanosecond = nanosecond := by
  simp only [OnCalendar, secondsPerDay_eq] at h
  obtain ⟨d, hd⟩ := Date.exists_number_eq (n := n / 86400) (by omega) (by omega)
  have hsecond : (n % 86400).toNat < secondsPerDay := by
    unfold secondsPerDay
    omega
  refine ⟨⟨d, ⟨_, nanosecond, hsecond, hnanosecond⟩⟩, ?_, rfl⟩
  simp only [seconds, secondsPerDay_eq, hd]
  omega

/-- **The order of wall clocks** is that of their seconds, and then of the fractions. -/
theorem compare_eq (w v : WallClock) :
    w.compare v = (Ord.compare w.seconds v.seconds).then
      (Ord.compare w.time.nanosecond v.time.nanosecond) := by
  have hw := w.second_lt_day
  have hv := v.second_lt_day
  have hseconds : Ord.compare w.seconds v.seconds =
      (Ord.compare w.date.number v.date.number).then
        (Ord.compare w.time.second v.time.second) := by
    simp only [seconds, secondsPerDay_eq] at hw hv ⊢
    cases h : (Ord.compare w.date.number v.date.number).then
      (Ord.compare w.time.second v.time.second) with
    | lt =>
      rw [Ordering.then_eq_lt, Int.compare_eq_lt, Int.compare_eq_eq, Nat.compare_eq_lt] at h
      rw [Int.compare_eq_lt]
      omega
    | eq =>
      rw [Ordering.then_eq_eq, Int.compare_eq_eq, Nat.compare_eq_eq] at h
      rw [Int.compare_eq_eq]
      omega
    | gt =>
      rw [Ordering.then_eq_gt, Int.compare_eq_gt, Int.compare_eq_eq, Nat.compare_eq_gt] at h
      rw [Int.compare_eq_gt]
      omega
  rw [hseconds, Ordering.then_assoc, compare, Date.compare_eq, TimeOfDay.compare]

theorem compare_eq_eq_iff (w v : WallClock) : w.compare v = .eq ↔ w = v := by
  rw [compare_eq, Ordering.then_eq_eq, Int.compare_eq_eq, Nat.compare_eq_eq]
  constructor
  · rintro ⟨hseconds, hnanosecond⟩
    exact ext_seconds hseconds hnanosecond
  · rintro rfl
    exact ⟨rfl, rfl⟩

/-! ### Shifts -/

/-- The day of a second counted from the midnight of another, if that is a neighbour. -/
def dayOf? (d : Date) (second : Int) : Option Date :=
  if second < 0 then d.previous? else if second < secondsPerDay then some d else d.next?

theorem dayOf?_eq_some_iff (d e : Date) {second : Int} (hlow : -secondsPerDay ≤ second)
    (hhigh : second < 2 * secondsPerDay) :
    dayOf? d second = some e ↔ e.number = d.number + second / secondsPerDay := by
  have hday := secondsPerDay_eq
  rw [hday] at hlow hhigh ⊢
  unfold dayOf?
  split
  · rw [Date.previous?_eq_some_iff]
    omega
  · split
    · have hsame : second / 86400 = 0 := by omega
      rw [hsame, Int.add_zero, Option.some.injEq]
      exact ⟨fun h => h ▸ rfl, fun h => Date.number_injective h.symm⟩
    · rw [Date.next?_eq_some_iff]
      omega

theorem shift?_eq_some_iff_parts {w v : WallClock} {s : Int} :
    w.shift? s = some v ↔
      dayOf? w.date (w.time.second + s) = some v.date ∧
        TimeOfDay.ofParts? ((w.time.second + s) % secondsPerDay).toNat w.time.nanosecond =
          some v.time := by
  have hparts (date : Option Date) (time : Option TimeOfDay) :
      (date.bind fun d => time.bind fun t => some (⟨d, t⟩ : WallClock)) = some v ↔
        date = some v.date ∧ time = some v.time := by
    cases date with
    | none => exact ⟨nofun, nofun⟩
    | some d =>
      cases time with
      | none => exact ⟨nofun, nofun⟩
      | some t =>
        cases v
        simp
  simp only [shift?, dayOf?]
  by_cases hback : w.time.second + s < 0
  · simp only [if_pos hback]
    exact hparts ..
  · by_cases hsame : w.time.second + s < secondsPerDay
    · simp only [if_neg hback, if_pos hsame]
      exact hparts ..
    · simp only [if_neg hback, if_neg hsame]
      exact hparts ..

/-- **To shift a clock is to add to its seconds.** The fraction stays, that of a leap second too. -/
theorem shift?_eq_some_iff {w v : WallClock} {s : Int} (hs : s.natAbs < secondsPerDay) :
    w.shift? s = some v ↔
      v.seconds = w.seconds + s ∧ v.time.nanosecond = w.time.nanosecond := by
  have hw := w.second_lt_day
  have hv := v.second_lt_day
  rw [shift?_eq_some_iff_parts, dayOf?_eq_some_iff _ _ (by omega) (by omega),
    TimeOfDay.ofParts?_eq_some_iff]
  simp only [seconds, secondsPerDay_eq] at hw hv ⊢
  omega

/-- **A shift has an answer** just when it does not lead past the ends of the calendar. -/
theorem isSome_shift?_iff (w : WallClock) {s : Int} (hs : s.natAbs < secondsPerDay) :
    (w.shift? s).isSome = true ↔ OnCalendar (w.seconds + s) := by
  rw [Option.isSome_iff_exists]
  constructor
  · rintro ⟨v, hv⟩
    exact ((shift?_eq_some_iff hs).mp hv).1 ▸ v.onCalendar_seconds
  · intro h
    obtain ⟨v, hv⟩ := exists_seconds_eq h w.time.nanosecond_lt
    exact ⟨v, (shift?_eq_some_iff hs).mpr hv⟩

end WallClock
end DocumentFilter
