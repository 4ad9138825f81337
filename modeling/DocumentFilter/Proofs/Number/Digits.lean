import DocumentFilter.Number.Digits
import DocumentFilter.Text.Blank

/-! Digits that were written are read as the number.

Every writer of numbers puts down a run of digits of some width, so one statement about such
runs serves all readers: the digits of `n` in a width append `n` to what was read before, and
nothing is lost when the width is large enough. -/
namespace DocumentFilter.Digits

/-! ### Single digits -/

theorem digit?_digitChar {d : Nat} (h : d < 10) : digit? (Nat.digitChar d) = some d := by
  revert d
  decide

theorem toNat_of_digit? {c : Char} {d : Nat} (h : digit? c = some d) :
    48 ≤ c.toNat ∧ c.toNat ≤ 57 := by
  unfold digit? at h
  split at h
  · next hc =>
    simp only [Char.le_def, UInt32.le_iff_toNat_le] at hc
    exact hc
  · cases h

theorem isBlank_of_digit? {c : Char} {d : Nat} (h : digit? c = some d) :
    Text.isBlank c = false := by
  have hc := toNat_of_digit? h
  simp only [Text.isBlank, Bool.or_eq_false_iff, Bool.and_eq_false_iff, beq_eq_false_iff_ne,
    decide_eq_false_iff_not]
  omega

theorem ne_of_digit? {c other : Char} {d : Nat} (h : digit? c = some d)
    (hother : digit? other = none) : c ≠ other := by
  rintro rfl
  rw [h] at hother
  cases hother

/-! ### Runs of digits -/

/-- All characters are digits. -/
def AllDigits (cs : List Char) : Prop := ∀ c ∈ cs, (digit? c).isSome = true

/-- The text does not go on with a digit. -/
def NoDigitFirst (cs : List Char) : Prop := ∀ c ∈ cs.head?, digit? c = none

theorem noDigitFirst_nil : NoDigitFirst [] := nofun

theorem noDigitFirst_cons {c : Char} (h : digit? c = none) (rest : List Char) :
    NoDigitFirst (c :: rest) := by
  rintro _ ⟨⟩
  exact h

theorem takeWhile_eq_nil_of_noDigitFirst {cs : List Char} (h : NoDigitFirst cs) :
    (cs.takeWhile fun c => (digit? c).isSome) = [] := by
  cases cs with
  | nil => rfl
  | cons c rest =>
    refine List.takeWhile_cons_of_neg ?_
    rw [h c rfl]
    exact Bool.false_ne_true

/-- The digits at the front of a text are the run that it starts with. -/
theorem takeWhile_digits_append {ds rest : List Char} (hds : AllDigits ds)
    (hrest : NoDigitFirst rest) :
    ((ds ++ rest).takeWhile fun c => (digit? c).isSome) = ds := by
  rw [List.takeWhile_append_of_pos hds, takeWhile_eq_nil_of_noDigitFirst hrest, List.append_nil]

theorem AllDigits.exists_eq_cons {ds : List Char} (h : AllDigits ds) (hne : ds ≠ []) :
    ∃ c d rest, ds = c :: rest ∧ digit? c = some d := by
  cases ds with
  | nil => exact absurd rfl hne
  | cons c rest =>
    obtain ⟨d, hd⟩ := Option.isSome_iff_exists.mp (h c (List.mem_cons_self ..))
    exact ⟨c, d, rest, rfl, hd⟩

theorem AllDigits.isBlank {ds : List Char} (h : AllDigits ds) {c : Char} (hc : c ∈ ds) :
    Text.isBlank c = false := by
  obtain ⟨d, hd⟩ := Option.isSome_iff_exists.mp (h c hc)
  exact isBlank_of_digit? hd

/-- What is dropped at the front of a text stops at its first digit. -/
theorem dropWhile_digits_append {p : Char → Bool} (hp : ∀ c d, digit? c = some d → p c = false)
    {ds : List Char} (hds : AllDigits ds) (hne : ds ≠ []) (rest : List Char) :
    (ds ++ rest).dropWhile p = ds ++ rest := by
  obtain ⟨c, d, tail, rfl, hd⟩ := hds.exists_eq_cons hne
  refine List.dropWhile_cons_of_neg ?_
  rw [hp c d hd]
  exact Bool.false_ne_true

theorem skipBlanks_digits_append {ds : List Char} (hds : AllDigits ds) (hne : ds ≠ [])
    (rest : List Char) : Text.skipBlanks (ds ++ rest) = ds ++ rest :=
  dropWhile_digits_append (fun _ _ => isBlank_of_digit?) hds hne rest

/-! ### Numbers of a fixed width -/

theorem allDigits_fixed (width n : Nat) : AllDigits (fixed width n) := by
  induction width generalizing n with
  | zero => exact nofun
  | succ width ih =>
    intro c hc
    rcases List.mem_append.mp hc with hc | hc
    · exact ih (n / 10) c hc
    · rw [List.mem_singleton.mp hc, digit?_digitChar (Nat.mod_lt n (by decide))]
      rfl

theorem fixed_ne_nil {width : Nat} (h : 0 < width) (n : Nat) : fixed width n ≠ [] := by
  intro hnil
  have hlength := length_fixed width n
  rw [hnil] at hlength
  exact absurd hlength (Nat.ne_of_lt h)

theorem pow_succ (width : Nat) : Nat.pow 10 (width + 1) = Nat.pow 10 width * 10 := rfl

/-- A number with the last `width` digits of another one behind it. -/
def appended (value width n : Nat) : Nat := value * Nat.pow 10 width + n % Nat.pow 10 width

theorem appended_zero (value n : Nat) : appended value 0 n = value := by
  rw [appended, Nat.pow_eq, Nat.pow_zero, Nat.mod_one, Nat.mul_one, Nat.add_zero]

theorem appended_succ (value width n : Nat) :
    appended value (width + 1) n = appended value width (n / 10) * 10 + n % 10 := by
  have hmod : n % Nat.pow 10 (width + 1) = n / 10 % Nat.pow 10 width * 10 + n % 10 := by
    rw [pow_succ, Nat.mul_comm, Nat.mod_mul]
    omega
  rw [appended, appended, hmod, pow_succ, ← Nat.mul_assoc]
  omega

theorem appended_of_lt {width n : Nat} (hn : n < Nat.pow 10 width) : appended 0 width n = n := by
  rw [appended, Nat.mod_eq_of_lt hn, Nat.zero_mul, Nat.zero_add]

/-- A number is its front digits with its last ones behind them. -/
theorem appended_div (width n : Nat) : appended (n / Nat.pow 10 width) width n = n :=
  Nat.div_add_mod' ..

/-- A number followed by one more digit. -/
def appendDigit (value : Nat) (c : Char) : Option Nat := (digit? c).map fun d => value * 10 + d

theorem number?_of_ne_nil {cs : List Char} (h : cs ≠ []) :
    number? cs = cs.foldlM appendDigit 0 := by
  cases cs with
  | nil => exact absurd rfl h
  | cons c rest => rfl

theorem foldlM_fixed (width n value : Nat) :
    (fixed width n).foldlM appendDigit value = some (appended value width n) := by
  induction width generalizing n with
  | zero => rw [fixed, appended_zero, List.foldlM_nil]; rfl
  | succ width ih =>
    rw [fixed, List.foldlM_append, ih, appended_succ]
    simp only [bind, Option.bind_some, List.foldlM_cons, List.foldlM_nil, appendDigit,
      digit?_digitChar (Nat.mod_lt n (by decide : 0 < 10)), Option.map_some, pure]

theorem number?_fixed {width n : Nat} (hwidth : 0 < width) (hn : n < Nat.pow 10 width) :
    number? (fixed width n) = some n := by
  rw [number?_of_ne_nil (fixed_ne_nil hwidth n), foldlM_fixed, appended_of_lt hn]

/-! ### Numbers of any width -/

/-- Without padding a number has the width that it needs. -/
theorem exists_toDigits_eq_fixed (n : Nat) :
    ∃ width, 0 < width ∧ n < Nat.pow 10 width ∧ Nat.toDigits 10 n = fixed width n := by
  induction n using Nat.strongRecOn with
  | ind n ih =>
    by_cases h : n < 10
    · refine ⟨1, by decide, h, ?_⟩
      rw [Nat.toDigits_of_lt_base h, fixed, fixed, Nat.mod_eq_of_lt h]
      rfl
    · obtain ⟨width, -, hlt, hdigits⟩ := ih (n / 10) (by omega)
      refine ⟨width + 1, Nat.succ_pos width, ?_, ?_⟩
      · rw [pow_succ]
        omega
      · rw [Nat.toDigits_of_base_le (by decide) (Nat.le_of_not_lt h), hdigits, fixed]

theorem allDigits_toDigits (n : Nat) : AllDigits (Nat.toDigits 10 n) := by
  obtain ⟨width, -, -, hdigits⟩ := exists_toDigits_eq_fixed n
  rw [hdigits]
  exact allDigits_fixed width n

theorem exists_padded_eq_fixed {width : Nat} (hwidth : 0 < width) (n : Nat) :
    ∃ wide, 0 < wide ∧ n < Nat.pow 10 wide ∧ padded width n = fixed wide n := by
  unfold padded
  split
  · next h => exact ⟨width, hwidth, h, rfl⟩
  · exact exists_toDigits_eq_fixed n

end DocumentFilter.Digits
