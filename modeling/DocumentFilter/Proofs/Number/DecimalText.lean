import DocumentFilter.Number.DecimalText
import DocumentFilter.Proofs.Number.Digits

/-! Decimals that were written are read back.

What has been read when a digit is at hand is a front part of the coefficient, so it is below the
limit whenever the coefficient is, and the reader neither rounds nor cuts anything off. It counts
the digits after the point, of which a decimal writes as many as it has places. -/
namespace DocumentFilter.Decimal

open Digits (allDigits_fixed allDigits_toDigits appended appended_div appended_of_lt appended_succ
  appended_zero digit? digit?_digitChar exists_toDigits_eq_fixed fixed ne_of_digit? positional)

/-! ### Digits -/

theorem readWhole?_digit {c : Char} {value d : Nat} (hc : digit? c = some d)
    (hlt : value * 10 + d < limit) (started : Bool) (rest : List Char) :
    readWhole? value started (c :: rest) = readWhole? (value * 10 + d) true rest := by
  have hpoint : c ≠ '.' := ne_of_digit? hc (by decide)
  have hseparator : c ≠ '_' := ne_of_digit? hc (by decide)
  rw [readWhole?.eq_def]
  split
  · next h => exact absurd h (List.cons_ne_nil _ _)
  · next h => exact absurd (List.cons.inj h).1 hpoint
  · next h => exact absurd (List.cons.inj h).1 hseparator
  · next h =>
    cases h
    simp only [hc, bind, Option.bind_some, if_pos hlt]

theorem readFraction?_digit {c : Char} {value places d : Nat} (hc : digit? c = some d)
    (hlt : value * 10 + d < limit) (hplaces : places < maxScale) (started past : Bool)
    (rest : List Char) :
    readFraction? value places started past (c :: rest) =
      readFraction? (value * 10 + d) (places + 1) true false rest := by
  have hseparator : c ≠ '_' := ne_of_digit? hc (by decide)
  have hdigit : fractionDigit? c = some d := by
    rw [fractionDigit?, if_neg hseparator, hc]
  simp only [readFraction?, hdigit, bind, Option.bind_some, hseparator, decide_false,
    Bool.false_and, Bool.false_eq_true, if_false, hplaces, decide_true, Bool.true_or, hlt,
    Bool.true_and, if_true]

/-! ### Runs of digits -/

theorem readWhole?_fixed {width n value : Nat} (h : appended value width n < limit)
    (started : Bool) (rest : List Char) :
    readWhole? value started (fixed width n ++ rest) =
      readWhole? (appended value width n) (started || decide (0 < width)) rest := by
  induction width generalizing n rest with
  | zero =>
    rw [fixed, List.nil_append, appended_zero, decide_eq_false (Nat.lt_irrefl 0), Bool.or_false]
  | succ width ih =>
    rw [appended_succ] at h ⊢
    have hlast := readWhole?_digit (digit?_digitChar (Nat.mod_lt n (by decide))) h
      (started || decide (0 < width)) rest
    rw [fixed, List.append_assoc, List.singleton_append, ih (by omega), hlast,
      decide_eq_true (Nat.succ_pos width), Bool.or_true]

theorem readFraction?_fixed {width n value places : Nat} (h : appended value width n < limit)
    (hplaces : places + width ≤ maxScale) (rest : List Char) :
    readFraction? value places true false (fixed width n ++ rest) =
      readFraction? (appended value width n) (places + width) true false rest := by
  induction width generalizing n rest with
  | zero => rw [fixed, List.nil_append, appended_zero, Nat.add_zero]
  | succ width ih =>
    rw [appended_succ] at h ⊢
    have hnext : places + width < maxScale := hplaces
    have hlast := readFraction?_digit (digit?_digitChar (Nat.mod_lt n (by decide))) h hnext
      true false rest
    rw [fixed, List.append_assoc, List.singleton_append, ih (by omega) (by omega), hlast,
      Nat.add_assoc]

/-! ### Whole texts -/

theorem readWhole?_toDigits {n : Nat} (h : n < limit) (rest : List Char) :
    readWhole? 0 false (Nat.toDigits 10 n ++ rest) = readWhole? n true rest := by
  obtain ⟨width, hwidth, hn, hdigits⟩ := exists_toDigits_eq_fixed n
  have hvalue := appended_of_lt hn
  rw [hdigits, readWhole?_fixed (by rwa [hvalue]), hvalue, decide_eq_true hwidth, Bool.or_true]

/-- Before the point stand the front digits of the coefficient, behind it the last `places`. -/
theorem readWhole?_positional {coefficient places : Nat} (h : coefficient < limit)
    (hplaces : places ≤ maxScale) :
    readWhole? 0 false (positional coefficient places) = some (coefficient, places) := by
  have hwhole : coefficient / Nat.pow 10 places < limit :=
    Nat.lt_of_le_of_lt (Nat.div_le_self ..) h
  have hall := appended_div places coefficient
  rw [positional, readWhole?_toDigits hwhole]
  split
  · next hnone =>
    rw [hnone, Nat.pow_eq, Nat.pow_zero, Nat.div_one]
    rfl
  · have hfraction := readFraction?_fixed (by rwa [hall]) (by omega : 0 + places ≤ maxScale) []
    rw [List.append_nil, hall, Nat.zero_add] at hfraction
    rw [readWhole?, hfraction]
    rfl

theorem exists_positional_eq_cons (coefficient places : Nat) :
    ∃ c d rest, positional coefficient places = c :: rest ∧ digit? c = some d := by
  obtain ⟨c, d, rest, hcons, hc⟩ :=
    (allDigits_toDigits (coefficient / Nat.pow 10 places)).exists_eq_cons Nat.toDigits_ne_nil
  rw [positional, hcons]
  exact ⟨c, d, _, rfl, hc⟩

theorem readPlain?_minus (cs : List Char) :
    readPlain? ('-' :: cs) = (readWhole? 0 false cs).bind fun (coefficient, places) =>
      ofParts? (-(coefficient : Int)) (places % (maxScale + 1)) := rfl

/-- A text that starts with a digit has no sign to take off. -/
theorem readPlain?_digit {c : Char} {d : Nat} (hc : digit? c = some d) (rest : List Char) :
    readPlain? (c :: rest) = (readWhole? 0 false (c :: rest)).bind fun (coefficient, places) =>
      ofParts? coefficient (places % (maxScale + 1)) := by
  simp only [readPlain?]
  split
  · next h =>
    cases h
    cases hc
  · next h =>
    cases h
    cases hc
  · rfl

/-- A coefficient that fits is read with the sign before it. -/
theorem readPlain?_signed (negative : Bool) {coefficient places : Nat} (h : coefficient < limit)
    (hplaces : places ≤ maxScale) :
    readPlain? ((if negative then ['-'] else []) ++ positional coefficient places) =
      ofParts? (if negative then -(coefficient : Int) else coefficient) places := by
  have hread := readWhole?_positional h hplaces
  have hmod : places % (maxScale + 1) = places := Nat.mod_eq_of_lt (Nat.lt_succ_of_le hplaces)
  cases negative with
  | true =>
    rw [if_pos rfl, if_pos rfl, List.singleton_append, readPlain?_minus, hread, Option.bind_some]
    simp only [hmod]
  | false =>
    obtain ⟨c, digit, rest, hcons, hc⟩ := exists_positional_eq_cons coefficient places
    rw [hcons] at hread
    rw [if_neg Bool.false_ne_true, if_neg Bool.false_ne_true, List.nil_append, hcons,
      readPlain?_digit hc, hread, Option.bind_some]
    simp only [hmod]

theorem readPlain?_text (d : Decimal) : readPlain? d.text = some d := by
  have hself : ofParts? d.coefficient d.scale = some d := dif_pos ⟨d.natAbs_lt, d.scale_le⟩
  have hread := readPlain?_signed (decide (d.coefficient < 0)) d.natAbs_lt d.scale_le
  have hsign : (if d.coefficient < 0 then -(d.coefficient.natAbs : Int)
      else d.coefficient.natAbs) = d.coefficient := by
    split <;> omega
  simp only [decide_eq_true_eq, hsign, hself] at hread
  exact hread

/-- A decimal is read back from its text, coefficient and places. -/
theorem read?_text (d : Decimal) : read? d.text = some d := by
  rw [read?, d.readPlain?_text]
  rfl

/-! ### Blanks around the text -/

theorem isBlank_of_mem_text {d : Decimal} {c : Char} (hc : c ∈ d.text) :
    Text.isBlank c = false := by
  rw [text, positional, List.mem_append, List.mem_append] at hc
  rcases hc with hsign | hwhole | hfraction
  · split at hsign
    · rw [List.mem_singleton.mp hsign]
      decide
    · cases hsign
  · exact (allDigits_toDigits _).isBlank hwhole
  · split at hfraction
    · cases hfraction
    · rcases List.mem_cons.mp hfraction with rfl | hdigit
      · decide
      · exact (allDigits_fixed _ _).isBlank hdigit

theorem text_ne_nil (d : Decimal) : d.text ≠ [] := by
  obtain ⟨c, digit, rest, hcons, -⟩ := exists_positional_eq_cons d.coefficient.natAbs d.scale
  rw [text, hcons]
  exact List.append_ne_nil_of_right_ne_nil _ (List.cons_ne_nil c rest)

theorem skipBlanks_append {before word : List Char} (hbefore : ∀ c ∈ before, Text.isBlank c = true)
    (hword : ∀ c ∈ word, Text.isBlank c = false) (hne : word ≠ []) (rest : List Char) :
    Text.skipBlanks (before ++ (word ++ rest)) = word ++ rest := by
  rw [Text.skipBlanks, List.dropWhile_append_of_pos hbefore]
  cases word with
  | nil => exact absurd rfl hne
  | cons c word =>
    refine List.dropWhile_cons_of_neg ?_
    rw [hword c (List.mem_cons_self ..)]
    exact Bool.false_ne_true

theorem trim_append {before word after : List Char}
    (hbefore : ∀ c ∈ before, Text.isBlank c = true) (hword : ∀ c ∈ word, Text.isBlank c = false)
    (hne : word ≠ []) (hafter : ∀ c ∈ after, Text.isBlank c = true) :
    Text.trim (before ++ (word ++ after)) = word := by
  -- the blanks behind the word are skipped in the reversed text, where nothing follows the word
  have hreverse : Text.skipBlanks (after.reverse ++ (word.reverse ++ [])) = word.reverse ++ [] :=
    skipBlanks_append (fun c hc => hafter c (List.mem_reverse.mp hc))
      (fun c hc => hword c (List.mem_reverse.mp hc))
      (fun h => hne (List.reverse_eq_nil_iff.mp h)) []
  rw [List.append_nil] at hreverse
  rw [Text.trim, skipBlanks_append hbefore hword hne, List.reverse_append, hreverse,
    List.reverse_reverse]

theorem trim_text (d : Decimal) {before after : List Char}
    (hbefore : ∀ c ∈ before, Text.isBlank c = true)
    (hafter : ∀ c ∈ after, Text.isBlank c = true) :
    Text.trim (before ++ (d.text ++ after)) = d.text :=
  trim_append hbefore (fun _ => isBlank_of_mem_text) d.text_ne_nil hafter

end DocumentFilter.Decimal
