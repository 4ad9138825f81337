import DocumentFilter.Document.Json
import DocumentFilter.Document.Order
import DocumentFilter.Proofs.Calendar.ReadBack
import DocumentFilter.Proofs.Document.Mirror
import DocumentFilter.Proofs.Number.DecimalText
import DocumentFilter.Proofs.Number.Rational

/-! The text that a value is written as stands for the value beside its own kind.

Dates, timestamps and decimals become text in JSON. Beside a value of the kind that was written,
alignment reads the text and gives the value that it came from, with nothing lost and nothing
taken over from the other side. -/
namespace DocumentFilter

namespace Value

/-! ### Dates and timestamps -/

theorem toDate_text (d : Date) : toDate (String.ofList d.text) = date d := by
  rw [toDate, String.toList_ofList, d.read?_text]
  rfl

/-- The zone of the other side is lent to a naive text only, so it changes nothing when both sides
have one or neither does. -/
theorem toTimestamp_text {t other : Timestamp} (ht : t.Writable)
    (hzone : other.offset.isSome = t.offset.isSome) :
    toTimestamp other (String.ofList t.text) = datetime t := by
  have hbeside : timestampBeside? other (String.ofList t.text) = some t := by
    rw [timestampBeside?, String.toList_ofList, Timestamp.read?_text ht, Option.map_some]
    cases hown : t.offset with
    | some offset => rfl
    | none =>
      rw [hown] at hzone
      have hother : other.offset = none :=
        Option.isNone_iff_eq_none.mp (Option.isSome_eq_false_iff.mp hzone)
      rw [hother]
  rw [toTimestamp, hbeside]
  rfl

/-- Both are dates, both naive timestamps or both zoned ones. -/
inductive SameTimeKind : Value → Value → Prop where
  | dates (d e : Date) : SameTimeKind (date d) (date e)
  | naive {t u : Timestamp} (ht : t.offset = none) (hu : u.offset = none) :
      SameTimeKind (datetime t) (datetime u)
  | zoned {t u : Timestamp} (ht : t.offset.isSome = true) (hu : u.offset.isSome = true) :
      SameTimeKind (datetime t) (datetime u)

theorem SameTimeKind.align_text {x y : Value} (hkind : SameTimeKind x y)
    (hy : ∀ t, y = datetime t → t.Writable) :
    ∃ s, y.toJson = .string s ∧ x.align (string s) = (x, y) := by
  cases hkind with
  | dates d e =>
    refine ⟨String.ofList e.text, rfl, ?_⟩
    rw [align, toDate_text]
  | @naive t u ht hu =>
    refine ⟨String.ofList u.text, rfl, ?_⟩
    rw [align, toTimestamp_text (hy u rfl) (by rw [ht, hu])]
  | @zoned t u ht hu =>
    refine ⟨String.ofList u.text, rfl, ?_⟩
    rw [align, toTimestamp_text (hy u rfl) (by rw [ht, hu])]

/-- **Dates and timestamps survive their text.** Beside a value of its own kind, the text that a
date or a timestamp was written as becomes the same date or timestamp again, wall clock and offset,
and the other side stays as it is; so the two stand in the order and in the equality that they
had. -/
theorem align_written_time {x y : Value} (hkind : SameTimeKind x y)
    (hy : ∀ t, y = datetime t → t.Writable) :
    ∃ s, y.toJson = .string s ∧ x.align (string s) = (x, y) ∧ (string s).align x = (y, x) ∧
      (let (a, b) := x.align (string s);
        a.compare b = x.compare y ∧ a.equals b = x.equals y) ∧
      (let (b, a) := (string s).align x;
        b.compare a = y.compare x ∧ b.equals a = y.equals x) := by
  obtain ⟨s, hs, halign⟩ := hkind.align_text hy
  have hswap : (string s).align x = (y, x) := by
    rw [align_swap, halign]
    rfl
  refine ⟨s, hs, halign, hswap, ?_, ?_⟩
  · rw [halign]
    exact ⟨rfl, rfl⟩
  · rw [hswap]
    exact ⟨rfl, rfl⟩

/-- A year with a sign, a leap second with a fraction and an offset that is no whole number of
hours. -/
theorem align_written_leap_second :
    let x : Value := datetime ⟨⟨⟨2024, 2, 29, by decide, by decide⟩, .midnight⟩, some .universal⟩
    let t : Timestamp := ⟨⟨⟨-44, 3, 15, by decide, by decide⟩,
      ⟨86399, 1500000000, by decide, by decide⟩⟩, some ⟨19800, by decide⟩⟩
    let s := "-0044-03-15T23:59:60.500+05:30"
    t.Writable ∧ (datetime t).toJson = .string s ∧ x.align (string s) = (x, datetime t) ∧
      (string s).align x = (datetime t, x) := by
  intro x t s
  have hwritable : t.Writable := by
    refine ⟨fun _ => (by decide : 86399 % 60 = 59), ?_, fun _ => by decide⟩
    rintro _ ⟨⟩
    exact (by decide : (19800 : Int) % 60 = 0)
  have htext : (datetime t).toJson = .string s := congrArg Json.string (by decide)
  have hkind : SameTimeKind x (datetime t) := .zoned rfl rfl
  obtain ⟨s', hs', hright, hleft, -⟩ :=
    align_written_time hkind (by rintro _ ⟨⟩; exact hwritable)
  cases htext.symm.trans hs'
  exact ⟨hwritable, htext, hright, hleft⟩

/-! ### Decimals -/

theorem toDecimal_text (d : Decimal) {before after : String}
    (hbefore : ∀ c ∈ before.toList, Text.isBlank c = true)
    (hafter : ∀ c ∈ after.toList, Text.isBlank c = true) :
    (string (before ++ String.ofList d.text ++ after)).toDecimal = decimal d := by
  have htrim : Text.trim (before ++ String.ofList d.text ++ after).toList = d.text := by
    rw [String.toList_append, String.toList_append, String.toList_ofList, List.append_assoc,
      d.trim_text hbefore hafter]
  rw [toDecimal, decimalOf?, htrim, d.read?_text]
  rfl

theorem compare_decimals (d e : Decimal) :
    (decimal d).compare (decimal e) = some (cmp d.toRat e.toRat) :=
  congrArg some (d.compare_eq_cmp e)

theorem equals_decimals_iff (d e : Decimal) :
    (decimal d).equals (decimal e) = true ↔ d.toRat = e.toRat := by
  rw [← d.compare_eq_eq_iff e]
  show (some (d.compare e) == some .eq) = true ↔ _
  rw [beq_iff_eq, Option.some.injEq]

/-- **Decimals survive their text**, blanks around it or not. Beside a decimal, the text that a
decimal was written as becomes the same coefficient and places again, and the two compare as the
numbers do. -/
theorem align_written_decimal (x y : Decimal) :
    ∃ s, (decimal y).toJson = .string s ∧
      ∀ before after : String, (∀ c ∈ before.toList, Text.isBlank c = true) →
        (∀ c ∈ after.toList, Text.isBlank c = true) →
        let padded := string (before ++ s ++ after)
        (decimal x).align padded = (decimal x, decimal y) ∧
          padded.align (decimal x) = (decimal y, decimal x) ∧
          (let (a, b) := (decimal x).align padded;
            a.compare b = some (cmp x.toRat y.toRat) ∧
              (a.equals b = true ↔ x.toRat = y.toRat)) ∧
          (let (b, a) := padded.align (decimal x);
            b.compare a = some (cmp y.toRat x.toRat) ∧
              (b.equals a = true ↔ y.toRat = x.toRat)) := by
  refine ⟨String.ofList y.text, rfl, ?_⟩
  intro before after hbefore hafter padded
  have halign : (decimal x).align padded = (decimal x, decimal y) :=
    congrArg (Prod.mk (decimal x)) (toDecimal_text y hbefore hafter)
  have hswap : padded.align (decimal x) = (decimal y, decimal x) := by
    rw [align_swap, halign]
    rfl
  refine ⟨halign, hswap, ?_, ?_⟩
  · rw [halign]
    exact ⟨compare_decimals x y, equals_decimals_iff x y⟩
  · rw [hswap]
    exact ⟨compare_decimals y x, equals_decimals_iff y x⟩

/-- The widest coefficient with the most places, between a no-break space and an ideographic
one. -/
theorem align_written_decimal_widest :
    let x : Decimal := ⟨-8, 0, by decide, by decide⟩
    let y : Decimal := ⟨-79228162514264337593543950335, 28, by decide, by decide⟩
    let padded := string "\u00a0-7.9228162514264337593543950335\u3000"
    (decimal y).toJson = .string "-7.9228162514264337593543950335" ∧
      (decimal x).align padded = (decimal x, decimal y) ∧
      padded.align (decimal x) = (decimal y, decimal x) := by
  intro x y padded
  have htext : (decimal y).toJson = .string "-7.9228162514264337593543950335" :=
    congrArg Json.string (by decide)
  obtain ⟨s, hs, halign⟩ := align_written_decimal x y
  cases htext.symm.trans hs
  obtain ⟨hright, hleft, -⟩ := halign "\u00a0" "\u3000"
    (List.forall_mem_singleton.mpr rfl) (List.forall_mem_singleton.mpr rfl)
  exact ⟨htext, hright, hleft⟩

end Value

end DocumentFilter
