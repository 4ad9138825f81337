import DocumentFilter.Proofs.Document.Equality
import DocumentFilter.Proofs.Filter.SelfMatch
import DocumentFilter.Proofs.Number.ShortDecimals

/-! Numbers at a leaf and inside an array.

At a leaf a float beside a decimal is aligned: it becomes the decimal of its shortest text. Inside
an array nothing is aligned, and the comparison itself takes the float over its significand, which
keeps about sixteen digits. Where both roads lead to one number it makes no difference where the
float stands. They do for floats that are exactly a decimal of up to fifteen digits; where they
part, so do the answers. -/
namespace DocumentFilter

/-! ### The two roads to a decimal -/

/-- If the shortest text of the float denotes a decimal, the road over the significand leads to the
same number. -/
def Binary64.RoadsMeet (x : Binary64) : Prop :=
  ∀ s, Decimal.ofShortest? x = some s → ∃ d, Decimal.ofBinary? x = some d ∧ d.toRat = s.toRat

/-- The roads of a float meet at the decimal that it is, if that has few digits. -/
theorem Binary64.roadsMeet_of_denotes {x : Binary64} {e : Decimal} (he : e.Denotes x)
    (hlt : e.coefficient.natAbs < 2 ^ 52) : x.RoadsMeet := by
  have hunits : magnitudeUnits x.magnitude * 10 ^ e.scale = e.coefficient.natAbs * unitsOfOne := by
    have habs := congrArg Int.natAbs he
    rw [Int.natAbs_mul, Int.natAbs_mul, Int.natAbs_pow, natAbs_units] at habs
    exact habs.symm
  have h : IsShort x.magnitude e.coefficient.natAbs e.scale := ⟨hunits, hlt, e.scale_le⟩
  obtain ⟨s, hs, hshortest⟩ := Decimal.exists_ofShortest?_eq h
  obtain ⟨d, hd, hbinary⟩ := Decimal.exists_ofBinary?_eq h
  intro s' hs'
  obtain rfl : s = s' := Option.some.inj (hs.symm.trans hs')
  exact ⟨d, hd, Decimal.toRat_eq_of_denotes hbinary hshortest⟩

namespace Value

/-- The roads of a float meet just when it compares with every decimal as its own decimal does. -/
theorem roadsMeet_iff (x : Binary64) :
    x.RoadsMeet ↔
      ∀ d, (float x).toDecimal.compare (decimal d) = (float x).compare (decimal d) := by
  have hbare (d : Decimal) :
      (float x).compare (decimal d) = (Decimal.ofBinary? x).map fun e => e.compare d := rfl
  cases hs : Decimal.ofShortest? x with
  | none =>
    have hself : (float x).toDecimal = float x := by
      rw [toDecimal, decimalOf?, hs]
      rfl
    rw [hself]
    refine iff_of_true (fun s hs' => ?_) fun _ => rfl
    rw [hs] at hs'
    cases hs'
  | some s =>
    have haligned (d : Decimal) :
        (float x).toDecimal.compare (decimal d) = some (s.compare d) := by
      rw [toDecimal, decimalOf?, hs]
      rfl
    constructor
    · intro h d
      obtain ⟨e, he, hvalue⟩ := h s hs
      rw [haligned, hbare, he, Option.map_some, s.compare_eq_cmp, e.compare_eq_cmp, hvalue]
    · rintro h s' hs'
      obtain rfl : s = s' := Option.some.inj (hs.symm.trans hs')
      have htie : s.compare s = .eq := (s.compare_eq_eq_iff s).mpr rfl
      have hmap := (h s).symm.trans (haligned s)
      rw [hbare, htie, Option.map_eq_some_iff] at hmap
      obtain ⟨e, he, heq⟩ := hmap
      exact ⟨e, he, (e.compare_eq_eq_iff s).mp heq⟩

/-! ### Alignment of numbers -/

/-- One of the values is the float, the other a decimal. -/
def FloatBesideDecimal (a b : Value) (x : Binary64) : Prop :=
  ∃ d, a = float x ∧ b = decimal d ∨ a = decimal d ∧ b = float x

theorem isNumber_toDecimal {v : Value} (h : v.isNumber = true) : v.toDecimal.isNumber = true := by
  rw [toDecimal]
  cases v.decimalOf? with
  | none => exact h
  | some _ => rfl

section
variable {a b : Value} (ha : a.isNumber = true) (hb : b.isNumber = true)
include ha hb

theorem isNumber_align : (a.align b).1.isNumber = true := by
  cases a with
  | decimal d => cases b <;> rfl
  | integer _ | float _ =>
    cases b with
    | decimal _ => exact isNumber_toDecimal ha
    | integer _ | float _ => rfl
    | _ => cases hb
  | _ => cases ha

variable (hroads : ∀ x, FloatBesideDecimal a b x → x.RoadsMeet)
include hroads

theorem compare_align : (a.align b).1.compare (a.align b).2 = a.compare b := by
  cases a with
  | integer m =>
    cases b with
    | integer _ | float _ | decimal _ => rfl
    | _ => cases hb
  | float x =>
    cases b with
    | integer _ | float _ => rfl
    | decimal d => exact (roadsMeet_iff x).mp (hroads x ⟨d, .inl ⟨rfl, rfl⟩⟩) d
    | _ => cases hb
  | decimal d =>
    cases b with
    | integer _ | decimal _ => rfl
    | float x =>
      have hmeet := (roadsMeet_iff x).mp (hroads x ⟨d, .inr ⟨rfl, rfl⟩⟩) d
      show (decimal d).compare (float x).toDecimal = _
      rw [compare_swap _ (decimal d), hmeet, ← compare_swap]
    | _ => cases hb
  | _ => cases ha

theorem equals_align : (a.align b).1.equals (a.align b).2 = a.equals b := by
  obtain ⟨m, hm⟩ := Option.isSome_iff_exists.mp ha
  obtain ⟨n, hn⟩ := Option.isSome_iff_exists.mp (isNumber_align ha hb)
  rw [Bool.eq_iff_iff, equals_iff_of_number hm, equals_iff_of_number hn,
    compare_align ha hb hroads]

end

/-! ### Numbers in fields -/

/-- A number offers nothing but itself. -/
theorem equalAt_number_iff {w : Value} (hw : w.isNumber = true) (operand : Value) :
    EqualAt operand w [] ↔ w.matchesOperand operand = true := by
  rw [equalAt_nil_iff]
  constructor
  · rintro ⟨v, hv, hmatch⟩
    rcases eq_or_lt_of_mem_landings w _ hv with heq | ⟨_, _, rfl, -⟩
    · rwa [Landing.reached.inj heq] at hmatch
    · cases hw
  · exact fun h => ⟨w, self_mem_landings w, h⟩

/-- An array is asked, and then its items are. -/
theorem equalAt_array_iff (items : List Value) (operand : Value) :
    EqualAt operand (array items) [] ↔
      (array items).matchesOperand operand = true ∨ ∃ item ∈ items, EqualAt operand item [] := by
  simp only [equalAt_nil_iff, landings_array_nil, List.mem_cons, List.mem_flatMap,
    Landing.reached.injEq]
  constructor
  · rintro ⟨w, rfl | ⟨item, hitem, hw⟩, hmatch⟩
    · exact .inl hmatch
    · exact .inr ⟨item, hitem, w, hw, hmatch⟩
  · rintro (hmatch | ⟨item, hitem, w, hw, hmatch⟩)
    · exact ⟨_, .inl rfl, hmatch⟩
    · exact ⟨w, .inr ⟨item, hitem, hw⟩, hmatch⟩

/-- Between arrays of one number the numbers decide, as they are. -/
theorem equalAt_singleton_iff {w : Value} (hw : w.isNumber = true) (v : Value) :
    EqualAt (array [v]) (array [w]) [] ↔ w.equals v = true := by
  have hitem : w.equals (array [v]) = false := by
    obtain ⟨m, hm⟩ := Option.isSome_iff_exists.mp hw
    rw [equals_of_number hm]
    rfl
  have hitems : (array [w]).equals (array [v]) = (w.equals v && true) := rfl
  rw [equalAt_array_iff, matchesOperand_array, hitems, Bool.and_true]
  refine or_iff_left ?_
  rintro ⟨item, hmem, h⟩
  obtain rfl := List.mem_singleton.mp hmem
  rw [equalAt_number_iff hw, matchesOperand_array, hitem] at h
  exact Bool.false_ne_true h

end Value

/-- A field asks what is under its key. -/
theorem Filter.accepts_field_iff {key : String} (hdots : '.' ∉ key.toList)
    (hkey : Connective.ofWord? key = none) {v : Value}
    (hv : ∀ entries, v = .object entries → isExpression entries = false) (w : Value) :
    (Filter.ofQuery (.object [(key, v)])).accepts (.object [(key, w)]) = true ↔
      EqualAt v w [] := by
  have hget : Entries.get? [(key, w)] key = some w := by
    rw [Entries.get?_cons, if_pos rfl]
  exact (selects_fieldQuery_literal hkey hv _).trans (equalAt_ofName_iff hdots hget v)

/-- **A number compares inside an array as it does at a leaf**, where it is aligned first. The
exceptions are floats beside decimals, and only those whose two roads to a decimal part. They do not
part for a float that is exactly a decimal with a coefficient below `2 ^ 52`. -/
theorem Value.align_numbers {a b : Value} (ha : a.isNumber = true) (hb : b.isNumber = true)
    (hroads : ∀ x, FloatBesideDecimal a b x → x.RoadsMeet) :
    (let (a', b') := a.align b;
      a'.compare b' = a.compare b ∧ a'.equals b' = a.equals b) ∧
      (∀ key : String, '.' ∉ key.toList → Connective.ofWord? key = none →
        ((Filter.ofQuery (.object [(key, b)])).accepts (.object [(key, a)]) = true ↔
          (Filter.ofQuery (.object [(key, .array [b])])).accepts
            (.object [(key, .array [a])]) = true)) ∧
      ∀ (x : Binary64) (e : Decimal), e.Denotes x → e.coefficient.natAbs < 2 ^ 52 →
        x.RoadsMeet := by
  refine ⟨⟨compare_align ha hb hroads, equals_align ha hb hroads⟩, fun key hdots hkey => ?_,
    fun _ _ => Binary64.roadsMeet_of_denotes⟩
  have hleaf : a.matchesOperand b = a.equals b := by
    rw [← equals_align ha hb hroads]
    cases a with
    | string _ => cases ha
    | _ => rfl
  have hb' : ∀ entries, b = .object entries → isExpression entries = false := by
    rintro _ rfl
    cases hb
  have harray : ∀ entries, array [b] = .object entries → isExpression entries = false := nofun
  rw [Filter.accepts_field_iff hdots hkey hb', Filter.accepts_field_iff hdots hkey harray,
    equalAt_number_iff ha, equalAt_singleton_iff ha, hleaf]

/-- Two and a half as a float, beside a decimal with more places. -/
theorem Value.align_numbers_of_fraction :
    let a : Value := .float ⟨0x4004000000000000⟩
    let b : Value := .decimal ⟨250, 2, by decide, by decide⟩
    a.isNumber = true ∧ b.isNumber = true ∧ (∀ x, FloatBesideDecimal a b x → x.RoadsMeet) ∧
      '.' ∉ "x".toList ∧ Connective.ofWord? "x" = none ∧
      (Filter.ofQuery (.object [("x", .array [b])])).accepts (.object [("x", .array [a])]) =
        true := by
  intro a b
  have hexact : Decimal.Denotes ⟨25, 1, by decide, by decide⟩ ⟨0x4004000000000000⟩ := by
    unfold Decimal.Denotes
    decide +kernel
  have hroads : ∀ x, FloatBesideDecimal a b x → x.RoadsMeet := by
    rintro x ⟨d, ⟨ha, -⟩ | ⟨ha, -⟩⟩
    · obtain rfl := Value.float.inj ha
      exact Binary64.roadsMeet_of_denotes hexact (by decide)
    · exact nomatch ha
  obtain ⟨-, hfields, -⟩ := align_numbers rfl rfl hroads
  exact ⟨rfl, rfl, hroads, by decide, rfl, (hfields "x" (by decide) rfl).mp (by decide +kernel)⟩

/-- The float after three tenths is told from the decimal at a leaf but not inside an array: what
the road over the significand keeps of its seventeen digits is three tenths. -/
theorem Value.align_numbers_part :
    let a : Value := .float ⟨0x3FD3333333333334⟩
    let b : Value := .decimal ⟨3, 1, by decide, by decide⟩
    a.isNumber = true ∧ b.isNumber = true ∧
      (a.align b).1.compare (a.align b).2 = some .gt ∧ a.compare b = some .eq ∧
      (Filter.ofQuery (.object [("x", b)])).accepts (.object [("x", a)]) = false ∧
      (Filter.ofQuery (.object [("x", .array [b])])).accepts (.object [("x", .array [a])]) =
        true := by
  decide +kernel

end DocumentFilter
