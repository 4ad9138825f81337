import DocumentFilter.Document.Alignment
import DocumentFilter.Proofs.Calendar.OwnOffset

/-! Alignment moves one side, and moves it once.

What becomes of a side depends on the kind of the other one alone, and it is the same for both
sides (`align_eq`). A side that changes was a number or a text and has the kind of the other side
from then on; the other side is of a kind that nothing changes, so it stays, and the two are of one
kind, beside which nothing changes any more. A text that becomes a timestamp beside one with a zone
keeps the offset that it ends in and takes over the other one's when it ends in none. -/
namespace DocumentFilter

/-- The kinds that alignment brings values to. -/
def Kind.IsTarget : Kind → Prop
  | .decimal | .date | .datetime | .uuid => True
  | _ => False

/-- The kinds that alignment takes values from. -/
def Kind.IsSource : Kind → Prop
  | .integer | .float | .string => True
  | _ => False

namespace Value

/-- What becomes of a value beside another one. -/
def beside (v other : Value) : Value :=
  match other, v with
  | decimal _, v => v.toDecimal
  | date _, string s => toDate s
  | datetime t, string s => toTimestamp t s
  | uuid _, string s => toUuid s
  | _, v => v

theorem align_eq (a b : Value) : a.align b = (a.beside b, b.beside a) := by
  cases a <;> cases b <;> rfl

/-! ### Kinds -/

/-- A reading that is kept only if there is one changes a value to what was read. -/
theorem kind_elim_of_ne {α : Type} {read : Option α} {v : Value} {f : α → Value} {k : Kind}
    (hk : ∀ a, (f a).kind = k) (h : read.elim v f ≠ v) : (read.elim v f).kind = k := by
  cases read with
  | none => exact absurd rfl h
  | some a => exact hk a

/-- Only numbers and texts are read as decimals. -/
theorem isSource_of_toDecimal_ne {v : Value} (h : v.toDecimal ≠ v) : v.kind.IsSource := by
  cases v with
  | integer _ | float _ | string _ => trivial
  | _ => exact absurd rfl h

/-- **A side that changes** was a number or a text and gets the kind of the other side. -/
theorem kind_of_beside_ne {v other : Value} (h : v.beside other ≠ v) :
    v.kind.IsSource ∧ other.kind.IsTarget ∧ (v.beside other).kind = other.kind := by
  cases other with
  | decimal d =>
    exact ⟨isSource_of_toDecimal_ne h, trivial, kind_elim_of_ne (fun _ => rfl) h⟩
  | date d =>
    cases v with
    | string s => exact ⟨trivial, trivial, kind_elim_of_ne (fun _ => rfl) h⟩
    | _ => exact absurd rfl h
  | datetime t =>
    cases v with
    | string s => exact ⟨trivial, trivial, kind_elim_of_ne (fun _ => rfl) h⟩
    | _ => exact absurd rfl h
  | uuid u =>
    cases v with
    | string s => exact ⟨trivial, trivial, kind_elim_of_ne (fun _ => rfl) h⟩
    | _ => exact absurd rfl h
  | _ => cases v <;> exact absurd rfl h

/-- A value that alignment brings others to stays what it is. -/
theorem beside_of_isTarget {v : Value} (h : v.kind.IsTarget) (other : Value) :
    v.beside other = v := by
  cases v with
  | decimal _ | date _ | datetime _ | uuid _ => cases other <;> rfl
  | _ => exact absurd h id

/-- **At most one side changes.** -/
theorem beside_eq_or (a b : Value) : a.beside b = a ∨ b.beside a = b := by
  by_cases h : a.beside b = a
  · exact .inl h
  · exact .inr (beside_of_isTarget (kind_of_beside_ne h).2.1 a)

/-- The changed side is of a kind that stays, as the other side is. -/
theorem beside_beside (a b : Value) : (a.beside b).beside (b.beside a) = a.beside b := by
  by_cases ha : a.beside b = a
  · by_cases hb : b.beside a = b
    · rw [hb, ha, ha]
    · rw [ha]
      exact beside_of_isTarget (kind_of_beside_ne hb).2.1 _
  · obtain ⟨-, htarget, hkind⟩ := kind_of_beside_ne ha
    exact beside_of_isTarget (hkind ▸ htarget) _

/-! ### Zones -/

/-- A text that becomes a timestamp keeps the offset that it was read with, and is lent the zone of
the other side when it has none. -/
theorem exists_of_toTimestamp {t u : Timestamp} {zone : Offset} {s : String}
    (ht : t.offset = some zone) (h : toTimestamp t s = datetime u) :
    ∃ read, Timestamp.read? s.toList = some read ∧ u.offset = some (read.offset.getD zone) := by
  unfold toTimestamp timestampBeside? at h
  cases hread : Timestamp.read? s.toList with
  | none =>
    rw [hread] at h
    cases h
  | some read =>
    rw [hread] at h
    refine ⟨read, rfl, ?_⟩
    cases hown : read.offset with
    | none =>
      simp only [Option.map_some, Option.elim_some, hown, ht, datetime.injEq] at h
      rw [← h]
      rfl
    | some own =>
      simp only [Option.map_some, Option.elim_some, hown, datetime.injEq] at h
      rw [← h, hown]
      rfl

/-- What alignment may make of a value beside another one. -/
structure BroughtTo (v other v' : Value) : Prop where
  /-- A value that changes was a number or a text and gets the kind of the other side. -/
  kind : v' ≠ v → v.kind.IsSource ∧ other.kind.IsTarget ∧ v'.kind = other.kind
  /-- A text beside a timestamp with a zone becomes one with a zone: the one that the text ends in,
  or that of the other side if it ends in none. -/
  zone : ∀ (s : String) (t u : Timestamp) (zone : Offset), v = string s → other = datetime t →
    t.offset = some zone → v' = datetime u →
      u.offset.isSome = true ∧ (∀ own, EndsInOffset s.toList own → u.offset = some own) ∧
        ((∀ own, ¬EndsInOffset s.toList own) → u.offset = some zone)

theorem broughtTo_beside (v other : Value) : BroughtTo v other (v.beside other) := by
  refine ⟨kind_of_beside_ne, ?_⟩
  rintro s t u zone rfl rfl ht hu
  obtain ⟨read, hread, hoffset⟩ := exists_of_toTimestamp ht hu
  have hown := Timestamp.offset_eq_some_iff hread
  refine ⟨by rw [hoffset]; rfl, fun own hends => ?_, fun hnone => ?_⟩
  · rw [hoffset, (hown own).mpr hends]
    rfl
  · have hnaive : read.offset = none :=
      Option.eq_none_iff_forall_ne_some.mpr fun own ho => hnone own ((hown own).mp ho)
    rw [hoffset, hnaive]
    rfl

/-- **Alignment settles at once.** Aligned values align to themselves. One of two values stays as it
was, and the other, if it changes, was a number or a text and gets the kind of the first; a text that
becomes a timestamp beside one with a zone has a zone too, its own if it ends in one. -/
theorem align_settles (a b : Value) :
    (a.align b).1.align (a.align b).2 = a.align b ∧
      ((a.align b).1 = a ∨ (a.align b).2 = b) ∧
      BroughtTo a b (a.align b).1 ∧ BroughtTo b a (a.align b).2 := by
  rw [align_eq a b]
  refine ⟨?_, beside_eq_or a b, broughtTo_beside a b, broughtTo_beside b a⟩
  rw [align_eq, beside_beside, beside_beside]

/-- Beside a timestamp five and a half hours east, a text that ends in three hours west keeps them,
and a bare day takes over the other offset. -/
theorem align_settles_of_zoned :
    let leapDay : Date := ⟨2024, 2, 29, by decide, by decide⟩
    let t : Timestamp := ⟨⟨leapDay, .midnight⟩, some ⟨19800, by decide⟩⟩
    (∃ u, (string "2024-02-29 10:00 -0300").align (datetime t) = (datetime u, datetime t) ∧
        u.offset = some ⟨-10800, by decide⟩) ∧
      ∃ u, (string "2024-02-29").align (datetime t) = (datetime u, datetime t) ∧
        u.offset = t.offset := by
  intro leapDay t
  constructor
  · let own : Offset := ⟨-10800, by decide⟩
    let u : Timestamp := ⟨⟨leapDay, ⟨36000, 0, by decide, by decide⟩⟩, some own⟩
    have halign : (string "2024-02-29 10:00 -0300").align (datetime t) =
        (datetime u, datetime t) := rfl
    have hseparates : Separates [] := nofun
    have hwritten : own.Written "-0300".toList :=
      .signed .hyphen hseparates (by decide : 0 < 60) (by decide : own.seconds = -(3 * 3600 + 0 * 60))
    have hends : EndsInOffset "2024-02-29 10:00 -0300".toList own :=
      ⟨"-0300".toList, by decide, hwritten⟩
    obtain ⟨-, -, hbrought, -⟩ := align_settles (string "2024-02-29 10:00 -0300") (datetime t)
    rw [halign] at hbrought
    exact ⟨u, halign, (hbrought.zone _ t u _ rfl rfl rfl rfl).2.1 own hends⟩
  · let u : Timestamp := ⟨⟨leapDay, .midnight⟩, t.offset⟩
    have halign : (string "2024-02-29").align (datetime t) = (datetime u, datetime t) := rfl
    have hnaive : EndsNaive "2024-02-29".toList :=
      Reading.endsNaive_of_date (by decide : Reading.date "2024-02-29".toList = some (leapDay, []))
    obtain ⟨-, -, hbrought, -⟩ := align_settles (string "2024-02-29") (datetime t)
    rw [halign] at hbrought
    exact ⟨u, halign, (hbrought.zone _ t u _ rfl rfl rfl rfl).2.2 hnaive.not_endsInOffset⟩

end Value

end DocumentFilter
