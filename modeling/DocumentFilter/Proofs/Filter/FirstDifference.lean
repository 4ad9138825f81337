import DocumentFilter.Proofs.Document.Containers
import DocumentFilter.Proofs.Filter.Alternatives
import DocumentFilter.Proofs.Filter.Mirror

/-! The first difference of two containers decides their order.

A difference is a place where both containers have a member and the two members are not tied. The
first one decides, whatever comes after it: two keys that differ by their own order, two values by
theirs, which may be none. Without a difference the lengths decide, so the container that runs out
is the smaller one. What the four relations answer on objects that differ nowhere follows. -/
namespace DocumentFilter

/-! ### Lists -/

section
variable {α : Type}

/-- At this place both lists have a member, the two are not tied, and all before them are. -/
structure FirstDifference (ties : α → α → Prop) (xs ys : List α) (i : Nat) (x y : α) : Prop where
  left : xs[i]? = some x
  right : ys[i]? = some y
  differs : ¬ ties x y
  before : ∀ j < i, ∀ a b, xs[j]? = some a → ys[j]? = some b → ties a b

/-- The order of two lists: the verdicts on their members in turn, and then the lengths. -/
def inTurn (verdict : α → α → Option Ordering) : List α → List α → Option Ordering
  | [], [] => some .eq
  | [], _ :: _ => some .lt
  | _ :: _, [] => some .gt
  | x :: xs, y :: ys => orOnTie (verdict x y) (inTurn verdict xs ys)

variable {ties : α → α → Prop} {a b x y : α} {xs ys : List α} {i : Nat}

theorem firstDifference_zero (h : ¬ ties a b) :
    FirstDifference ties (a :: xs) (b :: ys) 0 a b :=
  ⟨rfl, rfl, h, nofun⟩

theorem firstDifference_zero_iff :
    FirstDifference ties (a :: xs) (b :: ys) 0 x y ↔ a = x ∧ b = y ∧ ¬ ties a b := by
  constructor
  · rintro ⟨hleft, hright, hdiffers, -⟩
    obtain rfl : a = x := Option.some.inj hleft
    obtain rfl : b = y := Option.some.inj hright
    exact ⟨rfl, rfl, hdiffers⟩
  · rintro ⟨rfl, rfl, h⟩
    exact firstDifference_zero h

/-- A later difference comes after a tie. -/
theorem firstDifference_succ_iff :
    FirstDifference ties (a :: xs) (b :: ys) (i + 1) x y ↔
      ties a b ∧ FirstDifference ties xs ys i x y := by
  constructor
  · rintro ⟨hleft, hright, hdiffers, hbefore⟩
    refine ⟨hbefore 0 (Nat.succ_pos i) a b rfl rfl, hleft, hright, hdiffers, fun j hj => ?_⟩
    exact hbefore (j + 1) (Nat.succ_lt_succ hj)
  · rintro ⟨htie, hleft, hright, hdiffers, hbefore⟩
    refine ⟨hleft, hright, hdiffers, fun j hj c d hc hd => ?_⟩
    cases j with
    | zero =>
      obtain rfl : a = c := Option.some.inj hc
      obtain rfl : b = d := Option.some.inj hd
      exact htie
    | succ j => exact hbefore j (Nat.lt_of_succ_lt_succ hj) c d hc hd

variable {verdict : α → α → Option Ordering} (hties : ∀ x y, ties x y ↔ verdict x y = some .eq)
include hties

theorem inTurn_of_firstDifference (h : FirstDifference ties xs ys i x y) :
    inTurn verdict xs ys = verdict x y := by
  induction xs generalizing ys i with
  | nil => exact nomatch h.left
  | cons a xs ih =>
    cases ys with
    | nil => exact nomatch h.right
    | cons b ys =>
      rw [inTurn]
      cases i with
      | zero =>
        obtain ⟨rfl, rfl, hdiffers⟩ := firstDifference_zero_iff.mp h
        exact orOnTie_of_ne (fun heq => hdiffers ((hties a b).mpr heq)) _
      | succ i =>
        obtain ⟨htie, hrest⟩ := firstDifference_succ_iff.mp h
        rw [(hties a b).mp htie, orOnTie_eq]
        exact ih hrest

theorem inTurn_of_no_difference (h : ¬ ∃ i x y, FirstDifference ties xs ys i x y) :
    inTurn verdict xs ys = some (Ord.compare xs.length ys.length) := by
  induction xs generalizing ys with
  | nil => cases ys <;> rfl
  | cons a xs ih =>
    cases ys with
    | nil => rfl
    | cons b ys =>
      have htie : ties a b := Classical.byContradiction fun hdiffers =>
        h ⟨0, a, b, firstDifference_zero hdiffers⟩
      have hrest : ¬ ∃ i x y, FirstDifference ties xs ys i x y := fun ⟨i, x, y, hdiff⟩ =>
        h ⟨i + 1, x, y, firstDifference_succ_iff.mpr ⟨htie, hdiff⟩⟩
      rw [inTurn, (hties a b).mp htie, orOnTie_eq, ih hrest]
      simp only [List.length_cons, Nat.compare_eq_ite_lt, Nat.add_lt_add_iff_right]

end

/-! ### Arrays and objects -/

namespace Value

/-- The order ties the values. -/
def Ties (x y : Value) : Prop := x.compare y = some .eq

/-- The entries have one key, and the order ties their values. -/
def EntryTies (e f : String × Value) : Prop := e.1 = f.1 ∧ e.2.Ties f.2

/-- The verdict on two entries: that on their keys, or on their values if the keys are one. -/
def entryVerdict (e f : String × Value) : Option Ordering :=
  if e.1 = f.1 then e.2.compare f.2 else some (Ord.compare e.1 f.1)

theorem entryTies_iff (e f : String × Value) : EntryTies e f ↔ entryVerdict e f = some .eq := by
  unfold EntryTies entryVerdict
  by_cases h : e.1 = f.1
  · rw [if_pos h, and_iff_right h, Ties]
  · have hne : Ord.compare e.1 f.1 ≠ .eq := fun heq => h (Std.LawfulEqOrd.eq_of_compare heq)
    rw [if_neg h]
    exact iff_of_false (fun htie => h htie.1) fun heq => hne (Option.some.inj heq)

theorem compareItems_eq_inTurn (xs ys : List Value) :
    compareItems xs ys = inTurn Value.compare xs ys := by
  induction xs generalizing ys with
  | nil => cases ys <;> rfl
  | cons x xs ih =>
    cases ys with
    | nil => rfl
    | cons y ys => rw [compareItems_cons, inTurn, ih]

theorem compareEntries_eq_inTurn (xs ys : Entries) :
    compareEntries xs ys = inTurn entryVerdict xs ys := by
  induction xs generalizing ys with
  | nil => cases ys <;> rfl
  | cons e xs ih =>
    cases ys with
    | nil => rfl
    | cons f ys =>
      obtain ⟨k, x⟩ := e
      obtain ⟨l, y⟩ := f
      rw [compareEntries, inTurn, entryVerdict, ih]
      by_cases h : k = l
      · rw [if_pos h, if_pos h]
        rcases x.compare y with _ | _ | _ | _ <;> rfl
      · have hne : some (Ord.compare k l) ≠ some .eq := fun heq =>
          h (Std.LawfulEqOrd.eq_of_compare (Option.some.inj heq))
        rw [if_neg h, if_neg h, orOnTie_of_ne hne]

theorem compare_array_of_firstDifference {xs ys : List Value} {i : Nat} {x y : Value}
    (h : FirstDifference Ties xs ys i x y) :
    (Value.array xs).compare (.array ys) = x.compare y :=
  (compareItems_eq_inTurn xs ys).trans (inTurn_of_firstDifference (fun _ _ => .rfl) h)

theorem compare_array_of_no_difference {xs ys : List Value}
    (h : ¬ ∃ i x y, FirstDifference Ties xs ys i x y) :
    (Value.array xs).compare (.array ys) = some (Ord.compare xs.length ys.length) :=
  (compareItems_eq_inTurn xs ys).trans (inTurn_of_no_difference (fun _ _ => .rfl) h)

theorem compare_object_of_firstDifference {xs ys : Entries} {i : Nat} {e f : String × Value}
    (h : FirstDifference EntryTies xs ys i e f) :
    (Value.object xs).compare (.object ys) = entryVerdict e f :=
  (compareEntries_eq_inTurn xs ys).trans (inTurn_of_firstDifference entryTies_iff h)

theorem compare_object_of_no_difference {xs ys : Entries}
    (h : ¬ ∃ i e f, FirstDifference EntryTies xs ys i e f) :
    (Value.object xs).compare (.object ys) = some (Ord.compare xs.length ys.length) :=
  (compareEntries_eq_inTurn xs ys).trans (inTurn_of_no_difference entryTies_iff h)

end Value

/-! ### Objects in fields -/

/-- What `$gt`, `$gte`, `$lt` and `$lte` answer on a field, in this order. -/
def relationAnswers (field : String) (operand doc : Value) : List Bool :=
  [Relation.gt, .gte, .lt, .lte].map fun r =>
    (Filter.ofQuery (fieldQuery field (operatorObject r.operator operand))).accepts doc

section
variable {field : String} (hfield : Connective.ofWord? field = none) {xs : Entries} {doc : Value}
  (hdoc : doc.landings .items (.ofName field) = [.reached (.object xs)])
include hfield hdoc

/-- A field that leads to one object answers by the order of that object and the operand. -/
theorem relationAnswers_object (ys : Entries) :
    relationAnswers field (.object ys) doc =
      [Relation.gt, .gte, .lt, .lte].map fun r =>
        ((Value.object xs).compare (.object ys)).any r.accepts := by
  refine List.map_congr_left fun r _ => Bool.eq_iff_iff.mpr ?_
  refine (selects_relation_iff hfield r (.object ys) doc).trans ?_
  have hreached (v : Value) :
      .reached v ∈ doc.landings .items (.ofName field) ↔ v = .object xs := by
    rw [hdoc, List.mem_singleton, Landing.reached.injEq]
  have hmissing : .missing ∉ doc.landings .items (.ofName field) := by
    rw [hdoc, List.mem_singleton]
    nofun
  simp only [RelatedAt, Value.Meets, hreached, exists_eq_left, hmissing, and_false, or_false]
  rfl

theorem relationAnswers_of_compare {ys : Entries} {o : Ordering}
    (h : (Value.object xs).compare (.object ys) = some o) :
    relationAnswers field (.object ys) doc =
      [Relation.gt, .gte, .lt, .lte].map fun r => r.accepts o := by
  rw [relationAnswers_object hfield hdoc, h]
  rfl

end

/-- **The first difference decides.** Arrays stand as the first items that are not tied, and
objects as the first entries that are not: by their keys if these differ, and else by their
values. Where there is no difference the lengths decide, and on objects in a field `$gt`, `$gte`,
`$lt` and `$lte` answer by which of document and operand runs out first, if either does. -/
theorem first_difference_decides :
    (∀ xs ys : List Value,
      (∀ i x y, FirstDifference Value.Ties xs ys i x y →
        (Value.array xs).compare (.array ys) = x.compare y) ∧
      ((¬ ∃ i x y, FirstDifference Value.Ties xs ys i x y) →
        (Value.array xs).compare (.array ys) = some (Ord.compare xs.length ys.length))) ∧
    (∀ xs ys : Entries,
      (∀ i e f, FirstDifference Value.EntryTies xs ys i e f →
        (Value.object xs).compare (.object ys) =
          if e.1 = f.1 then e.2.compare f.2 else some (Ord.compare e.1 f.1)) ∧
      ((¬ ∃ i e f, FirstDifference Value.EntryTies xs ys i e f) →
        (Value.object xs).compare (.object ys) = some (Ord.compare xs.length ys.length))) ∧
    (∀ field xs ys doc, Connective.ofWord? field = none →
      doc.landings .items (.ofName field) = [.reached (.object xs)] →
      (¬ ∃ i e f, FirstDifference Value.EntryTies xs ys i e f) →
        (xs.length < ys.length →
          relationAnswers field (.object ys) doc = [false, false, true, true]) ∧
        (ys.length < xs.length →
          relationAnswers field (.object ys) doc = [true, true, false, false]) ∧
        (xs.length = ys.length →
          relationAnswers field (.object ys) doc = [false, true, false, true])) ∧
    ∀ field doc, Connective.ofWord? field = none →
      doc.landings .items (.ofName field) = [.reached (.object [])] →
        relationAnswers field (.object []) doc = [false, true, false, true] := by
  refine ⟨fun xs ys => ⟨fun i x y => ?items, ?tiedItems⟩,
    fun xs ys => ⟨fun i e f => ?entries, ?tiedEntries⟩,
    fun field xs ys doc hfield hdoc h => ?table, fun field doc hfield hdoc => ?empty⟩
  case items => exact Value.compare_array_of_firstDifference
  case tiedItems => exact Value.compare_array_of_no_difference
  case entries => exact Value.compare_object_of_firstDifference
  case tiedEntries => exact Value.compare_object_of_no_difference
  case table =>
    rw [relationAnswers_of_compare hfield hdoc (Value.compare_object_of_no_difference h)]
    refine ⟨fun hlt => ?_, fun hgt => ?_, fun heq => ?_⟩
    · rw [Nat.compare_eq_lt.mpr hlt]
      rfl
    · rw [Nat.compare_eq_gt.mpr hgt]
      rfl
    · rw [Nat.compare_eq_eq.mpr heq]
      rfl
  case empty =>
    have htie : (Value.object []).compare (.object []) = some .eq := rfl
    exact relationAnswers_of_compare hfield hdoc htie

/-- Null and a text have no order, so neither do two arrays that differ there first, whatever their
lengths. An object that the operand only adds to runs out first, also behind a dotted name. -/
theorem first_difference_decides_of_null_and_prefix :
    let xs : List Value := [.integer 1, .null, .integer 9]
    let ys : List Value := [.decimal (.ofInt64 1), .string "a"]
    let entries : Entries := [("x", .integer 1)]
    let more : Entries := [("x", .integer 1), ("y", .null)]
    let doc : Value := .object [("o", .object [("p", .object entries)])]
    FirstDifference Value.Ties xs ys 1 .null (.string "a") ∧
      (Value.array xs).compare (.array ys) = none ∧
      Connective.ofWord? "o.p" = none ∧
      doc.landings .items (.ofName "o.p") = [.reached (.object entries)] ∧
      (¬ ∃ i e f, FirstDifference Value.EntryTies entries more i e f) ∧
      entries.length < more.length ∧
      relationAnswers "o.p" (.object more) doc = [false, false, true, true] := by
  intro xs ys entries more doc
  obtain ⟨harrays, -, htable, -⟩ := first_difference_decides
  have hfirst : FirstDifference Value.Ties xs ys 1 .null (.string "a") :=
    firstDifference_succ_iff.mpr ⟨rfl, firstDifference_zero nofun⟩
  have hdoc : doc.landings .items (.ofName "o.p") = [.reached (.object entries)] := by
    have hroute : Route.ofName "o.p" = [.ofKey "o", .ofKey "p"] := by decide
    have hget : Entries.get? [("o", .object [("p", .object entries)])] (Step.ofKey "o").key =
      some (.object [("p", .object entries)]) := rfl
    rw [hroute, Value.landings_object_cons, hget]
    exact Value.landings_singleton .items "p" rfl
  have hnone : ¬ ∃ i e f, FirstDifference Value.EntryTies entries more i e f := by
    rintro ⟨i, e, f, h⟩
    cases i with
    | zero => exact (firstDifference_zero_iff.mp h).2.2 ⟨rfl, rfl⟩
    | succ i => exact nomatch (firstDifference_succ_iff.mp h).2.left
  have hlt : entries.length < more.length := by decide
  exact ⟨hfirst, (harrays xs ys).1 1 _ _ hfirst, rfl, hdoc, hnone, hlt,
    (htable "o.p" entries more doc rfl hdoc hnone).1 hlt⟩

end DocumentFilter
