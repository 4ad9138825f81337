import DocumentFilter.Document.Json
import DocumentFilter.Proofs.Document.Parts

/-! Values written as JSON and read back.

A tree whose whole numbers fit 64 bits is read into a value that is written as the same tree, with
the entries of objects in their order. A value comes back as itself just when JSON has all the kinds
in it; what is written as text or as null stays that. Whatever a value loses it loses when it is
written for the first time. -/
namespace DocumentFilter

/-! ### Trees whose whole numbers fit -/

namespace Json

mutual

/-- The whole numbers in a tree. -/
def integers (j : Json) : List Int :=
  match j with
  | .integer n => [n]
  | .array items => itemIntegers items
  | .object entries => entryIntegers entries
  | .null | .boolean _ | .float _ _ | .string _ => []
  termination_by structural j

def itemIntegers (items : List Json) : List Int :=
  match items with
  | [] => []
  | j :: rest => j.integers ++ itemIntegers rest
  termination_by structural items

def entryIntegers (entries : List (String × Json)) : List Int :=
  match entries with
  | [] => []
  | (_, j) :: rest => j.integers ++ entryIntegers rest
  termination_by structural entries

end

/-- The number is one of 64 bits, with its sign. -/
def InRange (n : Int) : Prop := -0x8000000000000000 ≤ n ∧ n < 0x8000000000000000

/-- All whole numbers in the tree are in range. -/
def Fits (j : Json) : Prop := ∀ n ∈ j.integers, InRange n

theorem inRange_toInt (k : Int64) : InRange k.toInt := ⟨k.le_toInt, k.toInt_lt⟩

end Json

namespace Value

mutual

/-- What is written fits. -/
theorem inRange_of_mem_toJson (v : Value) : ∀ n ∈ v.toJson.integers, Json.InRange n := by
  cases v with
  | integer k => exact List.forall_mem_singleton.mpr (Json.inRange_toInt k)
  | float x =>
    unfold toJson
    split <;> exact nofun
  | array items => exact inRange_of_mem_toJsonItems items
  | object entries => exact inRange_of_mem_toJsonEntries entries
  | _ => exact nofun

theorem inRange_of_mem_toJsonItems (items : List Value) :
    ∀ n ∈ Json.itemIntegers (toJsonItems items), Json.InRange n := by
  cases items with
  | nil => exact nofun
  | cons v rest =>
    exact List.forall_mem_append.mpr
      ⟨inRange_of_mem_toJson v, inRange_of_mem_toJsonItems rest⟩

theorem inRange_of_mem_toJsonEntries (entries : Entries) :
    ∀ n ∈ Json.entryIntegers (toJsonEntries entries), Json.InRange n := by
  cases entries with
  | nil => exact nofun
  | cons e rest =>
    exact List.forall_mem_append.mpr
      ⟨inRange_of_mem_toJson e.2, inRange_of_mem_toJsonEntries rest⟩

end

theorem ofJson_integer {n : Int} (h : Json.InRange n) :
    ∃ k : Int64, ofJson (.integer n) = integer k ∧ k.toInt = n := by
  refine ⟨.ofInt n, ?_, Int64.toInt_ofInt_of_le h.1 h.2⟩
  rw [ofJson, int64?, if_pos ⟨h.1, h.2⟩]
  rfl

/-! ### From JSON and back -/

mutual

theorem toJson_ofJson (j : Json) (h : ∀ n ∈ j.integers, Json.InRange n) :
    (ofJson j).toJson = j := by
  cases j with
  | integer n =>
    obtain ⟨k, hk, rfl⟩ := ofJson_integer (List.forall_mem_singleton.mp h)
    rw [hk, toJson]
  | float x hx => exact dif_pos hx
  | array items => exact congrArg Json.array (toJsonItems_ofJsonItems items h)
  | object entries => exact congrArg Json.object (toJsonEntries_ofJsonEntries entries h)
  | _ => rfl

theorem toJsonItems_ofJsonItems (items : List Json)
    (h : ∀ n ∈ Json.itemIntegers items, Json.InRange n) :
    toJsonItems (ofJsonItems items) = items := by
  cases items with
  | nil => rfl
  | cons j rest =>
    obtain ⟨hj, hrest⟩ := List.forall_mem_append.mp h
    rw [ofJsonItems, toJsonItems, toJson_ofJson j hj, toJsonItems_ofJsonItems rest hrest]

theorem toJsonEntries_ofJsonEntries (entries : List (String × Json))
    (h : ∀ n ∈ Json.entryIntegers entries, Json.InRange n) :
    toJsonEntries (ofJsonEntries entries) = entries := by
  cases entries with
  | nil => rfl
  | cons e rest =>
    obtain ⟨key, j⟩ := e
    obtain ⟨hj, hrest⟩ := List.forall_mem_append.mp h
    rw [ofJsonEntries, toJsonEntries, toJson_ofJson j hj, toJsonEntries_ofJsonEntries rest hrest]

end

/-- **A tree comes back** just when its whole numbers fit. -/
theorem toJson_ofJson_iff (j : Json) : (ofJson j).toJson = j ↔ j.Fits :=
  ⟨fun h => h ▸ inRange_of_mem_toJson (ofJson j), toJson_ofJson j⟩

/-! ### To JSON and back -/

/-- JSON has the kind of the value, and the value if it is a float. -/
def HasJson : Value → Prop
  | null | boolean _ | integer _ | string _ | array _ | object _ => True
  | float x => x.isFinite = true
  | decimal _ | date _ | datetime _ | uuid _ | regex _ => False

mutual

theorem ofJson_toJson (v : Value) (h : v.Everywhere HasJson) : ofJson v.toJson = v := by
  cases v with
  | integer k =>
    obtain ⟨k', hk', hsame⟩ := ofJson_integer (Json.inRange_toInt k)
    rw [toJson, hk', Int64.toInt_inj.mp hsame]
  | float x =>
    have hfinite : x.isFinite = true := h.self
    rw [toJson, dif_pos hfinite, ofJson]
  | decimal _ | date _ | datetime _ | uuid _ | regex _ => exact h.self.elim
  | array items => exact congrArg array (ofJsonItems_toJsonItems items h.item)
  | object entries => exact congrArg object (ofJsonEntries_toJsonEntries entries h.entry)
  | _ => rfl

theorem ofJsonItems_toJsonItems (items : List Value) (h : ∀ v ∈ items, v.Everywhere HasJson) :
    ofJsonItems (toJsonItems items) = items := by
  cases items with
  | nil => rfl
  | cons v rest =>
    obtain ⟨hv, hrest⟩ := List.forall_mem_cons.mp h
    rw [toJsonItems, ofJsonItems, ofJson_toJson v hv, ofJsonItems_toJsonItems rest hrest]

theorem ofJsonEntries_toJsonEntries (entries : Entries)
    (h : ∀ e ∈ entries, e.2.Everywhere HasJson) :
    ofJsonEntries (toJsonEntries entries) = entries := by
  cases entries with
  | nil => rfl
  | cons e rest =>
    obtain ⟨he, hrest⟩ := List.forall_mem_cons.mp h
    rw [toJsonEntries, ofJsonEntries, ofJson_toJson e.2 he, ofJsonEntries_toJsonEntries rest hrest]

end

mutual

/-- What is read from a tree whose whole numbers fit has only the kinds of JSON in it. -/
theorem everywhere_ofJson (j : Json) (h : ∀ n ∈ j.integers, Json.InRange n) :
    (ofJson j).Everywhere HasJson := by
  cases j with
  | integer n =>
    obtain ⟨k, hk, -⟩ := ofJson_integer (List.forall_mem_singleton.mp h)
    rw [hk]
    exact List.forall_mem_singleton.mpr trivial
  | float x hx => exact List.forall_mem_singleton.mpr hx
  | array items => exact List.forall_mem_cons.mpr ⟨trivial, everywhere_ofJsonItems items h⟩
  | object entries => exact List.forall_mem_cons.mpr ⟨trivial, everywhere_ofJsonEntries entries h⟩
  | _ => exact List.forall_mem_singleton.mpr trivial

theorem everywhere_ofJsonItems (items : List Json)
    (h : ∀ n ∈ Json.itemIntegers items, Json.InRange n) :
    ∀ v ∈ itemParts (ofJsonItems items), HasJson v := by
  cases items with
  | nil => exact nofun
  | cons j rest =>
    obtain ⟨hj, hrest⟩ := List.forall_mem_append.mp h
    exact List.forall_mem_append.mpr ⟨everywhere_ofJson j hj, everywhere_ofJsonItems rest hrest⟩

theorem everywhere_ofJsonEntries (entries : List (String × Json))
    (h : ∀ n ∈ Json.entryIntegers entries, Json.InRange n) :
    ∀ v ∈ entryParts (ofJsonEntries entries), HasJson v := by
  cases entries with
  | nil => exact nofun
  | cons e rest =>
    obtain ⟨hj, hrest⟩ := List.forall_mem_append.mp h
    exact List.forall_mem_append.mpr
      ⟨everywhere_ofJson e.2 hj, everywhere_ofJsonEntries rest hrest⟩

end

/-- **A value comes back** just when JSON has all that is in it. -/
theorem ofJson_toJson_iff (v : Value) : ofJson v.toJson = v ↔ v.Everywhere HasJson :=
  ⟨fun h => h ▸ everywhere_ofJson v.toJson (inRange_of_mem_toJson v), ofJson_toJson v⟩

/-- **Values and JSON are inverse to each other where they can be.** A tree comes back just when its
whole numbers fit, a value just when JSON has all that is in it, and what has been written once is
written the same again. -/
theorem json_roundTrip :
    (∀ j : Json, (ofJson j).toJson = j ↔ j.Fits) ∧
      (∀ v : Value, ofJson v.toJson = v ↔ v.Everywhere HasJson) ∧
      ∀ v : Value, (ofJson v.toJson).toJson = v.toJson :=
  ⟨toJson_ofJson_iff, ofJson_toJson_iff, fun v => toJson_ofJson v.toJson (inRange_of_mem_toJson v)⟩

end Value

end DocumentFilter
