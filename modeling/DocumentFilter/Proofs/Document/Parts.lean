import DocumentFilter.Proofs.Document.Members

/-! Parts: everything that a value is made of.

The parts of a value are the value itself and, at any depth, what its arrays and objects
hold. What holds of all of them holds of all parts of each member as well, so it can be carried
along in a recursion into values. -/
namespace DocumentFilter

namespace Value

mutual

/-- The value and the parts of its members. -/
def parts (v : Value) : List Value :=
  match v with
  | array items => array items :: itemParts items
  | object entries => object entries :: entryParts entries
  | v => [v]
  termination_by structural v

def itemParts (items : List Value) : List Value :=
  match items with
  | [] => []
  | v :: rest => v.parts ++ itemParts rest
  termination_by structural items

def entryParts (entries : Entries) : List Value :=
  match entries with
  | [] => []
  | (_, v) :: rest => v.parts ++ entryParts rest
  termination_by structural entries

end

theorem itemParts_eq_flatMap (items : List Value) : itemParts items = items.flatMap parts := by
  induction items with
  | nil => rfl
  | cons v rest ih => rw [itemParts, ih, List.flatMap_cons]

theorem entryParts_eq_flatMap (entries : Entries) :
    entryParts entries = entries.flatMap fun e => e.2.parts := by
  induction entries with
  | nil => rfl
  | cons e rest ih => rw [entryParts, ih, List.flatMap_cons]

theorem self_mem_parts (v : Value) : v ∈ v.parts := by
  cases v <;> exact List.mem_cons_self ..

theorem mem_parts_of_item {items : List Value} {v w : Value} (hv : v ∈ items) (hw : w ∈ v.parts) :
    w ∈ (array items).parts := by
  rw [parts, itemParts_eq_flatMap]
  exact List.mem_cons_of_mem _ (List.mem_flatMap.mpr ⟨v, hv, hw⟩)

theorem mem_parts_of_entry {entries : Entries} {e : String × Value} {w : Value} (he : e ∈ entries)
    (hw : w ∈ e.2.parts) : w ∈ (object entries).parts := by
  rw [parts, entryParts_eq_flatMap]
  exact List.mem_cons_of_mem _ (List.mem_flatMap.mpr ⟨e, he, hw⟩)

/-! ### What holds everywhere in a value -/

/-- The property holds of the value and of everything in it, at any depth. -/
def Everywhere (p : Value → Prop) (v : Value) : Prop := ∀ w ∈ v.parts, p w

section
variable {p : Value → Prop}

instance [DecidablePred p] (v : Value) : Decidable (v.Everywhere p) :=
  inferInstanceAs (Decidable (∀ w ∈ v.parts, p w))

theorem Everywhere.self {v : Value} (h : v.Everywhere p) : p v := h v v.self_mem_parts

theorem Everywhere.item {items : List Value} (h : (array items).Everywhere p) :
    ∀ v ∈ items, v.Everywhere p :=
  fun _ hv w hw => h w (mem_parts_of_item hv hw)

theorem Everywhere.entry {entries : Entries} (h : (object entries).Everywhere p) :
    ∀ e ∈ entries, e.2.Everywhere p :=
  fun _ he w hw => h w (mem_parts_of_entry he hw)

end

/-- Nothing in the value is of the kind. -/
abbrev Lacks (k : Kind) : Value → Prop := Everywhere fun w => w.kind ≠ k

/-- No object in the value has two entries under one key. -/
abbrev HoldsKeysOnce : Value → Prop :=
  Everywhere fun w => ∀ entries ∈ w.entries?, (Entries.keys entries).Nodup

end Value

end DocumentFilter
