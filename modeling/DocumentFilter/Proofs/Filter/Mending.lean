import DocumentFilter.Filter.Basic
import DocumentFilter.Proofs.Document.Landings
import Mathlib.Algebra.Ring.Parity

/-! Mending a plan: putting anything in the place of its faults.

A fault accepts nothing, so whatever takes its place can only accept more, and everything
between it and the whole plan passes that on: conjunctions, disjunctions, searches and element
tests grow with their parts. Only a negation turns growing round. So a plan with faults errs to
one side: to the side of too few documents as long as each fault stands under an even number of
negations, and to that of too many under an odd number. -/
namespace DocumentFilter

/-! ### Plans with faults replaced -/

mutual

/-- The second clause is the first with some faults replaced by other clauses and tests. The
number counts the negations around the clause, and a fault may go only where `allowed` says so
of the negations around it. -/
inductive MendedClause (allowed : Nat → Prop) : Nat → Clause → Clause → Prop
  | kept {n : Nat} (clause : Clause) : MendedClause allowed n clause clause
  | replaced {n : Nat} {fault : Fault} (clause : Clause) (h : allowed n) :
      MendedClause allowed n (.invalid fault) clause
  | and {n : Nat} {conditions conditions' : List Condition}
      (h : MendedConditions allowed n conditions conditions') :
      MendedClause allowed n (.connective .and conditions) (.connective .and conditions')
  | or {n : Nat} {conditions conditions' : List Condition}
      (h : MendedConditions allowed n conditions conditions') :
      MendedClause allowed n (.connective .or conditions) (.connective .or conditions')
  | nor {n : Nat} {conditions conditions' : List Condition}
      (h : MendedConditions allowed (n + 1) conditions conditions') :
      MendedClause allowed n (.connective .nor conditions) (.connective .nor conditions')
  | expression {n : Nat} {route : Route} {tests tests' : Expression}
      (h : MendedTests allowed n tests tests') :
      MendedClause allowed n (.expression route tests) (.expression route tests')

inductive MendedClauses (allowed : Nat → Prop) : Nat → Condition → Condition → Prop
  | nil {n : Nat} : MendedClauses allowed n [] []
  | cons {n : Nat} {clause clause' : Clause} {rest rest' : Condition}
      (first : MendedClause allowed n clause clause')
      (others : MendedClauses allowed n rest rest') :
      MendedClauses allowed n (clause :: rest) (clause' :: rest')

inductive MendedConditions (allowed : Nat → Prop) :
    Nat → List Condition → List Condition → Prop
  | nil {n : Nat} : MendedConditions allowed n [] []
  | cons {n : Nat} {condition condition' : Condition} {rest rest' : List Condition}
      (first : MendedClauses allowed n condition condition')
      (others : MendedConditions allowed n rest rest') :
      MendedConditions allowed n (condition :: rest) (condition' :: rest')

inductive MendedTest (allowed : Nat → Prop) : Nat → Test → Test → Prop
  | kept {n : Nat} (test : Test) : MendedTest allowed n test test
  | replaced {n : Nat} {fault : Fault} (test : Test) (h : allowed n) :
      MendedTest allowed n (.invalid fault) test
  | notExpression {n : Nat} {tests tests' : Expression}
      (h : MendedTests allowed (n + 1) tests tests') :
      MendedTest allowed n (.notExpression tests) (.notExpression tests')
  | allElements {n : Nat} {elements elements' : List ElementTest}
      (h : MendedElements allowed n elements elements') :
      MendedTest allowed n (.allElements elements) (.allElements elements')
  | element {n : Nat} {e e' : ElementTest} (h : MendedElement allowed n e e') :
      MendedTest allowed n (.element e) (.element e')

inductive MendedTests (allowed : Nat → Prop) : Nat → Expression → Expression → Prop
  | nil {n : Nat} : MendedTests allowed n [] []
  | cons {n : Nat} {test test' : Test} {rest rest' : Expression}
      (first : MendedTest allowed n test test') (others : MendedTests allowed n rest rest') :
      MendedTests allowed n (test :: rest) (test' :: rest')

inductive MendedElement (allowed : Nat → Prop) : Nat → ElementTest → ElementTest → Prop
  | condition {n : Nat} {clauses clauses' : Condition}
      (h : MendedClauses allowed n clauses clauses') :
      MendedElement allowed n (.condition clauses) (.condition clauses')
  | expression {n : Nat} {tests tests' : Expression} (h : MendedTests allowed n tests tests') :
      MendedElement allowed n (.expression tests) (.expression tests')

inductive MendedElements (allowed : Nat → Prop) :
    Nat → List ElementTest → List ElementTest → Prop
  | nil {n : Nat} : MendedElements allowed n [] []
  | cons {n : Nat} {e e' : ElementTest} {rest rest' : List ElementTest}
      (first : MendedElement allowed n e e') (others : MendedElements allowed n rest rest') :
      MendedElements allowed n (e :: rest) (e' :: rest')

end

/-! ### Which way an outcome leans -/

/-- The second outcome holds where the first does when leaning up, and the first where the
second does when leaning down. -/
def Leans (up : Prop) (b b' : Bool) : Prop :=
  (up → b = true → b' = true) ∧ (¬up → b' = true → b = true)

namespace Leans

variable {up : Prop} {a a' b b' : Bool}

theorem refl (b : Bool) : Leans up b b := ⟨fun _ h => h, fun _ h => h⟩

theorem of_false (b : Bool) (h : up) : Leans up false b :=
  ⟨fun _ => nofun, fun hdown => absurd h hdown⟩

theorem and (ha : Leans up a a') (hb : Leans up b b') : Leans up (a && b) (a' && b') := by
  simp only [Leans, Bool.and_eq_true]
  exact ⟨fun hup h => ⟨ha.1 hup h.1, hb.1 hup h.2⟩, fun hdown h => ⟨ha.2 hdown h.1, hb.2 hdown h.2⟩⟩

theorem or (ha : Leans up a a') (hb : Leans up b b') : Leans up (a || b) (a' || b') := by
  simp only [Leans, Bool.or_eq_true]
  exact ⟨fun hup => .imp (ha.1 hup) (hb.1 hup), fun hdown => .imp (ha.2 hdown) (hb.2 hdown)⟩

/-- A negation turns the direction round. -/
theorem not {down : Prop} (hdown : down ↔ ¬up) (h : Leans down b b') : Leans up (!b) (!b') := by
  constructor
  · intro hup hb
    cases b' with
    | false => rfl
    | true =>
      rw [h.2 (fun hd => hdown.mp hd hup) rfl] at hb
      exact hb
  · intro hnot hb'
    cases b with
    | false => rfl
    | true =>
      rw [h.1 (hdown.mpr hnot) rfl] at hb'
      exact hb'

theorem any {α : Type} (xs : List α) {test test' : α → Bool}
    (h : ∀ x ∈ xs, Leans up (test x) (test' x)) : Leans up (xs.any test) (xs.any test') := by
  induction xs with
  | nil => exact refl false
  | cons x rest ih =>
    rw [List.forall_mem_cons] at h
    rw [List.any_cons, List.any_cons]
    exact h.1.or (ih h.2)

theorem search {test test' : Value → Bool} (h : ∀ v, Leans up (test v) (test' v)) (missing : Bool)
    (reach : Reach) (doc : Value) (route : Route) :
    Leans up (doc.search test missing reach route) (doc.search test' missing reach route) := by
  rw [Value.search_eq_any, Value.search_eq_any]
  refine any _ fun l _ => ?_
  cases l with
  | reached v => exact h v
  | missing => exact refl missing

/-- A test of the items of an array. -/
theorem items {test test' : List Value → Bool} (h : ∀ items, Leans up (test items) (test' items))
    (v : Value) : Leans up (v.items?.any test) (v.items?.any test') := by
  cases v.items? with
  | none => exact refl false
  | some items => exact h items

end Leans

/-! ### Mending leans one way -/

/-- One negation more turns what is allowed round. -/
def Alternating (allowed : Nat → Prop) : Prop := ∀ n, allowed (n + 1) ↔ ¬allowed n

section
variable {allowed : Nat → Prop}

mutual

theorem MendedClause.leans (ha : Alternating allowed) {n : Nat} {clause clause' : Clause}
    (h : MendedClause allowed n clause clause') (doc : Value) :
    Leans (allowed n) (clause.accepts doc) (clause'.accepts doc) := by
  cases h with
  | kept => exact .refl _
  | replaced _ hallowed => exact .of_false _ hallowed
  | and h => exact (h.leans ha doc).1
  | or h => exact (h.leans ha doc).2
  | nor h => exact .not (ha n) (h.leans ha doc).2
  | expression h => exact h.leans ha doc _
  termination_by sizeOf clause

theorem MendedClauses.leans (ha : Alternating allowed) {n : Nat} {clauses clauses' : Condition}
    (h : MendedClauses allowed n clauses clauses') (doc : Value) :
    Leans (allowed n) (allClauses clauses doc) (allClauses clauses' doc) := by
  cases h with
  | nil => exact .refl _
  | cons first others => exact (first.leans ha doc).and (others.leans ha doc)
  termination_by sizeOf clauses

/-- The two ways in which a connective puts its conditions together. -/
theorem MendedConditions.leans (ha : Alternating allowed) {n : Nat}
    {conditions conditions' : List Condition}
    (h : MendedConditions allowed n conditions conditions') (doc : Value) :
    Leans (allowed n) (allConditions conditions doc) (allConditions conditions' doc) ∧
      Leans (allowed n) (anyCondition conditions doc) (anyCondition conditions' doc) := by
  cases h with
  | nil => exact ⟨.refl _, .refl _⟩
  | cons first others =>
    have hfirst := first.leans ha doc
    obtain ⟨hall, hany⟩ := others.leans ha doc
    exact ⟨hfirst.and hall, hfirst.or hany⟩
  termination_by sizeOf conditions

theorem MendedTest.leans (ha : Alternating allowed) {n : Nat} {test test' : Test}
    (h : MendedTest allowed n test test') (doc : Value) (route : Route) :
    Leans (allowed n) (test.accepts doc route) (test'.accepts doc route) := by
  cases h with
  | kept => exact .refl _
  | replaced _ hallowed => exact .of_false _ hallowed
  | notExpression h => exact .not (ha n) (h.leans ha doc route)
  | allElements h => exact .search (.items fun items => h.leans ha items) false .whole doc route
  | element h =>
    refine .search (.items fun items => ?_) false .whole doc route
    exact .any items fun item _ => h.leans ha item
  termination_by sizeOf test

theorem MendedTests.leans (ha : Alternating allowed) {n : Nat} {tests tests' : Expression}
    (h : MendedTests allowed n tests tests') (doc : Value) (route : Route) :
    Leans (allowed n) (allTests tests doc route) (allTests tests' doc route) := by
  cases h with
  | nil => exact .refl _
  | cons first others => exact (first.leans ha doc route).and (others.leans ha doc route)
  termination_by sizeOf tests

theorem MendedElement.leans (ha : Alternating allowed) {n : Nat} {e e' : ElementTest}
    (h : MendedElement allowed n e e') (item : Value) :
    Leans (allowed n) (e.accepts item) (e'.accepts item) := by
  cases h with
  | condition h => exact h.leans ha item
  | expression h => exact h.leans ha item []
  termination_by sizeOf e

theorem MendedElements.leans (ha : Alternating allowed) {n : Nat}
    {elements elements' : List ElementTest} (h : MendedElements allowed n elements elements')
    (items : List Value) :
    Leans (allowed n) (allElements elements items) (allElements elements' items) := by
  cases h with
  | nil => exact .refl _
  | cons first others =>
    have hfirst := Leans.any items fun item _ => first.leans ha item
    exact hfirst.and (others.leans ha items)
  termination_by sizeOf elements

end

end

/-- **Faults err to one side.** When every fault that is replaced stands under an even number of
negations, the plan accepts every document that it did before; under an odd number, it accepts
no document that it did not. -/
theorem Filter.accepts_of_mended (f f' : Filter) (doc : Value) :
    (MendedClauses Even 0 f.condition f'.condition → f.accepts doc = true →
        f'.accepts doc = true) ∧
      (MendedClauses Odd 0 f.condition f'.condition → f'.accepts doc = true →
        f.accepts doc = true) := by
  have heven : Alternating Even := fun _ => Nat.even_add_one
  have hodd : Alternating Odd := fun _ => Nat.odd_add_one
  constructor
  · intro h
    exact (h.leans heven doc).1 Even.zero
  · intro h
    exact (h.leans hodd doc).2 Nat.not_odd_zero

/-- One fault under a single negation, and one under two beside a clause that accepts. -/
theorem Filter.accepts_of_mended_under_nor :
    (MendedClauses Odd 0
        [.connective .nor [[.invalid (.rootNotObject .null)]]]
        [.connective .nor [[.literal [.ofKey "x"] (.integer 1)]]] ∧
      (Filter.mk [.connective .nor [[.invalid (.rootNotObject .null)]]]).accepts
        (.object []) = true) ∧
    (MendedClauses Even 0
        [.connective .nor [[.connective .nor
          [[.literal [.ofKey "x"] .null], [.invalid (.rootNotObject .null)]]]]]
        [.connective .nor [[.connective .nor
          [[.literal [.ofKey "x"] .null], [.literal [.ofKey "x"] (.integer 1)]]]]] ∧
      (Filter.mk [.connective .nor [[.connective .nor
        [[.literal [.ofKey "x"] .null], [.literal [.ofKey "x"] (.integer 1)]]]]]).accepts
          (.object []) = true) := by
  have hodd : MendedClauses Odd 0
      [.connective .nor [[.invalid (.rootNotObject .null)]]]
      [.connective .nor [[.literal [.ofKey "x"] (.integer 1)]]] :=
    .cons (.nor (.cons (.cons (.replaced _ (by decide)) .nil) .nil)) .nil
  have hpair : MendedConditions Even 2
      [[.literal [.ofKey "x"] .null], [.invalid (.rootNotObject .null)]]
      [[.literal [.ofKey "x"] .null], [.literal [.ofKey "x"] (.integer 1)]] :=
    .cons (.cons (.kept _) .nil) (.cons (.cons (.replaced _ (by decide)) .nil) .nil)
  have heven : MendedClauses Even 0
      [.connective .nor [[.connective .nor
        [[.literal [.ofKey "x"] .null], [.invalid (.rootNotObject .null)]]]]]
      [.connective .nor [[.connective .nor
        [[.literal [.ofKey "x"] .null], [.literal [.ofKey "x"] (.integer 1)]]]]] :=
    .cons (.nor (.cons (.cons (.nor hpair) .nil) .nil)) .nil
  exact ⟨⟨hodd, (Filter.accepts_of_mended ⟨_⟩ ⟨_⟩ (.object [])).2 hodd (by decide)⟩,
    heven, (Filter.accepts_of_mended ⟨_⟩ ⟨_⟩ (.object [])).1 heven (by decide)⟩

end DocumentFilter
