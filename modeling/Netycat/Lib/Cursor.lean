import Mathlib.Tactic.Common

/-!
# Input cursors

An input iterator gives its element, says whether it equals the end iterator
and moves to the next element, which may fail.  The loop over a cursor stops at
the end; `Yields` relates a cursor to the elements that the loop visits, and
holds only where no move on the way fails.
-/

universe u v

/-- The three operations of an input iterator with states `σ`, elements `α` and
failures `ε`. -/
structure Cursor (σ α : Type u) (ε : Type v) where
  atEnd : σ → Bool
  value : σ → α
  next : σ → Except ε σ

namespace Cursor

variable {σ α : Type u} {ε : Type v}

/-- The loop from a state yields these elements and then reaches the end. -/
inductive Yields (cursor : Cursor σ α ε) : σ → List α → Prop where
  | finished {state : σ}
      (ended : cursor.atEnd state = true) :
      Yields cursor state []
  | element {state state' : σ} {elements : List α}
      (more : cursor.atEnd state = false)
      (moved : cursor.next state = .ok state')
      (rest : Yields cursor state' elements) :
      Yields cursor state (cursor.value state :: elements)

/-- The loop over a cursor, with a bound on its moves; `none` when the bound is
used up before the end. -/
def collect (cursor : Cursor σ α ε) :
    Nat → σ → Except ε (Option (List α))
  | 0, state =>
      if cursor.atEnd state then .ok (some []) else .ok none
  | bound + 1, state =>
      if cursor.atEnd state then .ok (some [])
      else do
        let state' ← cursor.next state
        let elements ← collect cursor bound state'
        .ok (elements.map (cursor.value state :: ·))

/-- The loop that yields some elements makes one move for each of them, and no
move fails. -/
theorem Yields.collect_eq {cursor : Cursor σ α ε} {state : σ}
    {elements : List α} (yields : cursor.Yields state elements)
    (bound : Nat) :
    cursor.collect bound state =
      .ok (if bound < elements.length then none else some elements) := by
  induction yields generalizing bound with
  | finished ended =>
      cases bound <;> simp [collect, ended]
  | element more moved rest ih =>
      cases bound with
      | zero =>
          simp [collect, more]
      | succ bound =>
          simp only [collect, more, Bool.false_eq_true, if_false, moved,
            ih bound, List.length_cons, Nat.add_lt_add_iff_right, bind,
            Except.bind]
          exact congrArg Except.ok (apply_ite _ _ _ _)

/-- A relation between states and the elements to come, which a cursor keeps:
its head is the present element, and a move drops it. -/
structure Presents (cursor : Cursor σ α ε)
    (relation : σ → List α → Prop) : Prop where
  ended : ∀ {state : σ}, relation state [] → cursor.atEnd state = true
  more : ∀ {state : σ} {element : α} {elements : List α},
    relation state (element :: elements) → cursor.atEnd state = false
  value : ∀ {state : σ} {element : α} {elements : List α},
    relation state (element :: elements) → cursor.value state = element
  next : ∀ {state : σ} {element : α} {elements : List α},
    relation state (element :: elements) →
      ∃ state', cursor.next state = .ok state' ∧ relation state' elements

/-- What a kept relation promises is what the loop yields. -/
theorem Presents.yields {cursor : Cursor σ α ε}
    {relation : σ → List α → Prop} (presents : cursor.Presents relation)
    {state : σ} {elements : List α} (related : relation state elements) :
    cursor.Yields state elements := by
  induction elements generalizing state with
  | nil =>
      exact .finished (presents.ended related)
  | cons element elements ih =>
      rcases presents.next related with ⟨state', moved, related'⟩
      rw [← presents.value related]
      exact .element (presents.more related) moved (ih related')

end Cursor
