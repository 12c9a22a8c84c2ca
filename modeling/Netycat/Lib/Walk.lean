import Netycat.Lib.Cursor

/-!
# Walks with a bound

A walk is what a loop or a recursion over elements comes to when it may visit
only so many: the elements visited, how it ended, and what is left of the bound.
That nothing is visited for free is a field of the walk, so a recursion can go
on with what is left and is seen to end.

Walks are built from stops and visits and are put one behind the other; the
second begins only if the first has finished.
-/

universe u v

/-- How a walk ends: at its end, with a failure, or for want of visits. -/
inductive WalkEnding (ε : Type v) where
  | finished
  | failed (error : ε)
  | cutOff
deriving DecidableEq, Repr

/-- A walk over elements with so many visits at most. -/
structure Walk (α : Type u) (ε : Type v) (bound : Nat) where
  visited : List α
  ending : WalkEnding ε
  left : Nat
  spent : visited.length + left = bound

namespace Walk

variable {α : Type u} {ε ε' : Type v} {bound : Nat}

/-- A walk that ends without a visit. -/
def stop (ending : WalkEnding ε) : Walk α ε bound where
  visited := []
  ending := ending
  left := bound
  spent := Nat.zero_add bound

/-- A walk that begins with a visit. -/
def visit (element : α) (rest : Walk α ε bound) : Walk α ε (bound + 1) where
  visited := element :: rest.visited
  ending := rest.ending
  left := rest.left
  spent := by
    have spent := rest.spent
    rw [List.length_cons]
    omega

theorem left_le (walk : Walk α ε bound) : walk.left ≤ bound :=
  Nat.le.intro ((Nat.add_comm _ _).trans walk.spent)

/-- A walk that goes on where these elements have been visited. -/
def behind {spare : Nat} (elements : List α) (rest : Walk α ε spare)
    (spent : elements.length + spare = bound) : Walk α ε bound where
  visited := elements ++ rest.visited
  ending := rest.ending
  left := rest.left
  spent := by
    have shorter := rest.spent
    rw [List.length_append]
    omega

/-- One walk behind another, which has to finish first. -/
def andThen (first : Walk α ε bound)
    (second : ∀ left, left ≤ bound → Walk α ε left) : Walk α ε bound :=
  match first.ending with
  | .finished =>
      behind first.visited (second first.left first.left_le) first.spent
  | _ => first

/-- The walk with other names for its failures. -/
def mapFailure (rename : ε → ε') (walk : Walk α ε bound) :
    Walk α ε' bound where
  visited := walk.visited
  ending :=
    match walk.ending with
    | .finished => .finished
    | .failed error => .failed (rename error)
    | .cutOff => .cutOff
  left := walk.left
  spent := walk.spent

variable (second : ∀ left, left ≤ bound → Walk α ε left)

@[simp]
theorem finished_andThen :
    (stop .finished : Walk α ε bound).andThen second =
      second bound (Nat.le_refl bound) :=
  rfl

@[simp]
theorem failed_andThen (error : ε) :
    (stop (.failed error) : Walk α ε bound).andThen second =
      stop (.failed error) :=
  rfl

@[simp]
theorem cutOff_andThen :
    (stop .cutOff : Walk α ε bound).andThen second = stop .cutOff :=
  rfl

/-- A walk with nothing behind it. -/
theorem andThen_finished (first : Walk α ε bound) :
    (first.andThen fun _ _ => stop .finished) = first := by
  rcases first with ⟨visited, _ | _ | _, left, spent⟩
  · simp [andThen, behind, stop]
  · rfl
  · rfl

theorem visit_andThen (element : α) (first : Walk α ε bound)
    (second : ∀ left, left ≤ bound + 1 → Walk α ε left) :
    (first.visit element).andThen second =
      (first.andThen fun left within =>
        second left (Nat.le_succ_of_le within)).visit element := by
  rcases first with ⟨visited, _ | _ | _, left, spent⟩
  · rfl
  · rfl
  · rfl

theorem behind_andThen {spare : Nat} (elements : List α)
    (rest : Walk α ε spare) (spent : elements.length + spare = bound) :
    (behind elements rest spent).andThen second =
      behind elements
        (rest.andThen fun left within =>
          second left (Nat.le_trans within (spent ▸ Nat.le_add_left _ _)))
        spent := by
  rcases rest with ⟨visited, _ | _ | _, left, shorter⟩
  · simp only [andThen, behind, List.append_assoc]
  · rfl
  · rfl

theorem andThen_assoc (first : Walk α ε bound)
    (third : ∀ left, left ≤ bound → Walk α ε left) :
    (first.andThen second).andThen third =
      first.andThen fun left within =>
        (second left within).andThen fun rest still =>
          third rest (Nat.le_trans still within) := by
  rcases first with ⟨visited, _ | _ | _, left, spent⟩
  · exact behind_andThen third visited _ spent
  · rfl
  · rfl

section MapFailure

variable (rename : ε → ε')

@[simp]
theorem mapFailure_finished :
    (stop .finished : Walk α ε bound).mapFailure rename = stop .finished :=
  rfl

@[simp]
theorem mapFailure_failed (error : ε) :
    (stop (.failed error) : Walk α ε bound).mapFailure rename =
      stop (.failed (rename error)) :=
  rfl

@[simp]
theorem mapFailure_cutOff :
    (stop .cutOff : Walk α ε bound).mapFailure rename = stop .cutOff :=
  rfl

@[simp]
theorem mapFailure_visit (element : α) (rest : Walk α ε bound) :
    (rest.visit element).mapFailure rename =
      (rest.mapFailure rename).visit element :=
  rfl

end MapFailure

end Walk

namespace Cursor

variable {σ α : Type u} {ε : Type v}

/-- The loop over a cursor, which keeps what it has visited when a move
fails. -/
def walk (cursor : Cursor σ α ε) : (bound : Nat) → σ → Walk α ε bound
  | 0, state => if cursor.atEnd state then .stop .finished else .stop .cutOff
  | bound + 1, state =>
      if cursor.atEnd state then .stop .finished
      else
        Walk.visit (cursor.value state)
          (match cursor.next state with
          | .error error => .stop (.failed error)
          | .ok state' => walk cursor bound state')

/-- The loop that goes on with a state, if there is one. -/
def walkFrom (cursor : Cursor σ α ε) (bound : Nat) :
    Except ε σ → Walk α ε bound
  | .error error => .stop (.failed error)
  | .ok state => cursor.walk bound state

theorem walk_atEnd {cursor : Cursor σ α ε} {state : σ}
    (ended : cursor.atEnd state = true) (bound : Nat) :
    cursor.walk bound state = .stop .finished := by
  cases bound with
  | zero => rw [walk, if_pos ended]
  | succ bound => rw [walk, if_pos ended]

theorem walk_zero {cursor : Cursor σ α ε} {state : σ}
    (more : cursor.atEnd state = false) :
    cursor.walk 0 state = .stop .cutOff := by
  rw [walk, more]
  rfl

theorem walk_succ {cursor : Cursor σ α ε} {state : σ}
    (more : cursor.atEnd state = false) (bound : Nat) :
    cursor.walk (bound + 1) state =
      (cursor.walkFrom bound (cursor.next state)).visit
        (cursor.value state) := by
  rw [walk, more]
  cases cursor.next state with
  | error error => rfl
  | ok state' => rfl

end Cursor
