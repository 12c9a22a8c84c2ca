import Netycat.Lib.TransitionSystem

/-!
# Systems whose actions commute

Where two different enabled actions can be taken in either order and lead to
one state, the order of the actions in a run does not matter.  If one run comes
to a state in which nothing is enabled, then every other run from the same
state can be completed to a run that ends there, and the two have taken the
same actions equally often.
-/

namespace TransitionSystem

variable {State Action : Type*} (system : TransitionSystem State Action)

/-- Two different enabled actions can follow each other, with one result. -/
def Commutes : Prop :=
  ∀ state first second left right,
    first ≠ second →
      system.step state first = some left →
        system.step state second = some right →
          ∃ joined,
            system.step left second = some joined ∧
              system.step right first = some joined

/-- Nothing is enabled. -/
def Final (state : State) : Prop :=
  ∀ action, system.step state action = none

variable {system}

/-- A run from a final state goes nowhere. -/
theorem Final.runFrom_eq
    {state last : State}
    {actions : List Action}
    (isFinal : system.Final state)
    (taken : system.runFrom state actions = some last) :
    last = state := by
  cases actions with
  | nil => exact (Option.some.inj taken).symm
  | cons action rest =>
      rw [runFrom, isFinal action] at taken
      cases taken

/-- An enabled action is among those that lead to a final state, and can be
taken first. -/
theorem Commutes.runFrom_erase
    [DecidableEq Action]
    (commutes : system.Commutes)
    {state next final : State}
    {action : Action}
    {actions : List Action}
    (isFinal : system.Final final)
    (stepped : system.step state action = some next)
    (reached : system.runFrom state actions = some final) :
    action ∈ actions ∧
      system.runFrom next (actions.erase action) = some final := by
  induction actions generalizing state next with
  | nil =>
      cases reached
      rw [isFinal action] at stepped
      cases stepped
  | cons head rest induction =>
      rw [runFrom] at reached
      rcases Option.bind_eq_some_iff.mp reached with ⟨other, taken, others⟩
      by_cases same : head = action
      · subst same
        rw [stepped] at taken
        cases taken
        rw [List.erase_cons_head]
        exact ⟨List.mem_cons_self, others⟩
      · rcases commutes state head action other next same taken stepped with
          ⟨joined, second, first⟩
        have later := induction second others
        have notHead : ¬(head == action) = true := by simpa using same
        rw [List.erase_cons_tail notHead, runFrom, first, Option.bind_some]
        exact ⟨List.mem_cons_of_mem head later.1, later.2⟩

/-- Every run can be completed to the final state that another one reaches. -/
theorem Commutes.completes
    [DecidableEq Action]
    (commutes : system.Commutes)
    {state middle final : State}
    {actions others : List Action}
    (isFinal : system.Final final)
    (reached : system.runFrom state actions = some final)
    (taken : system.runFrom state others = some middle) :
    ∃ rest,
      system.runFrom middle rest = some final ∧
        (others ++ rest).Perm actions := by
  induction others generalizing state actions with
  | nil =>
      cases taken
      exact ⟨actions, reached, List.Perm.refl _⟩
  | cons action others induction =>
      rw [runFrom] at taken
      rcases Option.bind_eq_some_iff.mp taken with ⟨next, stepped, further⟩
      rcases commutes.runFrom_erase isFinal stepped reached with
        ⟨among, shorter⟩
      rcases induction shorter further with ⟨rest, completed, same⟩
      have whole := (same.cons action).trans (List.perm_cons_erase among).symm
      exact ⟨rest, completed, whole⟩

end TransitionSystem
