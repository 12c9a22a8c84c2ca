import Mathlib.Data.List.Induction

/-!
# Guarded transition systems and conditions along their runs

A system is an initial state with an executable step function: `step state
action` is `some next` when the action is enabled and `none` otherwise.  A run
is the list of the actions taken, so a concrete run is evaluated by the same
function that the proofs reason about.

Two shapes of statement are used about runs.  `Throughout property actions`
says that every state met along the run has the property, the first and the
last included.  `Along condition actions` says that every step of the run is
taken from a state that meets the condition.  The rules below derive the first
from the second through an invariant, and give the converse when the failure
of the condition shows before the run ends.
-/

/-- A guarded transition system: an initial state and a partial step. -/
structure TransitionSystem (State Action : Type*) where
  init : State
  step : State → Action → Option State

namespace TransitionSystem

variable {State Action : Type*} (system : TransitionSystem State Action)

/-- Take the listed actions from `state`; `none` when one of them is disabled. -/
def runFrom (state : State) : List Action → Option State
  | [] => some state
  | action :: rest =>
      (system.step state action).bind fun next => runFrom next rest

/-- Take the listed actions from the initial state. -/
def run (actions : List Action) : Option State :=
  system.runFrom system.init actions

@[simp]
theorem run_nil : system.run [] = some system.init := rfl

theorem runFrom_append
    (state : State) (first second : List Action) :
    system.runFrom state (first ++ second) =
      (system.runFrom state first).bind fun middle =>
        system.runFrom middle second := by
  induction first generalizing state with
  | nil => rfl
  | cons action rest induction =>
      simp only [List.cons_append, runFrom]
      cases system.step state action with
      | none => rfl
      | some next => simpa using induction next

/-- The last action of a run is taken from the state the others lead to. -/
theorem run_concat (actions : List Action) (action : Action) :
    system.run (actions ++ [action]) =
      (system.run actions).bind fun state => system.step state action := by
  rw [run, runFrom_append, run]
  cases system.runFrom system.init actions with
  | none => rfl
  | some state =>
      simp only [Option.bind_some, runFrom]
      cases system.step state action <;> rfl

/-- An initial part of a run that can be taken can itself be taken. -/
theorem run_isSome_of_append
    {first second : List Action} {last : State}
    (taken : system.run (first ++ second) = some last) :
    ∃ middle, system.run first = some middle := by
  rw [run, runFrom_append] at taken
  cases reached : system.runFrom system.init first with
  | none => simp [reached] at taken
  | some middle => exact ⟨middle, reached⟩

/-! ## Invariants of all reachable states -/

/-- The states some run leads to. -/
def Reachable (state : State) : Prop :=
  ∃ actions, system.run actions = some state

theorem Reachable.init : system.Reachable system.init :=
  ⟨[], rfl⟩

theorem Reachable.step
    {state next : State} {action : Action}
    (reachable : system.Reachable state)
    (stepped : system.step state action = some next) :
    system.Reachable next := by
  rcases reachable with ⟨actions, reached⟩
  exact ⟨actions ++ [action], by simp [run_concat, reached, stepped]⟩

/--
What holds initially and is kept by every step between reachable states holds
of every reachable state.
-/
theorem Reachable.induction
    {property : State → Prop}
    (initial : property system.init)
    (kept :
      ∀ state action next,
        system.Reachable state → property state →
          system.step state action = some next → property next)
    {state : State}
    (reachable : system.Reachable state) :
    property state := by
  rcases reachable with ⟨actions, reached⟩
  induction actions using List.reverseRecOn generalizing state with
  | nil =>
      rw [run_nil, Option.some.injEq] at reached
      exact reached ▸ initial
  | append_singleton actions action induction =>
      rw [run_concat] at reached
      rcases Option.bind_eq_some_iff.mp reached with ⟨middle, taken, stepped⟩
      exact kept middle action state ⟨actions, taken⟩ (induction taken) stepped

/-- What every step keeps holds after any actions taken from where it holds. -/
theorem runFrom_keeps
    {property : State → Prop}
    (kept :
      ∀ state action next,
        property state → system.step state action = some next →
          property next)
    {state last : State} {actions : List Action}
    (holds : property state)
    (taken : system.runFrom state actions = some last) :
    property last := by
  induction actions generalizing state with
  | nil =>
      rw [runFrom, Option.some.injEq] at taken
      exact taken ▸ holds
  | cons action rest induction =>
      rw [runFrom] at taken
      rcases Option.bind_eq_some_iff.mp taken with ⟨next, stepped, others⟩
      exact induction (kept state action next holds stepped) others

/-! ## Leading from one state to another -/

/-- Some run leads from one state to the other. -/
def Leads (state next : State) : Prop :=
  ∃ actions, system.runFrom state actions = some next

theorem Leads.refl (state : State) : system.Leads state state :=
  ⟨[], rfl⟩

theorem Leads.step
    {state next : State} {action : Action}
    (stepped : system.step state action = some next) :
    system.Leads state next :=
  ⟨[action], by simp [runFrom, stepped]⟩

theorem Leads.trans
    {first second third : State}
    (one : system.Leads first second)
    (other : system.Leads second third) :
    system.Leads first third := by
  rcases one with ⟨actions, taken⟩
  rcases other with ⟨others, further⟩
  exact ⟨actions ++ others, by simp [runFrom_append, taken, further]⟩

/-! ## Disabling steps -/

/-- The system in which only the allowed steps are taken. -/
def restrict (allowed : State → Action → Bool) :
    TransitionSystem State Action where
  init := system.init
  step := fun state action =>
    if allowed state action then system.step state action else none

theorem restrict_step
    {allowed : State → Action → Bool}
    {state next : State} {action : Action}
    (stepped : (system.restrict allowed).step state action = some next) :
    allowed state action = true ∧ system.step state action = some next := by
  simp only [restrict] at stepped
  split at stepped
  case isTrue isAllowed => exact ⟨isAllowed, stepped⟩
  case isFalse => cases stepped

/-! ## Properties and conditions along one run -/

/-- Every state met along the run has the property. -/
def Throughout (property : State → Prop) (actions : List Action) : Prop :=
  ∀ before after state,
    actions = before ++ after → system.run before = some state →
      property state

/-- Every step of the run is taken from a state that meets the condition. -/
def Along
    (condition : State → Action → Prop) (actions : List Action) : Prop :=
  ∀ before action after state,
    actions = before ++ action :: after → system.run before = some state →
      condition state action

theorem Throughout.last
    {property : State → Prop} {actions : List Action} {state : State}
    (throughout : system.Throughout property actions)
    (reached : system.run actions = some state) :
    property state :=
  throughout actions [] state (List.append_nil actions).symm reached

theorem Throughout.mono
    {property weaker : State → Prop} {actions : List Action}
    (throughout : system.Throughout property actions)
    (implied : ∀ state, property state → weaker state) :
    system.Throughout weaker actions :=
  fun before after state split reached =>
    implied state (throughout before after state split reached)

theorem Along.initial
    {condition : State → Action → Prop} {first second : List Action}
    (along : system.Along condition (first ++ second)) :
    system.Along condition first := by
  intro before action after state split reached
  refine along before action (after ++ second) state ?_ reached
  rw [split, List.append_assoc, List.cons_append]

/--
An invariant that holds initially and is kept by every step that meets the
condition holds throughout every run whose steps all meet the condition.
-/
theorem Along.throughout
    {condition : State → Action → Prop} {invariant : State → Prop}
    {actions : List Action}
    (initial : invariant system.init)
    (kept :
      ∀ state action next,
        condition state action → invariant state →
          system.step state action = some next → invariant next)
    (along : system.Along condition actions) :
    system.Throughout invariant actions := by
  intro before after state split reached
  have alongBefore : system.Along condition before :=
    Along.initial system (split ▸ along)
  clear split along
  induction before using List.reverseRecOn generalizing state with
  | nil =>
      rw [run_nil, Option.some.injEq] at reached
      exact reached ▸ initial
  | append_singleton before action induction =>
      rw [run_concat] at reached
      rcases Option.bind_eq_some_iff.mp reached with ⟨middle, taken, stepped⟩
      have holds : invariant middle :=
        induction middle taken (Along.initial system alongBefore)
      exact
        kept middle action state
          (alongBefore before action [] middle rfl taken) holds stepped

/--
Once a run that has the property throughout is in a doomed state, it stays in
doomed states, so it cannot end in one that is not.
-/
theorem Throughout.doomed_last
    {property doomed : State → Prop}
    {first second : List Action} {state last : State}
    (persists :
      ∀ state action next,
        doomed state → property state → property next →
          system.step state action = some next → doomed next)
    (throughout : system.Throughout property (first ++ second))
    (reached : system.run first = some state)
    (isDoomed : doomed state)
    (taken : system.run (first ++ second) = some last) :
    doomed last := by
  induction second generalizing first state with
  | nil =>
      rw [List.append_nil, reached, Option.some.injEq] at taken
      exact taken ▸ isDoomed
  | cons action rest induction =>
      have split : first ++ action :: rest = first ++ [action] ++ rest :=
        (List.append_cons first action rest)
      rw [split] at throughout taken
      rcases system.run_isSome_of_append taken with ⟨next, reachedNext⟩
      have stepped : system.step state action = some next := by
        rw [run_concat, reached, Option.bind_some] at reachedNext
        exact reachedNext
      have now : property state :=
        throughout first ([action] ++ rest) state
          (List.append_assoc first [action] rest) reached
      have afterwards : property next :=
        throughout (first ++ [action]) rest next rfl reachedNext
      exact
        induction throughout reachedNext
          (persists state action next isDoomed now afterwards stepped) taken

/--
When an invariant of the good steps implies the property, and a step that
breaks the condition leaves a state from which the property must fail before
the run may end, the property holds throughout a run exactly when all its steps
meet the condition.
-/
theorem throughout_iff_along_of_doomed
    {condition : State → Action → Prop}
    {invariant property doomed : State → Prop}
    {actions : List Action} {last : State}
    (initial : invariant system.init)
    (kept :
      ∀ state action next,
        condition state action → invariant state →
          system.step state action = some next → invariant next)
    (sound : ∀ state, invariant state → property state)
    (detected :
      ∀ state action next,
        ¬ condition state action → invariant state →
          system.step state action = some next → doomed next)
    (persists :
      ∀ state action next,
        doomed state → property state → property next →
          system.step state action = some next → doomed next)
    (ended : property last → ¬ doomed last)
    (taken : system.run actions = some last) :
    system.Throughout property actions ↔ system.Along condition actions := by
  constructor
  · intro throughout before action after state split reached
    induction sizeBefore : before.length using Nat.strongRecOn
      generalizing before action after state with
    | _ length induction =>
        have alongBefore : system.Along condition before := by
          intro earlier first rest source splitBefore reachedSource
          refine
            induction earlier.length ?_ earlier first
              (rest ++ action :: after) source ?_ reachedSource rfl
          · rw [← sizeBefore, splitBefore]
            simp
          · rw [split, splitBefore, List.append_assoc, List.cons_append]
        have holds : invariant state :=
          (Along.throughout system initial kept alongBefore).last
            system reached
        by_contra broken
        have whole : actions = (before ++ [action]) ++ after := by
          rw [split, List.append_assoc, List.singleton_append]
        rcases system.run_isSome_of_append (whole ▸ taken) with
          ⟨next, reachedNext⟩
        have stepped : system.step state action = some next := by
          rw [run_concat, reached, Option.bind_some] at reachedNext
          exact reachedNext
        apply ended (throughout.last system taken)
        apply Throughout.doomed_last system persists (whole ▸ throughout)
          reachedNext
        · exact detected state action next broken holds stepped
        · exact whole ▸ taken
  · intro along
    exact
      (Along.throughout system initial kept along).mono system sound

/-- The rule when the property fails in the very state that follows. -/
theorem throughout_iff_along
    {condition : State → Action → Prop}
    {invariant property : State → Prop}
    {actions : List Action} {last : State}
    (initial : invariant system.init)
    (kept :
      ∀ state action next,
        condition state action → invariant state →
          system.step state action = some next → invariant next)
    (sound : ∀ state, invariant state → property state)
    (detected :
      ∀ state action next,
        ¬ condition state action → invariant state →
          system.step state action = some next → ¬ property next)
    (taken : system.run actions = some last) :
    system.Throughout property actions ↔ system.Along condition actions := by
  have persists :
      ∀ state action next,
        ¬ property state → property state → property next →
          system.step state action = some next → ¬ property next :=
    fun _ _ _ broken holds _ _ => absurd holds broken
  exact
    throughout_iff_along_of_doomed system initial kept sound detected
      persists (fun holds broken => broken holds) taken

end TransitionSystem
