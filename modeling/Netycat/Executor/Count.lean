import Netycat.Executor.Transition

/-!
# What `overlappedCount` counts

In every reachable state the counter is the number of live `Overlapped` objects
and of the calls of `beginWork` that have not been matched.  The loop of `run`
ends on a counter of zero, so `run` returns with nothing live, nothing unmatched
and no timer.
-/

namespace Netycat.Executor

open Netycat.Corecat Netycat.Impl

namespace Task

variable {Target : Type*}

/-- What a party contributes to the counter. -/
def load (task : Task Target) : Nat :=
  task.overlapped.length + task.unmatched

end Task

namespace State

variable {Time Target : Type*} [LinearOrder Time]

/-- What the parties contribute to the counter. -/
def taskLoad (tasks : List (Task Target)) : Nat :=
  (tasks.map Task.load).sum

@[simp]
theorem taskLoad_nil : taskLoad ([] : List (Task Target)) = 0 := rfl

@[simp]
theorem taskLoad_cons (task : Task Target) (others : List (Task Target)) :
    taskLoad (task :: others) = task.load + taskLoad others := by
  simp [taskLoad]

theorem taskLoad_perm
    {first second : List (Task Target)} (same : first.Perm second) :
    taskLoad first = taskLoad second :=
  (same.map Task.load).sum_eq

theorem taskLoad_eq (tasks : List (Task Target)) :
    taskLoad tasks =
      (tasks.flatMap Task.overlapped).length +
        (tasks.map Task.unmatched).sum := by
  induction tasks with
  | nil => rfl
  | cons task others induction =>
      simp only [taskLoad_cons, induction, Task.load, List.flatMap_cons,
        List.length_append, List.map_cons, List.sum_cons]
      omega

/-- The counter is what there is to count. -/
def Counted (state : State Time Target) : Prop :=
  state.overlappedCount = state.live.length + state.unmatchedWork

/-- How far the counter is above what there is to count. -/
def surplus (state : State Time Target) : Int :=
  state.overlappedCount - (state.live.length + state.unmatchedWork)

/-- The places where something counted can be. -/
theorem surplus_eq (state : State Time Target) :
    state.surplus =
      state.overlappedCount -
        (state.thread.dispatched.length + taskLoad state.tasks +
          state.pending.length + state.port.length + state.work) := by
  rw [surplus, live, awaiting, unmatchedWork, taskLoad_eq]
  simp only [List.length_append, List.length_map, Nat.cast_add]
  omega

theorem counted_iff_surplus (state : State Time Target) :
    state.Counted ↔ state.surplus = 0 :=
  sub_eq_zero.symm

theorem counted_iff (state : State Time Target) :
    state.Counted ↔
      state.overlappedCount =
        state.thread.dispatched.length + taskLoad state.tasks +
          state.pending.length + state.port.length + state.work := by
  rw [counted_iff_surplus, surplus_eq]
  exact sub_eq_zero

/-- Only the counted places matter. -/
theorem surplus_congr
    {state next : State Time Target}
    (overlappedCount : next.overlappedCount = state.overlappedCount)
    (dispatched : next.thread.dispatched = state.thread.dispatched)
    (tasks : next.tasks = state.tasks) (pending : next.pending = state.pending)
    (port : next.port = state.port) (work : next.work = state.work) :
    next.surplus = state.surplus := by
  rw [surplus_eq, surplus_eq, overlappedCount, dispatched, tasks, pending,
    port, work]

/-- The step of a party keeps the surplus, whatever its outcome. -/
theorem advance_surplus
    {state : State Time Target} {task : Task Target}
    {others : List (Task Target)} (succeeds : Bool)
    (taken : state.tasks.Perm (task :: others)) :
    (state.advance others succeeds task).surplus = state.surplus := by
  rw [surplus_eq, surplus_eq state, taskLoad_perm taken, taskLoad_cons]
  cases task with
  | lookingUp =>
      simp only [advance, createOverlapped, taskLoad_cons, Task.load,
        Task.overlapped, Task.unmatched, List.length_nil,
        List.length_singleton, Nat.cast_add]
      omega
  | posting id worker =>
      cases succeeds with
      | true =>
          cases worker with
          | true =>
              simp [advance, Task.load, Task.overlapped, Task.unmatched]
              omega
          | false =>
              simp [advance, Task.load, Task.overlapped, Task.unmatched]
              omega
      | false =>
          cases worker with
          | true =>
              simp [advance, destroyOverlapped, Task.load, Task.overlapped,
                Task.unmatched]
              omega
          | false =>
              simp [advance, destroyOverlapped, Task.load, Task.overlapped,
                Task.unmatched]
              omega
  | endingWork =>
      simp [advance, Task.load, Task.overlapped, Task.unmatched]
      omega
  | submitting id index closure =>
      cases succeeds with
      | true =>
          simp [advance, Task.load, Task.overlapped, Task.unmatched]
          omega
      | false =>
          simp [advance, reject, emit, destroyOverlapped, Task.load,
            Task.overlapped, Task.unmatched]
          omega

/-- The step of a party keeps the counter right. -/
theorem advance_counted
    {state : State Time Target} {task : Task Target}
    {others : List (Task Target)} (succeeds : Bool)
    (taken : state.tasks.Perm (task :: others))
    (counted : state.Counted) :
    (state.advance others succeeds task).Counted := by
  rw [counted_iff_surplus] at counted ⊢
  exact (advance_surplus succeeds taken).trans counted

/-- The loop ends when nothing is left. -/
theorem Counted.idle
    {state : State Time Target} (counted : state.Counted)
    (hasNoWork : state.hasWork = false) :
    state.live = [] ∧ state.unmatchedWork = 0 ∧
      state.timerQueue.toList = [] := by
  simp only [hasWork, Bool.or_eq_false_iff, decide_eq_false_iff_not, not_not,
    Bool.not_eq_false'] at hasNoWork
  rcases hasNoWork with ⟨zero, empty⟩
  rw [Counted, zero] at counted
  refine ⟨?_, ?_, (MinHeap.isEmpty_iff _).mp empty⟩
  · apply List.eq_nil_of_length_eq_zero
    omega
  · omega

end State

section Steps

variable {Time Target : Type*}
variable [Ring Time] [LinearOrder Time] [FloorRing Time] [DecidableEq Target]

open State

/-- Every step changes the counter by what it adds to what there is to count. -/
theorem Transition.surplus
    {state next : State Time Target} {action : Action Time Target}
    (transition : Transition state action next) :
    next.surplus = state.surplus := by
  cases transition with
  | tick _ _ | startEnds _ _ _ _ _ | useSocket _ _ | wait _ _ => rfl
  | beginWork =>
      simp only [surplus_eq, State.beginWork, Nat.cast_add]
      omega
  | endWork begun =>
      simp only [surplus_eq, State.endWork]
      omega
  | resolve =>
      simp only [surplus_eq, State.resolve, taskLoad_cons, Task.load,
        Task.overlapped, Task.unmatched, List.length_nil]
      omega
  | execute =>
      simp only [surplus_eq, State.execute, createOverlapped, taskLoad_cons,
        Task.load, Task.overlapped, Task.unmatched, List.length_singleton]
      omega
  | startSubmits self operation socket closure started =>
      simp only [surplus_eq, taskLoad_cons, Task.load, Task.overlapped,
        Task.unmatched, List.length_singleton]
      omega
  | advance index succeeds task others taken =>
      exact advance_surplus succeeds (Pool.take?_perm taken)
  | complete index success byteCount overlapped others taken =>
      have same := (Pool.take?_perm taken).length_eq
      simp only [surplus_eq, List.length_cons] at same ⊢
      omega
  | enter at_ | goesOn at_ _ | returns at_ _ | readClock at_
  | fires _ _ at_ _ _ | swept _ at_ _ | pops _ _ _ at_ _ | waits _ at_ _
  | sleeps _ at_ _ _ | skips _ at_ _ _ | timesOut _ at_ _ | wakes _ at_ =>
      exact surplus_congr rfl (by rw [at_]; rfl) rfl rfl rfl rfl
  | dispatches index attached time packet others sockets at_ taken _ =>
      have same := (Pool.take?_perm taken).length_eq
      simp only [surplus_eq, at_, Thread.dispatched, List.length_nil,
        List.length_cons] at same ⊢
      omega
  | returnsFromDispatch overlapped at_ =>
      simp only [surplus_eq, at_, destroyOverlapped, Thread.dispatched,
        List.length_nil, List.length_singleton]
      omega

/-- Every step keeps the counter right. -/
theorem Transition.counted
    {state next : State Time Target} {action : Action Time Target}
    (transition : Transition state action next)
    (counted : state.Counted) :
    next.Counted := by
  rw [counted_iff_surplus] at counted ⊢
  exact transition.surplus.trans counted

/-- The counter is right in every reachable state. -/
theorem reachable_counted
    {clock : Time} {sockets : Target → Socket} {state : State Time Target}
    (reachable : (system clock sockets).Reachable state) :
    state.Counted := by
  apply TransitionSystem.Reachable.induction _ _ _ reachable
  · rfl
  · intro state action next _ counted stepped
    exact (step_transition stepped).counted counted

/--
In every reachable state `overlappedCount` is the number of live `Overlapped`
objects and unmatched calls of `beginWork`, so it is not negative, and `run`
returns only when neither these nor a timer are left.
-/
theorem overlappedCount_counts
    {clock : Time} {sockets : Target → Socket} {state : State Time Target}
    (reachable : (system clock sockets).Reachable state) :
    state.overlappedCount = state.live.length + state.unmatchedWork ∧
      0 ≤ state.overlappedCount ∧
      ∀ next,
        state.step (.run .loopTest) = some next →
          next.thread = .outside →
            next.live = [] ∧ next.unmatchedWork = 0 ∧
              next.timerQueue.toList = [] := by
  have counted := reachable_counted reachable
  refine ⟨counted, ?_, ?_⟩
  · rw [counted]
    exact Int.natCast_nonneg _
  · intro next stepped outside
    cases step_transition stepped with
    | goesOn at_ hasWork => cases outside
    | returns at_ hasNoWork =>
        have idle := counted.idle hasNoWork
        rw [live, at_] at idle
        exact idle

end Steps

/-- A worker has posted its callback, and a second one fails to post its own. -/
def twoLookups : List (Action Int Unit) :=
  [.resolve, .resolve, .advance 0 true, .advance 1 true, .run .enter,
    .run .loopTest, .advance 0 false, .advance 0 true]

theorem overlappedCount_counts_twoLookups :
    ∃ state,
      (system 0 fun _ => { executor := true }).run twoLookups = some state ∧
        state.overlappedCount = 3 ∧
        state.overlappedCount = state.live.length + state.unmatchedWork :=
  ⟨_, rfl, rfl, (overlappedCount_counts ⟨twoLookups, rfl⟩).1⟩

end Netycat.Executor
