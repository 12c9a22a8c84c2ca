import Netycat.Executor.Count
import Netycat.Lib.Ledger

/-!
# The work of the resolver's calls

`IPResolver::resolve` calls `beginWork` and leaves `endWork` to the worker.
Here the calls are numbered and each worker is known by its call, so that it
can be said which calls have been matched, and how often.  The user matches
the work that the user has begun, and nothing else.

Between its `beginWork` and its `endWork` a worker posts its callback.  The
exception of a post that fails takes it past `endWork`, and no other party
will call that.
-/

namespace Netycat.Executor

open Netycat.Corecat Netycat.Impl State

variable {Time Target : Type*}

/-- A party, and the call of `resolve` whose worker it is. -/
structure Party (Target : Type*) where
  task : Task Target
  call : Option Nat

/-- The parties, the number of calls so far, the calls whose worker has called
`endWork`, in order, and the work that the user has to end. -/
structure Calls (Target : Type*) where
  parties : List (Party Target) := []
  begun : Nat := 0
  endWorks : List Nat := []
  userWork : Nat := 0

/-- The step of a worker that calls `endWork`. -/
def Task.endsWork : Task Target → Bool
  | .endingWork => true
  | _ => false

namespace Calls

/-- The calls that some of the parties work for. -/
def callsOf (parties : List (Party Target)) : List Nat :=
  parties.flatMap fun party => party.call.toList

/-- The calls whose worker has not finished. -/
def inProgress (calls : Calls Target) : List Nat :=
  callsOf calls.parties

/-- What has come to the front of the pool works for `call`. -/
def assign (call : Option Nat) (others : List (Party Target))
    (tasks : List (Task Target)) : List (Party Target) :=
  (tasks.take (tasks.length - others.length)).map (⟨·, call⟩) ++ others

/-- The account after an action that has left the parties at `tasks`. -/
def record (calls : Calls Target) (tasks : List (Task Target)) :
    Action Time Target → Calls Target
  | .resolve =>
      { calls with
          parties := assign (some calls.begun) calls.parties tasks
          begun := calls.begun + 1 }
  | .execute | .start _ _ =>
      { calls with parties := assign none calls.parties tasks }
  | .beginWork => { calls with userWork := calls.userWork + 1 }
  | .endWork => { calls with userWork := calls.userWork - 1 }
  | .advance index _ =>
      match Pool.take? calls.parties index with
      | none => calls
      | some (party, others) =>
          { calls with
              parties := assign party.call others tasks
              endWorks :=
                if party.task.endsWork then
                  calls.endWorks ++ party.call.toList
                else calls.endWorks }
  | _ => calls

/-- The user ends work that the user has begun. -/
def Allows (calls : Calls Target) : Action Time Target → Bool
  | .endWork => decide (0 < calls.userWork)
  | _ => true

end Calls

section System

variable [Ring Time] [LinearOrder Time] [FloorRing Time] [DecidableEq Target]

/-- The executor with the account of its resolver's calls. -/
def callSystem (clock : Time) (sockets : Target → Socket) :
    TransitionSystem (State Time Target × Calls Target)
      (Action Time Target) where
  init := (.initial clock sockets, {})
  step := fun state action =>
    if state.2.Allows action then
      (state.1.step action).map fun next =>
        (next, state.2.record next.tasks action)
    else none

end System

section States

variable [LinearOrder Time]

/-- All workers have finished and all that was posted has been dispatched. -/
structure Finished (state : State Time Target) (calls : Calls Target) :
    Prop where
  workers : calls.inProgress = []
  dispatched : state.live = []

/-- Every call has one `endWork`, or has a worker that will call it.  Once the
workers have finished, the counter is what it is without the calls, and when
nothing else is left `run` returns. -/
structure Balanced (state : State Time Target × Calls Target) : Prop where
  matched :
    ObjectAccount state.2.begun (List.range state.2.begun) state.2.endWorks
      state.2.inProgress
  back :
    state.2.inProgress = [] →
      state.1.overlappedCount = state.1.live.length + state.2.userWork
  returns :
    Finished state.1 state.2 →
      state.2.userWork = 0 →
        state.1.timerQueue.toList = [] →
          state.1.hasWork = false

/-- No worker's `PostQueuedCompletionStatus` fails. -/
def Posted (state : State Time Target × Calls Target) :
    Action Time Target → Prop
  | .advance index false =>
      ∀ id others,
        Pool.take? state.1.tasks index ≠ some (.posting id true, others)
  | _ => True

/-- What the steps without such a failure keep. -/
structure Assigned (state : State Time Target) (calls : Calls Target) :
    Prop where
  counted : state.Counted
  tasks : calls.parties.map Party.task = state.tasks
  workers :
    ∀ party ∈ calls.parties, party.call.toList.length = party.task.unmatched
  matched :
    ObjectAccount calls.begun (List.range calls.begun) calls.endWorks
      calls.inProgress
  userWork : state.work = calls.userWork

namespace Calls

theorem callsOf_perm
    {first second : List (Party Target)}
    (same : first.Perm second) :
    (callsOf first).Perm (callsOf second) :=
  same.flatMap_right _

theorem assign_eq
    {call : Option Nat}
    {others : List (Party Target)}
    {tasks front : List (Task Target)}
    (moved : tasks = front ++ others.map Party.task) :
    assign call others tasks = front.map (⟨·, call⟩) ++ others := by
  have size : tasks.length - others.length = front.length := by
    rw [moved, List.length_append, List.length_map, Nat.add_sub_cancel]
  rw [assign, size, moved, List.take_left]

/-- A worker is a party that has work to end. -/
theorem length_callsOf
    {parties : List (Party Target)}
    (workers :
      ∀ party ∈ parties, party.call.toList.length = party.task.unmatched) :
    (callsOf parties).length =
      ((parties.map Party.task).map Task.unmatched).sum := by
  rw [callsOf, List.length_flatMap, List.map_map]
  exact congrArg List.sum (List.map_congr_left workers)

end Calls

/-- The counter consists of what is live and of work that has an owner. -/
theorem Assigned.overlappedCount
    {state : State Time Target}
    {calls : Calls Target}
    (assigned : Assigned state calls) :
    state.overlappedCount =
      state.live.length + (calls.userWork + calls.inProgress.length) := by
  have owned := Calls.length_callsOf assigned.workers
  rw [assigned.tasks] at owned
  rw [assigned.counted, State.unmatchedWork, assigned.userWork, ← owned,
    Calls.inProgress]
  push_cast
  rfl

theorem Assigned.balanced
    {state : State Time Target}
    {calls : Calls Target}
    (assigned : Assigned state calls) :
    Balanced (state, calls) := by
  have count := assigned.overlappedCount
  have back :
      calls.inProgress = [] →
        state.overlappedCount = state.live.length + calls.userWork := by
    intro workers
    rw [workers] at count
    simpa using count
  refine ⟨assigned.matched, back, ?_⟩
  intro finished noUserWork noTimer
  have zero : state.overlappedCount = 0 := by
    rw [back finished.workers, finished.dispatched, noUserWork]
    rfl
  have empty := (MinHeap.isEmpty_iff state.timerQueue).mpr noTimer
  simp [State.hasWork, zero, empty]

/-- Nothing happens to the parties. -/
theorem Assigned.same
    {state next : State Time Target}
    {calls : Calls Target}
    (assigned : Assigned state calls)
    (counted : next.Counted)
    (tasks : next.tasks = state.tasks)
    (work : next.work = state.work) :
    Assigned next calls where
  counted := counted
  tasks := assigned.tasks.trans tasks.symm
  workers := assigned.workers
  matched := assigned.matched
  userWork := work.trans assigned.userWork

/-- A party joins the others. -/
theorem Assigned.join
    {state next : State Time Target}
    {calls : Calls Target}
    {task : Task Target}
    (assigned : Assigned state calls)
    (counted : next.Counted)
    (tasks : next.tasks = task :: state.tasks)
    (work : next.work = state.work)
    (noWork : task.unmatched = 0) :
    Assigned next
      { calls with parties := Calls.assign none calls.parties next.tasks } := by
  have joined :
      Calls.assign none calls.parties next.tasks =
        ⟨task, none⟩ :: calls.parties := by
    rw [← assigned.tasks] at tasks
    exact @Calls.assign_eq _ none calls.parties _ [task] tasks
  rw [joined]
  refine ⟨counted, ?_, ?_, assigned.matched, work.trans assigned.userWork⟩
  · rw [List.map_cons, assigned.tasks, tasks]
  · intro party member
    rcases List.mem_cons.mp member with rfl | old
    · exact noWork.symm
    · exact assigned.workers party old

/-- A new call has a worker. -/
theorem Assigned.resolve
    {state : State Time Target}
    {calls : Calls Target}
    (assigned : Assigned state calls)
    (counted : state.resolve.Counted) :
    Assigned state.resolve
      { calls with
          parties :=
            Calls.assign (some calls.begun) calls.parties state.resolve.tasks
          begun := calls.begun + 1 } := by
  have tasks :
      state.resolve.tasks =
        [.lookingUp] ++ calls.parties.map Party.task := by
    rw [assigned.tasks]
    rfl
  rw [Calls.assign_eq tasks]
  refine ⟨counted, tasks.symm, ?_, ?_, assigned.userWork⟩
  · intro party member
    rcases List.mem_cons.mp member with rfl | old
    · rfl
    · exact assigned.workers party old
  · have created := assigned.matched.create (List.Perm.refl _)
    rw [← List.range_succ] at created
    exact created

/-- Where the others stand when a party has been taken out. -/
structure Left (calls : Calls Target) (party : Party Target)
    (others : List (Party Target)) : Prop where
  inProgress :
    calls.inProgress.Perm (party.call.toList ++ Calls.callsOf others)
  workers :
    ∀ other ∈ others, other.call.toList.length = other.task.unmatched

theorem Assigned.left
    {state : State Time Target}
    {calls : Calls Target}
    {party : Party Target}
    {others : List (Party Target)}
    (assigned : Assigned state calls)
    (taken : calls.parties.Perm (party :: others)) :
    Left calls party others where
  inProgress := Calls.callsOf_perm taken
  workers := fun other member =>
    assigned.workers other
      (taken.mem_iff.mpr (List.mem_cons_of_mem party member))

/-- A party goes on, or a party that has no work to end leaves. -/
theorem Assigned.continue
    {state next : State Time Target}
    {calls : Calls Target}
    {party : Party Target}
    {others : List (Party Target)}
    {task : Task Target}
    {front : List (Task Target)}
    (assigned : Assigned state calls)
    (taken : calls.parties.Perm (party :: others))
    (is : party.task = task)
    (counted : next.Counted)
    (tasks : next.tasks = front ++ others.map Party.task)
    (work : next.work = state.work)
    (goesOn :
      (∃ later, front = [later] ∧ later.unmatched = task.unmatched) ∨
        front = [] ∧ task.unmatched = 0) :
    Assigned next
      { calls with
          parties := Calls.assign party.call others next.tasks } := by
  have left := assigned.left taken
  have owned :=
    assigned.workers party (taken.mem_iff.mpr List.mem_cons_self)
  rw [is] at owned
  rw [Calls.assign_eq tasks]
  rcases goesOn with ⟨later, rfl, sameWork⟩ | ⟨rfl, noWork⟩
  · refine ⟨counted, tasks.symm, ?_, ?_, work.trans assigned.userWork⟩
    · intro other member
      rcases List.mem_cons.mp member with rfl | old
      · exact owned.trans sameWork.symm
      · exact left.workers other old
    · exact assigned.matched.perm left.inProgress.symm
  · rw [noWork, List.length_eq_zero_iff] at owned
    have same := left.inProgress.symm
    rw [owned] at same
    exact
      ⟨counted, tasks.symm, left.workers, assigned.matched.perm same,
        work.trans assigned.userWork⟩

/-- A worker calls `endWork` for its call. -/
theorem Assigned.endWork
    {state next : State Time Target}
    {calls : Calls Target}
    {party : Party Target}
    {others : List (Party Target)}
    (assigned : Assigned state calls)
    (taken : calls.parties.Perm (party :: others))
    (is : party.task = .endingWork)
    (counted : next.Counted)
    (tasks : next.tasks = others.map Party.task)
    (work : next.work = state.work) :
    Assigned next
      { calls with
          parties := Calls.assign party.call others next.tasks
          endWorks := calls.endWorks ++ party.call.toList } := by
  have left := assigned.left taken
  have owned :=
    assigned.workers party (taken.mem_iff.mpr List.mem_cons_self)
  rw [is, Task.unmatched, List.length_eq_one_iff] at owned
  rcases owned with ⟨call, owned⟩
  have inProgress := left.inProgress
  rw [owned] at inProgress ⊢
  rw [@Calls.assign_eq _ _ others _ [] tasks]
  exact
    ⟨counted, tasks.symm, left.workers,
      assigned.matched.destroy inProgress, work.trans assigned.userWork⟩

/-- The party that an action moves, with the task that the executor knows it
by. -/
theorem Assigned.party_of_task
    {state : State Time Target}
    {calls : Calls Target}
    {index : Nat}
    {task : Task Target}
    {others : List (Task Target)}
    (assigned : Assigned state calls)
    (taken : Pool.take? state.tasks index = some (task, others)) :
    ∃ party left,
      Pool.take? calls.parties index = some (party, left) ∧
        party.task = task ∧ left.map Party.task = others := by
  rw [← assigned.tasks, Pool.take?_map, Option.map_eq_some_iff] at taken
  rcases taken with ⟨⟨party, left⟩, found, same⟩
  cases same
  exact ⟨party, left, found, rfl, rfl⟩

/-! ## Steps -/

/-- A step of a party, unless it is the failed post of a worker. -/
theorem Assigned.advance
    {state : State Time Target}
    {calls : Calls Target}
    {index : Nat}
    {succeeds : Bool}
    {task : Task Target}
    {others : List (Task Target)}
    (assigned : Assigned state calls)
    (taken : Pool.take? state.tasks index = some (task, others))
    (posted :
      Posted (state, calls) (.advance index succeeds : Action Time Target)) :
    Assigned (state.advance others succeeds task)
      (calls.record (state.advance others succeeds task).tasks
        (.advance index succeeds : Action Time Target)) := by
  have counted :=
    advance_counted succeeds (Pool.take?_perm taken) assigned.counted
  rcases assigned.party_of_task taken with ⟨party, left, found, is, rfl⟩
  have perm := Pool.take?_perm found
  simp only [Calls.record, found, is]
  cases task with
  | lookingUp =>
      refine assigned.continue perm is counted rfl rfl (Or.inl ⟨_, rfl, ?_⟩)
      rfl
  | posting id worker =>
      cases succeeds with
      | true =>
          cases worker with
          | true =>
              refine
                assigned.continue perm is counted rfl rfl
                  (Or.inl ⟨_, rfl, ?_⟩)
              rfl
          | false =>
              exact
                assigned.continue perm is counted rfl rfl (Or.inr ⟨rfl, rfl⟩)
      | false =>
          cases worker with
          | true => exact absurd taken (posted id _)
          | false =>
              exact
                assigned.continue perm is counted rfl rfl (Or.inr ⟨rfl, rfl⟩)
  | endingWork => exact assigned.endWork perm is counted rfl rfl
  | submitting id index closure =>
      cases succeeds with
      | true | false =>
          exact
            assigned.continue perm is counted rfl rfl (Or.inr ⟨rfl, rfl⟩)

variable [Ring Time] [FloorRing Time] [DecidableEq Target]

/-- Every step without a failed post of a worker keeps the account. -/
theorem Assigned.step
    {state next : State Time Target}
    {calls : Calls Target}
    {action : Action Time Target}
    (assigned : Assigned state calls)
    (allowed : calls.Allows action = true)
    (posted : Posted (state, calls) action)
    (transition : Transition state action next) :
    Assigned next (calls.record next.tasks action) := by
  have counted := transition.counted assigned.counted
  cases transition with
  | beginWork =>
      exact
        ⟨counted, assigned.tasks, assigned.workers, assigned.matched,
          congrArg (· + 1) assigned.userWork⟩
  | endWork begun =>
      exact
        ⟨counted, assigned.tasks, assigned.workers, assigned.matched,
          congrArg (· - 1) assigned.userWork⟩
  | resolve => exact assigned.resolve counted
  | execute => exact assigned.join counted rfl rfl rfl
  | startEnds self operation socket e started =>
      have same :
          Calls.assign none calls.parties state.tasks = calls.parties :=
        @Calls.assign_eq _ none calls.parties _ [] assigned.tasks.symm
      simp only [Calls.record, same]
      exact assigned.same counted rfl rfl
  | startSubmits self operation socket closure started =>
      exact assigned.join counted rfl rfl rfl
  | advance index succeeds task others taken =>
      exact assigned.advance taken posted
  | tick _ _ | useSocket _ _ | complete _ _ _ _ _ _ | wait _ _ | enter _
  | goesOn _ _ | returns _ _ | readClock _ | fires _ _ _ _ _ | swept _ _ _
  | pops _ _ _ _ _ | waits _ _ _ | sleeps _ _ _ _ | skips _ _ _ _
  | dispatches _ _ _ _ _ _ _ _ _ | timesOut _ _ _ | wakes _ _
  | returnsFromDispatch _ _ => exact assigned.same counted rfl rfl

/-- After a worker's failed post a call is missing from the account. -/
theorem Assigned.unbalanced
    {state next : State Time Target}
    {calls : Calls Target}
    {action : Action Time Target}
    (assigned : Assigned state calls)
    (failed : ¬Posted (state, calls) action)
    (transition : Transition state action next) :
    ¬Balanced (next, calls.record next.tasks action) := by
  cases transition with
  | advance index succeeds task others taken =>
      cases succeeds with
      | true => exact absurd trivial failed
      | false =>
          simp only [Posted, not_forall, not_not] at failed
          rcases failed with ⟨id, rest, failing⟩
          cases taken.symm.trans failing
          rcases assigned.party_of_task taken with
            ⟨party, left, found, is, rfl⟩
          have perm := Pool.take?_perm found
          have remaining := assigned.left perm
          have owned :=
            assigned.workers party (perm.mem_iff.mpr List.mem_cons_self)
          have lengths := remaining.inProgress.length_eq
          have before := assigned.matched.total_eq
          have noFront :
              Calls.assign party.call left (left.map Party.task) = left :=
            @Calls.assign_eq _ party.call left _ [] rfl
          have gone :
              (state.advance (left.map Party.task) false
                (.posting id true)).tasks = left.map Party.task := rfl
          intro balanced
          have after := balanced.matched.total_eq
          simp only [Calls.record, found, gone, noFront, is, Task.endsWork,
            Bool.false_eq_true, if_false, Calls.inProgress] at after
          rw [List.length_append, owned, is, Task.unmatched,
            Calls.inProgress] at lengths
          rw [Calls.inProgress] at before
          omega
  | _ => exact absurd trivial failed

/-! ## Whole runs -/

/-- With the account left out, a step is one of the executor. -/
theorem callSystem_step
    {clock : Time}
    {sockets : Target → Socket}
    {state next : State Time Target × Calls Target}
    {action : Action Time Target}
    (stepped : (callSystem clock sockets).step state action = some next) :
    state.2.Allows action = true ∧
      (system clock sockets).step state.1 action = some next.1 ∧
      next.2 = state.2.record next.1.tasks action := by
  simp only [callSystem] at stepped
  split at stepped
  · next allowed =>
      rcases Option.map_eq_some_iff.mp stepped with ⟨state', moved, same⟩
      cases same
      exact ⟨allowed, moved, rfl⟩
  · cases stepped

/-- With the account left out, a run is one of the executor. -/
theorem callSystem_run
    {clock : Time}
    {sockets : Target → Socket}
    {actions : List (Action Time Target)}
    {state last : State Time Target × Calls Target}
    (taken : (callSystem clock sockets).runFrom state actions = some last) :
    (system clock sockets).runFrom state.1 actions = some last.1 := by
  induction actions generalizing state with
  | nil =>
      cases taken
      rfl
  | cons action rest induction =>
      rw [TransitionSystem.runFrom] at taken ⊢
      rcases Option.bind_eq_some_iff.mp taken with ⟨next, stepped, others⟩
      rw [(callSystem_step stepped).2.1, Option.bind_some]
      exact induction others

theorem Assigned.init (clock : Time) (sockets : Target → Socket) :
    Assigned (callSystem clock sockets).init.1
      (callSystem clock sockets).init.2 where
  counted := rfl
  tasks := rfl
  workers := fun _ member => by cases member
  matched := .empty
  userWork := rfl

/-- Over a whole run with any number of calls, each has one `endWork` or a
worker that will call it, and the counter falls back when all is done, if and
only if no worker's post fails. -/
theorem resolve_calls_matched_iff
    {clock : Time}
    {sockets : Target → Socket}
    {actions : List (Action Time Target)}
    {last : State Time Target × Calls Target}
    (taken : (callSystem clock sockets).run actions = some last) :
    (callSystem clock sockets).Throughout Balanced actions ↔
      (callSystem clock sockets).Along Posted actions := by
  have kept :
      ∀ state action next,
        Posted state action → Assigned state.1 state.2 →
          (callSystem clock sockets).step state action = some next →
            Assigned next.1 next.2 := by
    intro state action next posted assigned stepped
    have parts := callSystem_step stepped
    rw [parts.2.2]
    exact assigned.step parts.1 posted (step_transition parts.2.1)
  have detected :
      ∀ state action next,
        ¬Posted state action → Assigned state.1 state.2 →
          (callSystem clock sockets).step state action = some next →
            ¬Balanced next := by
    intro state action next failed assigned stepped
    have parts := callSystem_step stepped
    have unbalanced :=
      assigned.unbalanced failed (step_transition parts.2.1)
    rw [← parts.2.2] at unbalanced
    exact unbalanced
  exact
    TransitionSystem.throughout_iff_along _ (Assigned.init clock sockets) kept
      (fun _ assigned => assigned.balanced) detected taken

end States

/-- Two calls whose callbacks are posted and dispatched. -/
def twoCalls : List (Action Int Unit) :=
  [.resolve, .resolve, .advance 0 true, .advance 1 false, .advance 0 true,
    .advance 0 true, .advance 0 true, .advance 0 true, .run .enter,
    .run .loopTest, .run .readClock, .run .sweep, .run .countTest,
    .run (.dequeue 0 true), .run .returnFromDispatch, .run .loopTest,
    .run .readClock, .run .sweep, .run .countTest, .run (.dequeue 0 true),
    .run .returnFromDispatch, .run .loopTest]

theorem resolve_calls_matched_iff_twoCalls :
    ∃ last,
      (callSystem 0 fun _ => { executor := true }).run twoCalls = some last ∧
        last.1.thread = .outside ∧
        last.2.endWorks = [0, 1] ∧
        ((callSystem 0 fun _ => { executor := true }).Throughout Balanced
            twoCalls ↔
          (callSystem 0 fun _ => { executor := true }).Along Posted
            twoCalls) :=
  ⟨_, rfl, rfl, rfl, resolve_calls_matched_iff rfl⟩

/-- A call whose callback cannot be posted. -/
def failedPost : List (Action Int Unit) :=
  [.resolve, .advance 0 true, .advance 0 false, .run .enter, .run .loopTest,
    .run .readClock, .run .sweep, .run .countTest]

/-- The worker has finished, nothing was posted, and `run` waits without
limit on a counter of one. -/
theorem failedPost_not_balanced :
    (∃ last,
        (callSystem 0 fun _ => { executor := true }).run failedPost =
            some last ∧
          Finished last.1 last.2 ∧
          last.2.userWork = 0 ∧
          last.1.overlappedCount = 1 ∧
          last.1.thread = .waiting INFINITE) ∧
      ¬∀ actions : List (Action Int Unit),
          (callSystem 0 fun _ => { executor := true }).Throughout Balanced
            actions := by
  refine ⟨⟨_, rfl, ⟨rfl, rfl⟩, rfl, rfl, rfl⟩, ?_⟩
  intro always
  have balanced :=
    (always failedPost).last (callSystem 0 fun _ => { executor := true }) rfl
  exact absurd (balanced.back rfl) (by decide)

end Netycat.Executor
