import Netycat.Executor.Count

/-!
# Name resolution and the wait without a limit

A resolver's worker posts its callback and then calls `endWork`, which lowers
the counter without waking anybody.  If `run` dispatches the callback and tests
the counter before that, and nothing else is outstanding, it waits for a
completion that nobody will post.

`Resolving` keeps to what is said of the resolver: posts succeed, work is begun
and ended by workers only, and an operation of the thread of `run` is submitted
before the thread goes on.  Along the runs of that system `run` is stranded
exactly when it tests the counter in the window described.
-/

namespace Netycat.Executor

open Netycat.Corecat Netycat.Impl State

variable {Time Target : Type*} [LinearOrder Time]

/-- The party is making an overlapped call. -/
def Task.isSubmitting : Task Target → Bool
  | .submitting _ _ _ => true
  | _ => false

/-- The party is calling `PostQueuedCompletionStatus`. -/
def Task.isPosting : Task Target → Bool
  | .posting _ _ => true
  | _ => false

/-- The steps of `run`, of the workers, and of operations on `run`'s thread. -/
def Resolving (state : State Time Target) : Action Time Target → Bool
  | .beginWork => false
  | .endWork => false
  | .start _ _ => state.thread.inUserCode
  | .advance index false =>
      match Pool.take? state.tasks index with
      | some (task, _) => !task.isPosting
      | none => false
  | .run _ => state.tasks.all fun task => !task.isSubmitting
  | _ => true

/--
A completion is queued or will be: by the operating system, or by a party that
has not yet performed its `execute` step.
-/
def Outstanding (state : State Time Target) : Prop :=
  state.port ≠ [] ∨ state.pending ≠ [] ∨
    ∃ task ∈ state.tasks, task ≠ .endingWork

/-- `run` waits without a limit for a completion that nobody will post. -/
structure Stranded (state : State Time Target) : Prop where
  blocked : state.thread = .waiting INFINITE
  noTimer : state.timerQueue.toList = []
  nothing : ¬ Outstanding state

/--
When `run` is about to test the counter and there is no timer, no worker is
between its `execute` and its `endWork`, unless something else is outstanding.
-/
def Prompt (state : State Time Target) : Action Time Target → Prop
  | .run .countTest =>
      state.timerQueue.toList = [] → .endingWork ∈ state.tasks →
        Outstanding state
  | _ => True

/-- What the prompt steps keep. -/
structure Supplied (state : State Time Target) : Prop where
  counted : state.Counted
  noUserWork : state.work = 0
  submitted :
    state.thread.inUserCode = false →
      ∀ task ∈ state.tasks, task.isSubmitting = false
  infinite :
    ∀ time, state.thread = .countTest time →
      state.timerQueue.toList = [] → time = INFINITE
  outstanding :
    ∀ time, state.thread = .waiting time →
      state.timerQueue.toList = [] → Outstanding state

theorem submitted_cons
    {state : State Time Target} {task : Task Target}
    {others : List (Task Target)} (tasks : state.tasks = task :: others)
    (first : task.isSubmitting = false)
    (rest : ∀ task ∈ others, task.isSubmitting = false) :
    ∀ task ∈ state.tasks, task.isSubmitting = false := by
  rw [tasks]
  intro other member
  rcases List.mem_cons.mp member with same | kept
  · rw [same]
    exact first
  · exact rest other kept

theorem Outstanding.cons
    {state : State Time Target} {task : Task Target}
    {others : List (Task Target)} (tasks : state.tasks = task :: others)
    (unposted : task ≠ .endingWork) :
    Outstanding state := by
  apply Or.inr
  apply Or.inr
  refine ⟨task, ?_, unposted⟩
  rw [tasks]
  exact List.mem_cons_self

/-- A step that leaves work, thread and timers alone. -/
theorem Supplied.idle
    {state next : State Time Target} (supplied : Supplied state)
    (counted : next.Counted) (work : next.work = 0)
    (thread : next.thread = state.thread)
    (timerQueue : next.timerQueue = state.timerQueue)
    (submitted :
      state.thread.inUserCode = false →
        ∀ task ∈ next.tasks, task.isSubmitting = false)
    (outstanding :
      state.thread.inUserCode = false →
        Outstanding state → Outstanding next) :
    Supplied next where
  counted := counted
  noUserWork := work
  submitted := by
    rw [thread]
    exact submitted
  infinite := by
    rw [thread, timerQueue]
    exact supplied.infinite
  outstanding := by
    intro time at_ noTimer
    rw [thread] at at_
    rw [timerQueue] at noTimer
    apply outstanding
    · rw [at_]
      rfl
    · exact supplied.outstanding time at_ noTimer

/-- A step of the thread of `run` that does not end in one of its tests. -/
theorem Supplied.move
    {state next : State Time Target} (supplied : Supplied state)
    (counted : next.Counted) (work : next.work = state.work)
    (tasks : next.tasks = state.tasks)
    (allSubmitted : ∀ task ∈ state.tasks, task.isSubmitting = false)
    (noTest : ∀ time, next.thread ≠ .countTest time)
    (noWait : ∀ time, next.thread ≠ .waiting time) :
    Supplied next where
  counted := counted
  noUserWork := work.trans supplied.noUserWork
  submitted := by
    intro _
    rw [tasks]
    exact allSubmitted
  infinite := fun time at_ => absurd at_ (noTest time)
  outstanding := fun time at_ => absurd at_ (noWait time)

theorem moveSubmitted
    {state : State Time Target} {move : Move}
    (allowed : Resolving state (.run move) = true) :
    ∀ task ∈ state.tasks, task.isSubmitting = false := by
  intro task member
  have submitted := List.all_eq_true.mp allowed task member
  rwa [Bool.not_eq_true'] at submitted

/-- What a counter that is not zero counts, seen from the test of `run`. -/
theorem Supplied.outstanding_of_nonzero
    {state : State Time Target} {time : Nat} (supplied : Supplied state)
    (at_ : state.thread = .countTest time)
    (nonzero : state.overlappedCount ≠ 0)
    (prompt : Prompt state (.run .countTest))
    (noTimer : state.timerQueue.toList = []) :
    Outstanding state := by
  by_contra nothing
  have counted := (counted_iff state).mp supplied.counted
  rw [Outstanding, not_or, not_or, not_not, not_not] at nothing
  rcases nothing with ⟨noPacket, noPending, allPosted⟩
  cases tasks : state.tasks with
  | nil =>
      apply nonzero
      simp [counted, at_, Thread.dispatched, tasks, noPacket, noPending,
        supplied.noUserWork]
  | cons task others =>
      have ending : task = .endingWork := by
        by_contra unposted
        apply allPosted
        exact ⟨task, by simp [tasks], unposted⟩
      apply allPosted
      rcases prompt noTimer (by simp [tasks, ending]) with
        queued | pending | unposted
      · exact absurd noPacket queued
      · exact absurd noPending pending
      · exact unposted

/-- A worker before its `endWork` is counted. -/
theorem Supplied.nonzero_of_late
    {state : State Time Target} (supplied : Supplied state)
    (late : ¬ Prompt state (.run .countTest)) :
    state.overlappedCount ≠ 0 := by
  simp only [Prompt, Classical.not_imp] at late
  rcases late with ⟨-, ending, -⟩
  rcases List.append_of_mem ending with ⟨before, after, tasks⟩
  rw [(counted_iff state).mp supplied.counted, tasks]
  simp only [taskLoad, List.map_append, List.map_cons, List.sum_append,
    List.sum_cons, Task.load, Task.unmatched]
  omega

/-- A worker that goes on leaves its completion, or leaves the others. -/
theorem Supplied.advance
    {state : State Time Target} {index : Nat} {succeeds : Bool}
    {task : Task Target} {others : List (Task Target)}
    (supplied : Supplied state)
    (taken : Pool.take? state.tasks index = some (task, others))
    (allowed : Resolving state (.advance index succeeds) = true) :
    Supplied (state.advance others succeeds task) := by
  have perm := Pool.take?_perm taken
  have counted :=
    advance_counted succeeds perm supplied.counted
  have othersSubmitted :
      state.thread.inUserCode = false →
        ∀ task ∈ others, task.isSubmitting = false :=
    fun busy other member =>
      supplied.submitted busy other
        (perm.mem_iff.mpr (List.mem_cons_of_mem task member))
  cases task with
  | lookingUp =>
      apply supplied.idle counted supplied.noUserWork rfl rfl
      · exact fun busy => submitted_cons rfl rfl (othersSubmitted busy)
      · exact fun _ _ => .cons rfl (by simp)
  | posting id worker =>
      cases succeeds with
      | true =>
          apply supplied.idle counted supplied.noUserWork rfl rfl
          · intro busy
            cases worker with
            | true =>
                exact submitted_cons rfl rfl (othersSubmitted busy)
            | false => exact othersSubmitted busy
          · intro _ _
            exact Or.inl (List.cons_ne_nil _ _)
      | false =>
          rw [Resolving, taken] at allowed
          cases allowed
  | endingWork =>
      apply supplied.idle counted supplied.noUserWork rfl rfl othersSubmitted
      rintro _ (queued | pending | ⟨other, member, unposted⟩)
      · exact Or.inl queued
      · exact Or.inr (Or.inl pending)
      · rcases List.mem_cons.mp (perm.mem_iff.mp member) with same | kept
        · exact absurd same unposted
        · exact Or.inr (Or.inr ⟨other, kept, unposted⟩)
  | submitting id index closure =>
      have inUserCode : state.thread.inUserCode = true := by
        by_contra busy
        have submitted :=
          supplied.submitted (Bool.eq_false_iff.mpr busy) _
            (perm.mem_iff.mpr List.mem_cons_self)
        cases submitted
      cases succeeds with
      | true =>
          apply supplied.idle counted supplied.noUserWork rfl rfl
          · exact othersSubmitted
          · intro _ _
            exact Or.inr (Or.inl (List.cons_ne_nil _ _))
      | false =>
          apply supplied.idle counted supplied.noUserWork rfl rfl
          · exact othersSubmitted
          · intro busy
            rw [inUserCode] at busy
            cases busy

/-! ## One step -/

variable [Ring Time] [FloorRing Time] [DecidableEq Target]

/-- The executor with resolvers whose posts succeed. -/
def resolving (clock : Time) (sockets : Target → Socket) :
    TransitionSystem (State Time Target) (Action Time Target) :=
  (system clock sockets).restrict Resolving

theorem Supplied.init (clock : Time) (sockets : Target → Socket) :
    Supplied (resolving clock sockets).init where
  counted := rfl
  noUserWork := rfl
  submitted := fun _ _ member => by cases member
  infinite := fun _ at_ => by cases at_
  outstanding := fun _ at_ => by cases at_

theorem timeout_of_noTimer
    {timerQueue : TimerQueue Time} (noTimer : timerQueue.toList = [])
    (now : Time) :
    timeout timerQueue now = INFINITE := by
  rw [timeout, (MinHeap.toList_eq_nil_iff timerQueue).mp noTimer]

theorem Supplied.step
    {state next : State Time Target} {action : Action Time Target}
    (prompt : Prompt state action) (supplied : Supplied state)
    (allowed : Resolving state action = true)
    (transition : Transition state action next) :
    Supplied next := by
  have counted := transition.counted supplied.counted
  cases transition with
  | tick _ _ | startEnds _ _ _ _ _ | useSocket _ _ =>
      exact
        supplied.idle counted supplied.noUserWork rfl rfl supplied.submitted
          fun _ => id
  | beginWork | endWork _ => cases allowed
  | resolve | execute =>
      apply supplied.idle counted supplied.noUserWork rfl rfl
      · exact fun busy => submitted_cons rfl rfl (supplied.submitted busy)
      · exact fun _ _ => .cons rfl (by simp)
  | startSubmits self operation socket closure started =>
      apply supplied.idle counted supplied.noUserWork rfl rfl
      · intro busy
        rw [Resolving, busy] at allowed
        cases allowed
      · exact fun _ _ => .cons rfl (by simp)
  | advance index succeeds task others taken =>
      exact supplied.advance taken allowed
  | complete index success byteCount overlapped others taken =>
      apply supplied.idle counted supplied.noUserWork rfl rfl
      · exact supplied.submitted
      · intro _ _
        exact Or.inl (List.cons_ne_nil _ _)
  | wait time inUserCode =>
      constructor
      · exact counted
      · exact supplied.noUserWork
      · exact supplied.submitted
      · intro time at_
        rw [show state.thread = .countTest time from at_] at inUserCode
        cases inUserCode
      · intro time at_
        rw [show state.thread = .waiting time from at_] at inUserCode
        cases inUserCode
  | enter _ | goesOn _ _ | returns _ _ | readClock _ | fires _ _ _ _ _
  | sleeps _ _ _ _ | skips _ _ _ _ | dispatches _ _ _ _ _ _ _ _ _
  | timesOut _ _ _ | wakes _ _ | returnsFromDispatch _ _ =>
      exact
        supplied.move counted rfl rfl (moveSubmitted allowed) (by simp)
          (by simp)
  | swept now at_ notDue =>
      constructor
      · exact counted
      · exact supplied.noUserWork
      · intro _
        have allSubmitted := moveSubmitted allowed
        exact allSubmitted
      · intro time at_ noTimer
        cases at_
        exact timeout_of_noTimer noTimer now
      · intro time at_
        cases at_
  | pops now running top at_ isTop =>
      exact
        supplied.move counted rfl rfl (moveSubmitted allowed)
          (by simp [afterPop]) (by simp [afterPop])
  | waits time at_ nonzero =>
      constructor
      · exact counted
      · exact supplied.noUserWork
      · intro _
        have allSubmitted := moveSubmitted allowed
        exact allSubmitted
      · intro other atOther
        cases atOther
      · intro other _ noTimer
        exact supplied.outstanding_of_nonzero at_ nonzero prompt noTimer

/-- The test of the counter in the window strands `run`. -/
theorem Supplied.stranded
    {state next : State Time Target} {action : Action Time Target}
    (late : ¬ Prompt state action) (supplied : Supplied state)
    (transition : Transition state action next) :
    Stranded next := by
  cases transition with
  | waits time at_ nonzero =>
      simp only [Prompt, Classical.not_imp] at late
      rcases late with ⟨noTimer, -, nothing⟩
      constructor
      · rw [supplied.infinite time at_ noTimer]
      · exact noTimer
      · exact nothing
  | sleeps time at_ zero finite =>
      exact absurd zero (supplied.nonzero_of_late late)
  | skips time at_ zero infinite =>
      exact absurd zero (supplied.nonzero_of_late late)
  | _ => exact absurd trivial late

/-! ## Whole runs -/

/--
With any number of resolvers in any interleaving, `run` is never left waiting
without a limit exactly when it never tests the counter in the window between
a worker's `execute` and its `endWork` with nothing else outstanding.
-/
theorem never_stranded_iff_prompt
    {clock : Time} {sockets : Target → Socket}
    {actions : List (Action Time Target)} {last : State Time Target}
    (taken : (resolving clock sockets).run actions = some last) :
    (resolving clock sockets).Throughout (¬ Stranded ·) actions ↔
      (resolving clock sockets).Along Prompt actions := by
  have kept :
      ∀ state action next,
        Prompt state action → Supplied state →
          (resolving clock sockets).step state action = some next →
            Supplied next := by
    intro state action next prompt supplied stepped
    have restricted := TransitionSystem.restrict_step _ stepped
    exact
      supplied.step prompt restricted.1 (step_transition restricted.2)
  have sound :
      ∀ state : State Time Target, Supplied state → ¬ Stranded state := by
    intro state supplied stranded
    exact
      stranded.nothing
        (supplied.outstanding INFINITE stranded.blocked stranded.noTimer)
  have detected :
      ∀ state action next,
        ¬ Prompt state action → Supplied state →
          (resolving clock sockets).step state action = some next →
            ¬ ¬ Stranded next := by
    intro state action next late supplied stepped unstranded
    have restricted := TransitionSystem.restrict_step _ stepped
    exact unstranded (supplied.stranded late (step_transition restricted.2))
  exact
    TransitionSystem.throughout_iff_along (resolving clock sockets)
      (Supplied.init clock sockets) kept sound detected taken

/-- One pass of `run` from the loop condition to the wait. -/
def pass : List (Action Int Unit) :=
  [.run .loopTest, .run .readClock, .run .sweep, .run .countTest]

/-- A worker that calls `endWork` before its callback is dispatched. -/
def promptLookup : List (Action Int Unit) :=
  [.resolve, .run .enter] ++ pass ++
    [.advance 0 true, .advance 0 true, .advance 0 true,
      .run (.dequeue 0 true), .run .returnFromDispatch, .run .loopTest]

theorem never_stranded_iff_prompt_promptLookup :
    ∃ last,
      (resolving 0 fun _ => { executor := true }).run promptLookup =
          some last ∧
        last.thread = .outside ∧
        ((resolving 0 fun _ => { executor := true }).Throughout
            (¬ Stranded ·) promptLookup ↔
          (resolving 0 fun _ => { executor := true }).Along Prompt
            promptLookup) :=
  ⟨_, rfl, rfl, never_stranded_iff_prompt rfl⟩

/-- A worker whose callback is dispatched before it calls `endWork`. -/
def lateLookup : List (Action Int Unit) :=
  [.resolve, .run .enter] ++ pass ++
    [.advance 0 true, .advance 0 true, .run (.dequeue 0 true),
      .run .returnFromDispatch] ++ pass ++
    [.advance 0 true]

/-- After the late `endWork` the counter is zero and `run` still waits. -/
theorem lateLookup_stranded :
    ¬ ∀ state : State Int Unit,
        (resolving 0 fun _ => { executor := true }).Reachable state →
          ¬ Stranded state := by
  intro never
  apply never _ ⟨lateLookup, rfl⟩
  constructor
  · rfl
  · rfl
  · rintro (queued | pending | ⟨task, member, _⟩)
    · exact queued rfl
    · exact pending rfl
    · cases member

end Netycat.Executor
