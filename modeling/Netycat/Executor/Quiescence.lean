import Mathlib.Data.Finset.Dedup
import Mathlib.Data.Finset.Order
import Netycat.Executor.Resolving
import Netycat.Executor.Throwing

/-!
# When `run` can return

Nobody starts anything new.  What is left are the steps of the parties that are
in the middle of something, of the operating system, of the clock and of the
thread itself.  From then on `run` can return if every `beginWork` of the user
has been matched and the thread does not wait without limit for a completion
that nobody will post, and never otherwise.
-/

namespace Netycat.Executor

open Netycat.Corecat Netycat.Impl

variable {Time Target : Type*}

/-- The steps that are left when nobody starts anything. -/
def Action.isUnattended : Action Time Target → Bool
  | .tick _ => true
  | .advance _ _ => true
  | .complete _ _ _ => true
  | .run _ => true
  | _ => false

variable [Ring Time] [LinearOrder Time] [FloorRing Time] [DecidableEq Target]

/-- The executor when nobody starts anything. -/
def unattended (clock : Time) (sockets : Target → Socket) :
    TransitionSystem (State Time Target) (Action Time Target) :=
  (system clock sockets).restrict fun _ action => action.isUnattended

theorem unattended_step
    {clock : Time} {sockets : Target → Socket}
    {state next : State Time Target} {action : Action Time Target}
    (stepped : (unattended clock sockets).step state action = some next) :
    action.isUnattended = true ∧ Transition state action next :=
  (TransitionSystem.restrict_step (system clock sockets) stepped).imp
    id step_transition

/-! ## What goes on for ever -/

section Forever

variable {state next : State Time Target} {action : Action Time Target}

/-- The thread is in `run`, and there is work that the user has begun. -/
def Occupied (state : State Time Target) : Prop :=
  state.Counted ∧ 0 < state.work ∧ state.thread ≠ .outside

theorem Transition.occupied
    (transition : Transition state action next)
    (own : action.isUnattended = true)
    (occupied : Occupied state) :
    Occupied next := by
  rcases occupied with ⟨counted, begun, inside⟩
  refine ⟨transition.counted counted, ?_⟩
  cases transition with
  | beginWork | endWork _ | resolve | execute | startEnds _ _ _ _ _
  | startSubmits _ _ _ _ _ | useSocket _ _ | wait _ _ => cases own
  | returns at_ hasNoWork =>
      have unmatched := (counted.idle hasNoWork).2.1
      rw [State.unmatchedWork] at unmatched
      omega
  | advance index succeeds task others taken =>
      cases task with
      | lookingUp | endingWork => exact ⟨begun, inside⟩
      | posting id worker =>
          cases succeeds with
          | true => exact ⟨begun, inside⟩
          | false =>
              refine ⟨?_, inside⟩
              simp only [State.advance, Bool.false_eq_true, if_false]
              split
              · exact Nat.succ_pos _
              · exact begun
      | submitting id index closure =>
          cases succeeds with
          | true => exact ⟨begun, inside⟩
          | false => exact ⟨begun, inside⟩
  | tick _ _ | complete _ _ _ _ _ _ => exact ⟨begun, inside⟩
  | _ => exact ⟨begun, fun impossible => by cases impossible⟩

/-- The thread waits without limit and nothing will come. -/
def Forgotten (state : State Time Target) : Prop :=
  state.thread = .waiting INFINITE ∧ ¬ Outstanding state

theorem Transition.forgotten
    (transition : Transition state action next)
    (own : action.isUnattended = true)
    (forgotten : Forgotten state) :
    Forgotten next := by
  rcases forgotten with ⟨blocked, nothing⟩
  have noPort : state.port = [] := by
    by_contra some_
    exact nothing (Or.inl some_)
  have noPending : state.pending = [] := by
    by_contra some_
    exact nothing (Or.inr (Or.inl some_))
  have ending : ∀ task ∈ state.tasks, task = .endingWork := by
    intro task inside
    by_contra other
    exact nothing (Or.inr (Or.inr ⟨task, inside, other⟩))
  cases transition with
  | beginWork | endWork _ | resolve | execute | startEnds _ _ _ _ _
  | startSubmits _ _ _ _ _ | useSocket _ _ | wait _ _ => cases own
  | tick _ _ => exact ⟨blocked, nothing⟩
  | complete index success byteCount overlapped others taken =>
      rw [noPending] at taken
      cases taken
  | advance index succeeds task others taken =>
      have same := Pool.take?_perm taken
      have isEnding := ending task (same.mem_iff.mpr List.mem_cons_self)
      subst isEnding
      refine ⟨blocked, ?_⟩
      rintro (port | pending | ⟨other, inside, different⟩)
      · exact port noPort
      · exact pending noPending
      · exact
          different
            (ending other (same.mem_iff.mpr (List.mem_cons_of_mem _ inside)))
  | dispatches index attached time packet others sockets at_ taken stored =>
      rw [noPort] at taken
      cases taken
  | timesOut time at_ finite =>
      rw [blocked] at at_
      cases at_
      exact absurd rfl finite
  | enter at_ | goesOn at_ _ | returns at_ _ | readClock at_
  | fires _ _ at_ _ _ | swept _ at_ _ | pops _ _ _ at_ _ | waits _ at_ _
  | sleeps _ at_ _ _ | skips _ at_ _ _ | wakes _ at_
  | returnsFromDispatch _ at_ =>
      rw [blocked] at at_
      cases at_

end Forever

/-! ## Everything that is under way ends -/

section Returning

variable (clock : Time) (sockets : Target → Socket)

theorem leads_step
    {state next : State Time Target}
    {action : Action Time Target}
    (own : action.isUnattended = true)
    (stepped : state.step action = some next) :
    (unattended clock sockets).Leads state next := by
  apply TransitionSystem.Leads.step (unattended clock sockets)
  show (if action.isUnattended = true then _ else _) = _
  rw [if_pos own]
  exact stepped

/-- What the ends of parties and of calls leave as it is. -/
structure Meanwhile (state next : State Time Target) : Prop where
  thread : next.thread = state.thread
  timerQueue : next.timerQueue = state.timerQueue
  clock : next.clock = state.clock
  work : next.work = state.work
  counted : state.Counted → next.Counted
  outstanding : Outstanding state → Outstanding next

omit [Ring Time] [FloorRing Time] [DecidableEq Target] in
theorem Meanwhile.trans
    {first second third : State Time Target}
    (one : Meanwhile first second)
    (other : Meanwhile second third) :
    Meanwhile first third where
  thread := other.thread.trans one.thread
  timerQueue := other.timerQueue.trans one.timerQueue
  clock := other.clock.trans one.clock
  work := other.work.trans one.work
  counted := fun counted => other.counted (one.counted counted)
  outstanding := fun outstanding =>
    other.outstanding (one.outstanding outstanding)

/-- How many steps a party still has to take when all succeeds. -/
def Task.steps : Task Target → Nat
  | .lookingUp => 3
  | .posting _ true => 2
  | .posting _ false => 1
  | .endingWork => 1
  | .submitting _ _ _ => 1

def State.taskSteps (tasks : List (Task Target)) : Nat :=
  (tasks.map Task.steps).sum

/-- A party takes a step, and the call that it makes succeeds. -/
theorem advance_meanwhile
    {state : State Time Target}
    {task : Task Target}
    {others : List (Task Target)}
    (tasks : state.tasks = task :: others) :
    Meanwhile state (state.advance others true task) ∧
      State.taskSteps (state.advance others true task).tasks + 1 =
        State.taskSteps state.tasks := by
  have stepped :
      state.step (.advance 0 true) = some (state.advance others true task) := by
    rw [State.step, tasks]
    rfl
  have counted := (step_transition stepped).counted
  rw [tasks]
  cases task with
  | lookingUp =>
      refine ⟨⟨rfl, rfl, rfl, rfl, counted, fun _ => ?_⟩, ?_⟩
      · exact Or.inr (Or.inr ⟨_, List.mem_cons_self, by simp⟩)
      · simp [State.advance, State.createOverlapped, State.taskSteps,
          Task.steps]
        omega
  | posting id worker =>
      refine ⟨⟨rfl, rfl, rfl, rfl, counted, fun _ => ?_⟩, ?_⟩
      · exact Or.inl (List.cons_ne_nil _ _)
      · cases worker with
        | true | false =>
            simp [State.advance, State.taskSteps, Task.steps]
            omega
  | endingWork =>
      refine ⟨⟨rfl, rfl, rfl, rfl, counted, ?_⟩, ?_⟩
      · rintro (port | pending | ⟨task, inside, different⟩)
        · exact Or.inl port
        · exact Or.inr (Or.inl pending)
        · rw [tasks] at inside
          rcases List.mem_cons.mp inside with rfl | later
          · exact absurd rfl different
          · exact Or.inr (Or.inr ⟨task, later, different⟩)
      · simp [State.advance, State.taskSteps, Task.steps]
        omega
  | submitting id index closure =>
      refine ⟨⟨rfl, rfl, rfl, rfl, counted, fun _ => ?_⟩, ?_⟩
      · exact Or.inr (Or.inl (List.cons_ne_nil _ _))
      · simp [State.advance, State.taskSteps, Task.steps]
        omega

/-- All parties come to their ends. -/
theorem tasks_end (state : State Time Target) :
    ∃ next,
      (unattended clock sockets).Leads state next ∧
        Meanwhile state next ∧ next.tasks = [] := by
  induction measure : State.taskSteps state.tasks generalizing state with
  | zero =>
      refine ⟨state, .refl _ _, ⟨rfl, rfl, rfl, rfl, id, id⟩, ?_⟩
      cases tasks : state.tasks with
      | nil => rfl
      | cons task others =>
          have less := (advance_meanwhile tasks).2
          omega
  | succ count induction =>
      cases tasks : state.tasks with
      | nil =>
          rw [tasks] at measure
          cases measure
      | cons task others =>
          have advanced := advance_meanwhile tasks
          rcases induction (state.advance others true task) (by omega) with
            ⟨next, leads, meanwhile, ended⟩
          have stepped :
              state.step (.advance 0 true) =
                some (state.advance others true task) := by
            rw [State.step, tasks]
            rfl
          have first := leads_step clock sockets rfl stepped
          exact
            ⟨next, first.trans _ leads, advanced.1.trans meanwhile, ended⟩

/-- All calls are completed. -/
theorem calls_end
    (state : State Time Target)
    (idle : state.tasks = []) :
    ∃ next,
      (unattended clock sockets).Leads state next ∧
        Meanwhile state next ∧ next.tasks = [] ∧ next.pending = [] := by
  induction waiting : state.pending generalizing state with
  | nil =>
      exact
        ⟨state, .refl _ _, ⟨rfl, rfl, rfl, rfl, id, id⟩, idle, waiting⟩
  | cons overlapped others induction =>
      let completed : State Time Target :=
        { state with
            pending := others
            port := ⟨overlapped, true, 0⟩ :: state.port }
      have stepped : state.step (.complete 0 true 0) = some completed := by
        rw [State.step, waiting]
        rfl
      have first : Meanwhile state completed :=
        { thread := rfl
          timerQueue := rfl
          clock := rfl
          work := rfl
          counted := (step_transition stepped).counted
          outstanding := fun _ => Or.inl (List.cons_ne_nil _ _) }
      rcases induction completed idle rfl with ⟨next, leads, meanwhile, ended⟩
      exact
        ⟨next, (leads_step clock sockets rfl stepped).trans _ leads,
          first.trans meanwhile, ended⟩

/-! ## The thread alone -/

/-- Only the thread has something to do, and all timers are due. -/
structure Alone (state : State Time Target) : Prop where
  tasks : state.tasks = []
  pending : state.pending = []
  work : state.work = 0
  counted : state.Counted
  due : ∀ timer ∈ state.timerQueue.toList, timer.timePoint ≤ state.clock
  queued :
    ∀ now timer,
      state.thread = .firing now timer → state.timerQueue.toList ≠ []

omit [Ring Time] [FloorRing Time] [DecidableEq Target] in
theorem Alone.count
    {state : State Time Target}
    (alone : Alone state) :
    state.overlappedCount =
      state.thread.dispatched.length + state.port.length := by
  rw [(state.counted_iff).mp alone.counted, alone.tasks, alone.pending,
    alone.work, State.taskLoad_nil]
  simp

/-- A step of the thread leaves all else as it is. -/
structure Alone.Leaves (state next : State Time Target) : Prop where
  tasks : next.tasks = state.tasks
  pending : next.pending = state.pending
  work : next.work = state.work
  clock : next.clock = state.clock
  timers :
    ∀ timer ∈ next.timerQueue.toList, timer ∈ state.timerQueue.toList
  queued :
    ∀ now timer,
      next.thread = .firing now timer → next.timerQueue.toList ≠ []

theorem Alone.move
    {state next : State Time Target}
    {move : Move}
    (alone : Alone state)
    (moved : state.moveThread move state.thread = some next)
    (leaves : Alone.Leaves state next) :
    (unattended clock sockets).Leads state next ∧ Alone next := by
  have stepped : state.step (.run move) = some next := moved
  refine ⟨leads_step clock sockets rfl stepped, ?_⟩
  exact
    { tasks := leaves.tasks.trans alone.tasks
      pending := leaves.pending.trans alone.pending
      work := leaves.work.trans alone.work
      counted := (moveThread_transition moved).counted alone.counted
      due := by
        intro timer inside
        rw [leaves.clock]
        exact alone.due timer (leaves.timers timer inside)
      queued := leaves.queued }

/-- A step that changes nothing but where the thread is. -/
theorem Alone.goes
    {state : State Time Target}
    {move : Move}
    {thread : Thread Time Target}
    (alone : Alone state)
    (moved :
      state.moveThread move state.thread = some { state with thread := thread })
    (notFiring : ∀ now timer, thread ≠ .firing now timer) :
    (unattended clock sockets).Leads state { state with thread := thread } ∧
      Alone { state with thread := thread } :=
  alone.move clock sockets moved
    ⟨rfl, rfl, rfl, rfl, fun _ => id, fun now timer firing =>
      absurd firing (notFiring now timer)⟩

omit [Ring Time] [FloorRing Time] in
/-- When the handles can be attached, every callback can be called. -/
theorem State.invoke_attached
    (state : State Time Target)
    (overlapped : Overlapped Target)
    (e : ExceptionPtr)
    (byteCount : Nat) :
    ∃ next, state.invoke overlapped e byteCount true = some next := by
  unfold State.invoke
  split
  · exact ⟨_, rfl⟩
  · simp only
    split
    · simp [Socket.setHandle, Socket.attachHandle]
    · exact ⟨_, rfl⟩

theorem Alone.returnsFromDispatch
    {state : State Time Target}
    {overlapped : Overlapped Target}
    (alone : Alone state)
    (at_ : state.thread = .dispatching overlapped) :
    ∃ next,
      (unattended clock sockets).Leads state next ∧
        Alone next ∧ next.thread = .loopTest ∧ next.port = state.port := by
  let next : State Time Target :=
    { state.destroyOverlapped overlapped with thread := .loopTest }
  have moved :
      state.moveThread .returnFromDispatch state.thread = some next := by
    rw [at_]
    rfl
  have leaves : Alone.Leaves state next :=
    ⟨rfl, rfl, rfl, rfl, fun _ => id, fun _ _ firing => by cases firing⟩
  have moves := alone.move clock sockets moved leaves
  exact ⟨next, moves.1, moves.2, rfl, rfl⟩

/-- A completion is dequeued and its callback returns. -/
theorem Alone.serves
    {state : State Time Target}
    {time : Nat}
    {packet : Packet Target}
    {others : List (Packet Target)}
    (alone : Alone state)
    (at_ : state.thread = .waiting time)
    (port : state.port = packet :: others) :
    ∃ next,
      (unattended clock sockets).Leads state next ∧
        Alone next ∧ next.thread = .loopTest ∧ next.port = others := by
  have invoked :
      ∃ middle,
        state.moveThread (.dequeue 0 true) state.thread = some middle := by
    rcases State.invoke_attached
        { state with
            port := others
            thread := .dispatching packet.overlapped }
        packet.overlapped (completionError packet.success) packet.byteCount with
      ⟨middle, invoked⟩
    refine ⟨middle, ?_⟩
    simp only [at_, State.moveThread, port, Pool.take?, Option.bind_some]
    exact invoked
  rcases invoked with ⟨middle, moved⟩
  cases moveThread_transition moved with
  | dispatches index attached time packet' others' sockets' at_' taken stored =>
      rw [port] at taken
      cases taken
      have moves :=
        alone.move clock sockets moved
          ⟨rfl, rfl, rfl, rfl, fun _ => id, fun _ _ firing => by cases firing⟩
      rcases moves.2.returnsFromDispatch clock sockets rfl with
        ⟨next, leads, still, thread, left⟩
      exact ⟨next, moves.1.trans _ leads, still, thread, left⟩

/-- The inner loop ends, and when all timers are due it leaves none. -/
theorem Alone.sweeps
    {state : State Time Target}
    {now : Time}
    (alone : Alone state)
    (at_ : state.thread = .sweeping now) :
    ∃ next time,
      (unattended clock sockets).Leads state next ∧
        Alone next ∧ next.thread = .countTest time ∧
        next.port = state.port ∧
        (now = state.clock → time = INFINITE ∧ next.timerQueue.toList = []) := by
  induction size : state.timerQueue.toList.length using Nat.strongRecOn
    generalizing state with
  | _ count induction =>
  cases isTop : state.timerQueue.top? with
  | none =>
      have noTimer := (MinHeap.toList_eq_nil_iff _).mpr isTop
      have moves :=
        @Alone.goes _ _ _ _ _ _ clock sockets state .sweep
          (.countTest (timeout state.timerQueue now)) alone
          (by simp [at_, State.moveThread, State.sweep, isTop])
          (fun _ _ impossible => by cases impossible)
      exact
        ⟨_, _, moves.1, moves.2, rfl, rfl, fun _ =>
          ⟨timeout_of_noTimer noTimer now, noTimer⟩⟩
  | some timer =>
      have queued := MinHeap.top?_mem isTop
      by_cases due : timer.timePoint ≤ now
      · let fired : State Time Target :=
          { state with
              thread := .firing now timer
              events := state.events ++ [.fired timer now] }
        have moves :=
          @Alone.move _ _ _ _ _ _ clock sockets state fired .sweep alone
            (by simp [at_, State.moveThread, State.sweep, isTop, due, fired])
            ⟨rfl, rfl, rfl, rfl, fun _ => id, fun _ _ _ =>
              List.ne_nil_of_mem queued⟩
        have shorter := MinHeap.pop_perm isTop
        have pops :=
          @Alone.move _ _ _ _ _ _ clock sockets fired
            (fired.afterPop timer now) .returnFromTimer moves.2
            (by simp [fired, State.moveThread, State.returnFromTimer, isTop])
            ⟨rfl, rfl, rfl, rfl, fun other inside =>
              shorter.mem_iff.mpr (List.mem_cons_of_mem _ inside),
              fun _ _ firing => by cases firing⟩
        have less := shorter.length_eq
        rw [List.length_cons] at less
        rcases induction (fired.afterPop timer now).timerQueue.toList.length
            (by
              show state.timerQueue.pop.toList.length < count
              omega)
            pops.2 rfl rfl with
          ⟨next, time, leads, still, thread, port, ended⟩
        exact
          ⟨next, time, (moves.1.trans _ pops.1).trans _ leads, still, thread,
            port, ended⟩
      · have moves :=
          @Alone.goes _ _ _ _ _ _ clock sockets state .sweep
            (.countTest (timeout state.timerQueue now)) alone
            (by simp [at_, State.moveThread, State.sweep, isTop, due])
            (fun _ _ impossible => by cases impossible)
        refine ⟨_, _, moves.1, moves.2, rfl, rfl, ?_⟩
        intro isNow
        exact absurd (isNow ▸ alone.due timer queued) due

/-- `run` comes to return. -/
def Returns (state : State Time Target) : Prop :=
  ∃ last,
    (unattended clock sockets).Leads state last ∧ last.thread = .outside

variable {clock sockets}

theorem Returns.after
    {state next : State Time Target}
    (returns : Returns clock sockets next)
    (leads : (unattended clock sockets).Leads state next) :
    Returns clock sockets state := by
  rcases returns with ⟨last, further, outside⟩
  exact ⟨last, leads.trans _ further, outside⟩

omit [Ring Time] [FloorRing Time] [DecidableEq Target] in
/-- With nothing in the port the thread does not wait. -/
theorem Alone.count_zero
    {state : State Time Target}
    {time : Nat}
    (alone : Alone state)
    (at_ : state.thread = .countTest time)
    (port : state.port = []) :
    state.overlappedCount = 0 := by
  rw [alone.count, at_, port]
  rfl

theorem Alone.waits
    {state : State Time Target}
    {time : Nat}
    (alone : Alone state)
    (at_ : state.thread = .countTest time)
    (port : state.port ≠ []) :
    (unattended clock sockets).Leads state
        { state with thread := .waiting time } ∧
      Alone { state with thread := .waiting time } := by
  have counted : state.overlappedCount ≠ 0 := by
    have some_ := List.length_pos_of_ne_nil port
    rw [alone.count]
    omega
  exact
    @Alone.goes _ _ _ _ _ _ clock sockets state .countTest (.waiting time)
      alone (by simp [at_, State.moveThread, State.countTest, counted])
      (fun _ _ impossible => by cases impossible)

theorem Alone.skips
    {state : State Time Target}
    (alone : Alone state)
    (at_ : state.thread = .countTest INFINITE)
    (port : state.port = []) :
    (unattended clock sockets).Leads state
        { state with thread := .loopTest } ∧
      Alone { state with thread := .loopTest } := by
  have zero := alone.count_zero at_ port
  exact
    @Alone.goes _ _ _ _ _ _ clock sockets state .countTest .loopTest alone
      (by simp [at_, State.moveThread, State.countTest, zero])
      (fun _ _ impossible => by cases impossible)

/-- The test of the loop ends it, or goes on with something left. -/
theorem Alone.tests
    {state : State Time Target}
    (alone : Alone state)
    (at_ : state.thread = .loopTest) :
    Returns clock sockets state ∨
      (unattended clock sockets).Leads state
          { state with thread := .readClock } ∧
        Alone { state with thread := .readClock } ∧
        (state.timerQueue.toList ≠ [] ∨ state.port ≠ []) := by
  cases hasWork : state.hasWork with
  | false =>
      have moves :=
        @Alone.goes _ _ _ _ _ _ clock sockets state .loopTest .outside alone
          (by simp [at_, State.moveThread, hasWork])
          (fun _ _ impossible => by cases impossible)
      exact Or.inl ⟨_, moves.1, rfl⟩
  | true =>
      have moves :=
        @Alone.goes _ _ _ _ _ _ clock sockets state .loopTest .readClock alone
          (by simp [at_, State.moveThread, hasWork])
          (fun _ _ impossible => by cases impossible)
      refine Or.inr ⟨moves.1, moves.2, ?_⟩
      by_contra nothing
      push Not at nothing
      have zero : state.overlappedCount = 0 := by
        rw [alone.count, at_, nothing.2]
        rfl
      have empty := (MinHeap.isEmpty_iff state.timerQueue).mpr nothing.1
      simp [State.hasWork, zero, empty] at hasWork

/-- A pass of the loop that begins with the clock. -/
theorem Alone.passes
    {state : State Time Target}
    (alone : Alone state)
    (at_ : state.thread = .readClock) :
    ∃ next,
      (unattended clock sockets).Leads state next ∧
        Alone next ∧ next.thread = .countTest INFINITE ∧
        next.port = state.port ∧ next.timerQueue.toList = [] := by
  have moves :=
    @Alone.goes _ _ _ _ _ _ clock sockets state .readClock
      (.sweeping state.clock) alone (by rw [at_]; rfl)
      (fun _ _ impossible => by cases impossible)
  rcases moves.2.sweeps clock sockets rfl with
    ⟨next, time, leads, still, thread, port, ended⟩
  have none_ := ended rfl
  rw [none_.1] at thread
  exact ⟨next, moves.1.trans _ leads, still, thread, port, none_.2⟩

/-- From the test of the loop on, by the completions that are left. -/
theorem Alone.returns_of_loopTest
    {state : State Time Target}
    (alone : Alone state)
    (at_ : state.thread = .loopTest) :
    Returns clock sockets state := by
  induction port : state.port generalizing state with
  | nil =>
      rcases @Alone.tests _ _ _ _ _ _ clock sockets _ alone at_ with
        returns | ⟨leads, still, _⟩
      · exact returns
      · rcases @Alone.passes _ _ _ _ _ _ clock sockets _ still rfl with
          ⟨next, further, isAlone, thread, same, noTimer⟩
        have noPort : next.port = [] := same.trans port
        have skips :=
          @Alone.skips _ _ _ _ _ _ clock sockets _ isAlone thread noPort
        rcases @Alone.tests _ _ _ _ _ _ clock sockets _ skips.2 rfl with
          returns | ⟨_, _, timers | packets⟩
        · exact returns.after ((leads.trans _ further).trans _ skips.1)
        · exact absurd noTimer timers
        · exact absurd noPort packets
  | cons packet others induction =>
      rcases @Alone.tests _ _ _ _ _ _ clock sockets _ alone at_ with
        returns | ⟨leads, still, _⟩
      · exact returns
      · rcases @Alone.passes _ _ _ _ _ _ clock sockets _ still rfl with
          ⟨next, further, isAlone, thread, same, noTimer⟩
        have left : next.port = packet :: others := same.trans port
        have waits :=
          @Alone.waits _ _ _ _ _ _ clock sockets _ _ isAlone thread
            (left ▸ List.cons_ne_nil packet others)
        rcases waits.2.serves clock sockets rfl left with
          ⟨last, served, lastAlone, lastThread, lastPort⟩
        exact
          (induction lastAlone lastThread lastPort).after
            (((leads.trans _ further).trans _ waits.1).trans _ served)

theorem Alone.returns_of_countTest
    {state : State Time Target}
    {time : Nat}
    (alone : Alone state)
    (at_ : state.thread = .countTest time) :
    Returns clock sockets state := by
  cases port : state.port with
  | nil =>
      have zero := alone.count_zero at_ port
      by_cases infinite : time = INFINITE
      · subst infinite
        have skips :=
          @Alone.skips _ _ _ _ _ _ clock sockets _ alone at_ port
        exact (skips.2.returns_of_loopTest rfl).after skips.1
      · have sleeps :=
          @Alone.goes _ _ _ _ _ _ clock sockets state .countTest
            (.sleeping time) alone
            (by simp [at_, State.moveThread, State.countTest, zero, infinite])
            (fun _ _ impossible => by cases impossible)
        have wakes :=
          @Alone.goes _ _ _ _ _ _ clock sockets
            { state with thread := .sleeping time } .wake .loopTest sleeps.2
            rfl (fun _ _ impossible => by cases impossible)
        exact
          (wakes.2.returns_of_loopTest rfl).after (sleeps.1.trans _ wakes.1)
  | cons packet others =>
      have waits :=
        @Alone.waits _ _ _ _ _ _ clock sockets _ _ alone at_
          (port ▸ List.cons_ne_nil packet others)
      rcases waits.2.serves clock sockets rfl port with
        ⟨last, served, lastAlone, lastThread, lastPort⟩
      exact
        (lastAlone.returns_of_loopTest lastThread).after
          (waits.1.trans _ served)

theorem Alone.returns_of_sweeping
    {state : State Time Target}
    {now : Time}
    (alone : Alone state)
    (at_ : state.thread = .sweeping now) :
    Returns clock sockets state := by
  rcases alone.sweeps clock sockets at_ with
    ⟨next, time, leads, still, thread, _⟩
  exact (still.returns_of_countTest thread).after leads

/-- The thread comes to return from wherever it is, unless it waits without
limit for a completion and there is none. -/
theorem Alone.returns
    {state : State Time Target}
    (alone : Alone state)
    (inside : state.thread ≠ .outside)
    (served : state.thread = .waiting INFINITE → state.port ≠ []) :
    Returns clock sockets state := by
  cases at_ : state.thread with
  | outside => exact absurd at_ inside
  | loopTest => exact alone.returns_of_loopTest at_
  | readClock =>
      rcases @Alone.passes _ _ _ _ _ _ clock sockets _ alone at_ with
        ⟨next, leads, still, thread, _⟩
      exact (still.returns_of_countTest thread).after leads
  | sweeping now => exact alone.returns_of_sweeping at_
  | firing now timer =>
      cases isTop : state.timerQueue.top? with
      | none =>
          have noTimer := (MinHeap.toList_eq_nil_iff _).mpr isTop
          exact absurd noTimer (alone.queued now timer at_)
      | some top =>
          have pops :=
            @Alone.move _ _ _ _ _ _ clock sockets state
              (state.afterPop top now) .returnFromTimer alone
              (by simp [at_, State.moveThread, State.returnFromTimer, isTop])
              ⟨rfl, rfl, rfl, rfl, fun other within =>
                (MinHeap.pop_perm isTop).mem_iff.mpr
                  (List.mem_cons_of_mem _ within),
                fun _ _ firing => by cases firing⟩
          exact (pops.2.returns_of_sweeping rfl).after pops.1
  | countTest time => exact alone.returns_of_countTest at_
  | waiting time =>
      cases port : state.port with
      | nil =>
          have finite : time ≠ INFINITE := by
            rintro rfl
            exact served at_ port
          have timesOut :=
            @Alone.goes _ _ _ _ _ _ clock sockets state .timeOut .loopTest
              alone (by simp [at_, State.moveThread, finite])
              (fun _ _ impossible => by cases impossible)
          exact (timesOut.2.returns_of_loopTest rfl).after timesOut.1
      | cons packet others =>
          rcases alone.serves clock sockets at_ port with
            ⟨last, leads, still, thread, _⟩
          exact (still.returns_of_loopTest thread).after leads
  | sleeping time =>
      have wakes :=
        @Alone.goes _ _ _ _ _ _ clock sockets state .wake .loopTest alone
          (by rw [at_]; rfl) (fun _ _ impossible => by cases impossible)
      exact (wakes.2.returns_of_loopTest rfl).after wakes.1
  | dispatching overlapped =>
      rcases alone.returnsFromDispatch clock sockets at_ with
        ⟨last, leads, still, thread, _⟩
      exact (still.returns_of_loopTest thread).after leads

end Returning

/-! ## The condition -/

section Condition

variable {clock : Time} {sockets : Target → Socket}
variable {state : State Time Target}

/-- The timer whose callback runs is in the queue. -/
theorem reachable_queued
    (reachable : (system clock sockets).Reachable state) :
    Running state := by
  apply TransitionSystem.Reachable.induction _ _ _ reachable
  · exact
      { surplus := le_refl (0 : Int)
        numbered := fun timer queued => by cases queued
        queued := fun now timer firing => by cases firing }
  · intro before action after _ running stepped
    have transition := step_transition stepped
    exact running.step transition.surplus.ge transition.timerStep

omit [DecidableEq Target] in
/-- Time passes until all timers are due. -/
theorem exists_due [IsOrderedRing Time] (state : State Time Target) :
    ∃ elapsed : Time,
      0 ≤ elapsed ∧
        ∀ timer ∈ state.timerQueue.toList,
          timer.timePoint ≤ state.clock + elapsed := by
  rcases (state.timerQueue.toList.map Timer.timePoint).toFinset.exists_le with
    ⟨latest, isLatest⟩
  refine ⟨max latest state.clock - state.clock, ?_, ?_⟩
  · exact sub_nonneg.mpr (le_max_right latest state.clock)
  · intro timer queued
    rw [add_sub_cancel]
    refine le_max_of_le_left (isLatest timer.timePoint ?_)
    exact List.mem_toFinset.mpr (List.mem_map_of_mem queued)

/-- What is under way ends, the timers come due, and `run` returns. -/
theorem returns_of_unbegun [IsOrderedRing Time]
    (reachable : (system clock sockets).Reachable state)
    (inside : state.thread ≠ .outside)
    (noWork : state.work = 0)
    (served : state.thread = .waiting INFINITE → Outstanding state) :
    Returns clock sockets state := by
  rcases tasks_end clock sockets state with ⟨second, one, ended, noTasks⟩
  rcases calls_end clock sockets second noTasks with
    ⟨third, other, completed, stillNone, noPending⟩
  have meanwhile := ended.trans completed
  rcases exists_due third with ⟨elapsed, forward, due⟩
  let late : State Time Target := { third with clock := third.clock + elapsed }
  have stepped : third.step (.tick elapsed) = some late := if_pos forward
  have ticks := leads_step clock sockets rfl stepped
  have counted := meanwhile.counted (reachable_counted reachable)
  have alone : Alone late :=
    { tasks := stillNone
      pending := noPending
      work := meanwhile.work.trans noWork
      counted := (step_transition stepped).counted counted
      due := due
      queued := by
        intro now timer firing
        have queued :=
          (reachable_queued reachable).queued now timer
            (meanwhile.thread.symm.trans firing)
        rw [← meanwhile.timerQueue] at queued
        exact List.ne_nil_of_mem queued }
  have returns : Returns clock sockets late := by
    apply alone.returns
    · intro outside
      exact inside (meanwhile.thread.symm.trans outside)
    · intro waits
      have outstanding :=
        meanwhile.outstanding (served (meanwhile.thread.symm.trans waits))
      rcases outstanding with port | pending | ⟨task, among, _⟩
      · exact port
      · exact absurd noPending pending
      · rw [stillNone] at among
        cases among
  exact returns.after ((one.trans _ other).trans _ ticks)

/-- From any reachable state in which the thread is in `run`, the steps that are
left when nobody starts anything can bring `run` to return exactly when no
`beginWork` of the user is unmatched, those that failed posts have left
included, and the thread does not wait without limit while nothing is queued,
pending or on its way to be posted. -/
theorem run_can_return_iff [IsOrderedRing Time]
    (reachable : (system clock sockets).Reachable state)
    (inside : state.thread ≠ .outside) :
    (∃ last,
        (unattended clock sockets).Leads state last ∧
          last.thread = .outside) ↔
      state.work = 0 ∧
        (state.thread = .waiting INFINITE → Outstanding state) := by
  constructor
  · rintro ⟨last, ⟨actions, taken⟩, outside⟩
    constructor
    · by_contra begun
      have stays :=
        TransitionSystem.runFrom_keeps (unattended clock sockets)
          (by
            intro before action after holds stepped
            have own := unattended_step stepped
            exact own.2.occupied own.1 holds)
          (⟨reachable_counted reachable, Nat.pos_of_ne_zero begun, inside⟩ :
            Occupied state)
          taken
      exact stays.2.2 outside
    · intro blocked
      by_contra nothing
      have stays :=
        TransitionSystem.runFrom_keeps (unattended clock sockets)
          (by
            intro before action after holds stepped
            have own := unattended_step stepped
            exact own.2.forgotten own.1 holds)
          (⟨blocked, nothing⟩ : Forgotten state) taken
      rw [stays.1] at outside
      cases outside
  · rintro ⟨noWork, served⟩
    exact returns_of_unbegun reachable inside noWork served

end Condition

/-- A lookup is under way when `run` begins. -/
def lookingUp : List (Action Int Unit) :=
  [.resolve, .run .enter]

theorem lookingUp_returns :
    ∃ state last,
      (system 0 fun _ => { executor := true }).run lookingUp = some state ∧
        (unattended 0 fun _ => { executor := true }).Leads state last ∧
        last.thread = .outside := by
  have inside : (.loopTest : Thread Int Unit) ≠ .outside := by simp
  rcases (run_can_return_iff ⟨lookingUp, rfl⟩ inside).mpr
      ⟨rfl, fun impossible => by cases impossible⟩ with ⟨last, leads, outside⟩
  exact ⟨_, last, rfl, leads, outside⟩

end Netycat.Executor
