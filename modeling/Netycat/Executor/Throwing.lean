import Netycat.Executor.Count
import Netycat.Executor.Deadlines

/-!
# Callbacks that throw

`run` has no handler, so an exception leaves it from the call of the callback.
What retires the callback comes after that call, `timerQueue.pop()` for a timer
and `destroyOverlapped` for a completion, and is not reached.

A timer whose callback has thrown is still in the queue, and no later `run`
returns without calling it again.  A completion whose callback has thrown stays
counted, although its packet is gone, and no later `run` returns at all.
-/

namespace Netycat.Executor

open Netycat.Corecat Netycat.Impl

/-- The steps of all parties, and the exception of a callback. -/
inductive ThrowingAction (Time Target : Type*) where
  | act (action : Action Time Target)
  | throws

namespace State

section Propagate

variable {Time Target : Type*} [LinearOrder Time]

/-- The exception of the callback that is running leaves `run`. -/
def propagate (state : State Time Target) : Option (State Time Target) :=
  match state.thread with
  | .firing _ _ => some { state with thread := .outside }
  | .dispatching _ => some { state with thread := .outside }
  | _ => none

/-- An exception comes from a timer's callback or from a completion's. -/
theorem propagate_cases
    {state next : State Time Target}
    (thrown : state.propagate = some next) :
    next = { state with thread := .outside } ∧
      ((∃ now timer, state.thread = .firing now timer) ∨
        ∃ overlapped, state.thread = .dispatching overlapped) := by
  rw [propagate] at thrown
  cases at_ : state.thread with
  | firing now timer =>
      simp only [at_, Option.some.injEq] at thrown
      exact ⟨thrown.symm, Or.inl ⟨now, timer, rfl⟩⟩
  | dispatching overlapped =>
      simp only [at_, Option.some.injEq] at thrown
      exact ⟨thrown.symm, Or.inr ⟨overlapped, rfl⟩⟩
  | _ => simp [at_] at thrown

/-- What a completion adds to the counter is not taken back. -/
theorem surplus_propagate
    {state next : State Time Target}
    (thrown : state.propagate = some next) :
    next.surplus = state.surplus + state.thread.dispatched.length := by
  rw [(propagate_cases thrown).1, surplus_eq, surplus_eq]
  simp only [Thread.dispatched, List.length_nil]
  omega

/-- The bookkeeping of `run` is the same in both states. -/
structure SameBookkeeping (state other : State Time Target) : Prop where
  overlappedCount : state.overlappedCount = other.overlappedCount
  timerQueue : state.timerQueue = other.timerQueue

/-- With a surplus the loop goes on. -/
theorem hasWork_of_surplus
    {state : State Time Target} (positive : 1 ≤ state.surplus) :
    state.hasWork = true := by
  rw [surplus] at positive
  have counted : state.overlappedCount ≠ 0 := by omega
  simp [hasWork, counted]

/-- With a timer in the queue the loop goes on. -/
theorem hasWork_of_queued
    {state : State Time Target} {timer : Timer Time}
    (queued : timer ∈ state.timerQueue.toList) :
    state.hasWork = true := by
  have full : state.timerQueue.isEmpty = false := by
    rw [Bool.eq_false_iff]
    intro empty
    rw [(MinHeap.isEmpty_iff _).mp empty] at queued
    cases queued
  simp [hasWork, full]

end Propagate

end State

/-! ## A timer that is still in the queue -/

/-- The timer waits, and no return of another callback removes it. -/
structure Waits {Time Target : Type*} [LinearOrder Time]
    (timer : Timer Time) (state : State Time Target) : Prop where
  queued : timer ∈ state.timerQueue.toList
  numbered : timer.id < state.timers
  spared :
    ∀ now running,
      state.thread = .firing now running →
        state.timerQueue.top? ≠ some timer

section Waiting

variable {Time Target : Type*} [LinearOrder Time]

theorem Waits.same
    {timer : Timer Time} {state next : State Time Target}
    (waits : Waits timer state) (same : SameTimers state next)
    (thread :
      ∀ now running,
        next.thread = .firing now running →
          state.thread = .firing now running) :
    Waits timer next where
  queued := by
    rw [same.timerQueue]
    exact waits.queued
  numbered := by
    rw [same.timers]
    exact waits.numbered
  spared := by
    intro now running at_
    rw [same.timerQueue]
    exact waits.spared now running (thread now running at_)

/-- A new timer does not bring a waiting one to the top. -/
theorem Waits.wait [Add Time]
    {timer : Timer Time} {state : State Time Target}
    (waits : Waits timer state) (time : Time) :
    Waits timer (state.wait time) where
  queued :=
    (MinHeap.push_perm state.timerQueue _).mem_iff.mpr
      (List.mem_cons_of_mem _ waits.queued)
  numbered := waits.numbered.trans (Nat.lt_succ_self _)
  spared := by
    intro now running at_ isTop
    rcases MinHeap.push_top?_cases isTop with isNew | isOld
    · have numbered := waits.numbered
      rw [isNew] at numbered
      exact absurd numbered (lt_irrefl _)
    · exact waits.spared now running at_ isOld

/-- The return of another callback leaves the timer. -/
theorem Waits.pop
    {timer top : Timer Time} {state : State Time Target}
    {now : Time} {running : Timer Time}
    (waits : Waits timer state)
    (at_ : state.thread = .firing now running)
    (isTop : state.timerQueue.top? = some top) :
    Waits timer (state.afterPop top now) where
  queued := by
    have member :=
      (MinHeap.pop_perm isTop).mem_iff.mp waits.queued
    rcases List.mem_cons.mp member with rfl | rest
    · exact absurd isTop (waits.spared now running at_)
    · exact rest
  numbered := waits.numbered
  spared := by
    intro other otherTimer firing
    cases firing

/-- The timer is called, or it waits on. -/
theorem Waits.fires
    {timer top : Timer Time} {state : State Time Target} {now : Time}
    (waits : Waits timer state)
    (isTop : state.timerQueue.top? = some top) (different : top ≠ timer) :
    Waits timer
      { state with
          thread := .firing now top
          events := state.events ++ [.fired top now] } where
  queued := waits.queued
  numbered := waits.numbered
  spared := by
    intro _ _ _ isTimer
    rw [isTop] at isTimer
    cases isTimer
    exact different rfl

end Waiting

section Steps

variable {Time Target : Type*}
variable [Ring Time] [LinearOrder Time] [FloorRing Time] [DecidableEq Target]

/-- What a step can do to the timers. -/
inductive TimerStep (state : State Time Target) :
    State Time Target → Prop where
  | rests {next : State Time Target} (same : SameTimers state next)
      (thread :
        ∀ now running,
          next.thread = .firing now running →
            state.thread = .firing now running) :
      TimerStep state next
  | registers (time : Time) : TimerStep state (state.wait time)
  | fires (now : Time) (top : Timer Time)
      (isTop : state.timerQueue.top? = some top) :
      TimerStep state
        { state with
            thread := .firing now top
            events := state.events ++ [.fired top now] }
  | pops (now : Time) (running top : Timer Time)
      (at_ : state.thread = .firing now running)
      (isTop : state.timerQueue.top? = some top) :
      TimerStep state (state.afterPop top now)

theorem Transition.timerStep
    {state next : State Time Target} {action : Action Time Target}
    (transition : Transition state action next) :
    TimerStep state next := by
  by_cases foreign : action.isForeign = true
  · have same := transition.foreign_sameTimers foreign
    apply TimerStep.rests same.2
    rw [same.1]
    exact fun _ _ at_ => at_
  cases transition with
  | wait time inUserCode => exact .registers time
  | fires now top at_ isTop due => exact .fires now top isTop
  | pops now running top at_ isTop => exact .pops now running top at_ isTop
  | dispatches index attached time packet others sockets at_ taken _ =>
      refine TimerStep.rests (.emit rfl rfl (.outcome rfl)) ?_
      intro now running firing
      cases firing
  | returnsFromDispatch overlapped at_ =>
      refine
        TimerStep.rests (.emit rfl rfl ⟨_, rfl, by simp [Event.isTimer]⟩) ?_
      intro now running firing
      cases firing
  | enter at_ | goesOn at_ _ | returns at_ _ | readClock at_ | swept _ at_ _
  | waits _ at_ _ | sleeps _ at_ _ _ | skips _ at_ _ _ | timesOut _ at_ _
  | wakes _ at_ =>
      refine TimerStep.rests ⟨rfl, rfl, rfl, rfl⟩ ?_
      intro now running firing
      cases firing
  | _ => exact absurd rfl foreign

omit [FloorRing Time] [DecidableEq Target] in
/-- No call of a callback is forgotten. -/
theorem TimerStep.fired_prefix
    {state next : State Time Target} (step : TimerStep state next) :
    state.fired <+: next.fired := by
  cases step with
  | rests same thread =>
      rewrite [same.fired]
      exact List.prefix_rfl
  | registers time => exact List.prefix_rfl
  | fires now top isTop => simp [State.fired, List.filterMap_append]
  | pops now running top at_ isTop =>
      rewrite [state.fired_afterPop top now]
      exact List.prefix_rfl

omit [FloorRing Time] [DecidableEq Target] in
/-- A step calls the callback of a waiting timer, or the timer waits on. -/
theorem Waits.step
    {timer : Timer Time} {state next : State Time Target}
    (waits : Waits timer state) (step : TimerStep state next) :
    Waits timer next ∨ next.fired = state.fired ++ [timer.id] := by
  cases step with
  | rests same thread => exact Or.inl (waits.same same thread)
  | registers time => exact Or.inl (waits.wait time)
  | fires now top isTop =>
      by_cases isTimer : top = timer
      · subst isTimer
        refine Or.inr ?_
        simp [State.fired, Event.firedTimer]
      · exact Or.inl (waits.fires isTop isTimer)
  | pops now running top at_ isTop => exact Or.inl (waits.pop at_ isTop)

/-! ## The executor whose callbacks may throw -/

/-- Every step of the executor, and the exceptions. -/
def throwing (clock : Time) (sockets : Target → Socket) :
    TransitionSystem (State Time Target) (ThrowingAction Time Target) where
  init := .initial clock sockets
  step := fun state action =>
    match action with
    | .act action => state.step action
    | .throws => state.propagate

/-- The callback that is running returns. -/
def State.finish (state : State Time Target) : Option (State Time Target) :=
  match state.thread with
  | .firing _ _ => state.step (.run .returnFromTimer)
  | .dispatching _ => state.step (.run .returnFromDispatch)
  | _ => none

/-- What holds between any two steps, whether callbacks have thrown or not. -/
structure Running (state : State Time Target) : Prop where
  surplus : 0 ≤ state.surplus
  numbered : ∀ timer ∈ state.timerQueue.toList, timer.id < state.timers
  queued :
    ∀ now timer,
      state.thread = .firing now timer → timer ∈ state.timerQueue.toList

omit [FloorRing Time] [DecidableEq Target] in
theorem Running.step
    {state next : State Time Target} (running : Running state)
    (grows : state.surplus ≤ next.surplus) (step : TimerStep state next) :
    Running next := by
  have surplus : 0 ≤ next.surplus := running.surplus.trans grows
  cases step with
  | rests same thread =>
      refine ⟨surplus, ?_, ?_⟩
      · rw [same.timerQueue, same.timers]
        exact running.numbered
      · intro now timer at_
        rw [same.timerQueue]
        exact running.queued now timer (thread now timer at_)
  | registers time =>
      have pushed :=
        MinHeap.push_perm state.timerQueue
          ⟨state.clock + time, state.timers⟩
      refine ⟨surplus, ?_, ?_⟩
      · intro timer queued
        rcases List.mem_cons.mp (pushed.mem_iff.mp queued) with rfl | old
        · exact Nat.lt_succ_self _
        · exact (running.numbered timer old).trans (Nat.lt_succ_self _)
      · intro now timer at_
        exact
          pushed.mem_iff.mpr
            (List.mem_cons_of_mem _ (running.queued now timer at_))
  | fires now top isTop =>
      refine ⟨surplus, running.numbered, ?_⟩
      intro other timer firing
      cases firing
      exact MinHeap.top?_mem isTop
  | pops now timer top at_ isTop =>
      refine ⟨surplus, ?_, ?_⟩
      · intro other queued
        apply running.numbered other
        exact
          (MinHeap.pop_perm isTop).mem_iff.mpr
            (List.mem_cons_of_mem _ queued)
      · intro other otherTimer firing
        cases firing

/-- An exception does nothing to the timers. -/
theorem throwing_timerStep
    {clock : Time} {sockets : Target → Socket}
    {state next : State Time Target} {action : ThrowingAction Time Target}
    (stepped : (throwing clock sockets).step state action = some next) :
    TimerStep state next := by
  cases action with
  | act action => exact (step_transition stepped).timerStep
  | throws =>
      rw [(State.propagate_cases stepped).1]
      refine TimerStep.rests ⟨rfl, rfl, rfl, rfl⟩ ?_
      intro now running firing
      cases firing

/-- The counter never falls behind. -/
theorem throwing_surplus
    {clock : Time} {sockets : Target → Socket}
    {state next : State Time Target} {action : ThrowingAction Time Target}
    (stepped : (throwing clock sockets).step state action = some next) :
    state.surplus ≤ next.surplus := by
  cases action with
  | act action => exact (step_transition stepped).surplus.ge
  | throws =>
      rw [State.surplus_propagate stepped]
      omega

theorem reachable_running
    {clock : Time} {sockets : Target → Socket} {state : State Time Target}
    (reachable : (throwing clock sockets).Reachable state) :
    Running state := by
  apply TransitionSystem.Reachable.induction _ _ _ reachable
  · constructor
    · exact le_refl (0 : Int)
    · intro timer queued
      cases queued
    · intro now timer at_
      cases at_
  · intro state action next _ running stepped
    exact
      running.step (throwing_surplus stepped) (throwing_timerStep stepped)

/-! ## What an exception leaves behind -/

/-- The bookkeeping after the exception is not that after a return. -/
theorem Running.finish_differs
    {state next : State Time Target} (running : Running state)
    (thrown : state.propagate = some next) :
    ∃ normal,
      state.finish = some normal ∧ ¬ State.SameBookkeeping next normal := by
  rcases State.propagate_cases thrown with
    ⟨rfl, ⟨now, timer, at_⟩ | ⟨overlapped, at_⟩⟩
  · have queued := running.queued now timer at_
    cases isTop : state.timerQueue.top? with
    | none =>
        rw [(MinHeap.toList_eq_nil_iff _).mpr isTop] at queued
        cases queued
    | some top =>
        refine ⟨state.afterPop top now, ?_, ?_⟩
        · simp [State.finish, at_, State.step, State.moveThread,
            State.returnFromTimer, isTop]
        · intro same
          have shorter := (MinHeap.pop_perm isTop).length_eq
          have kept : state.timerQueue = state.timerQueue.pop :=
            same.timerQueue
          rw [← kept, List.length_cons] at shorter
          omega
  · refine
      ⟨{ state.destroyOverlapped overlapped with thread := .loopTest }, ?_,
        ?_⟩
    · simp [State.finish, at_, State.step, State.moveThread]
    · intro same
      have kept : state.overlappedCount = state.overlappedCount - 1 :=
        same.overlappedCount
      omega

/-- What is left over in the counter stays left over. -/
theorem surplus_stays
    {clock : Time} {sockets : Target → Socket}
    {actions : List (ThrowingAction Time Target)}
    {state later : State Time Target}
    (leftOver : 1 ≤ state.surplus)
    (taken : (throwing clock sockets).runFrom state actions = some later) :
    1 ≤ later.surplus := by
  have kept :
      ∀ state action next,
        1 ≤ state.surplus →
          (throwing clock sockets).step state action = some next →
            1 ≤ next.surplus :=
    fun _ _ _ leftOver stepped => leftOver.trans (throwing_surplus stepped)
  exact TransitionSystem.runFrom_keeps _ kept leftOver taken

/-- A waiting timer goes on waiting until its callback is called. -/
theorem waits_until_fired
    {clock : Time} {sockets : Target → Socket}
    {actions : List (ThrowingAction Time Target)}
    {state later : State Time Target} {timer : Timer Time}
    (waits : Waits timer state)
    (taken : (throwing clock sockets).runFrom state actions = some later) :
    Waits timer later ∨
      state.fired.count timer.id < later.fired.count timer.id := by
  have kept :
      ∀ middle action next,
        (state.fired.count timer.id ≤ middle.fired.count timer.id ∧
            (Waits timer middle ∨
              state.fired.count timer.id < middle.fired.count timer.id)) →
          (throwing clock sockets).step middle action = some next →
            state.fired.count timer.id ≤ next.fired.count timer.id ∧
              (Waits timer next ∨
                state.fired.count timer.id < next.fired.count timer.id) := by
    intro middle action next ⟨before, holds⟩ stepped
    have step := throwing_timerStep stepped
    have grows := step.fired_prefix.sublist.count_le timer.id
    refine ⟨before.trans grows, ?_⟩
    rcases holds with waiting | called
    · rcases waiting.step step with waitsOn | fired
      · exact Or.inl waitsOn
      · right
        rw [fired, List.count_append, List.count_singleton_self]
        exact Nat.lt_succ_of_le before
    · exact Or.inr (called.trans_le grows)
  exact
    (TransitionSystem.runFrom_keeps _ kept ⟨le_rfl, Or.inl waits⟩ taken).2

/--
An exception that leaves `run` never leaves the bookkeeping that a return of
the callback would have left.  After a completion's no later `run` returns, and
after a timer's none returns that has not called the same callback again.
-/
theorem exceptions_retire_nothing
    {clock : Time} {sockets : Target → Socket} {state next : State Time Target}
    (reachable : (throwing clock sockets).Reachable state)
    (thrown : (throwing clock sockets).step state .throws = some next) :
    (∃ normal,
        state.finish = some normal ∧
          ¬ State.SameBookkeeping next normal) ∧
      ∀ actions later,
        (throwing clock sockets).runFrom next actions = some later →
          later.hasWork = false →
            ∃ now timer,
              state.thread = .firing now timer ∧
                next.fired.count timer.id < later.fired.count timer.id := by
  have running := reachable_running reachable
  refine ⟨running.finish_differs thrown, ?_⟩
  intro actions later taken hasNoWork
  rcases State.propagate_cases thrown with
    ⟨left, ⟨now, timer, at_⟩ | ⟨overlapped, at_⟩⟩
  · have queued := running.queued now timer at_
    have waits : Waits timer next := by
      rw [left]
      refine ⟨queued, running.numbered timer queued, ?_⟩
      intro other otherTimer firing
      cases firing
    rcases waits_until_fired waits taken with waiting | called
    · have hasWork := State.hasWork_of_queued waiting.queued
      rw [hasNoWork] at hasWork
      cases hasWork
    · exact ⟨now, timer, at_, called⟩
  · exfalso
    have leftOver : 1 ≤ next.surplus := by
      rw [State.surplus_propagate thrown, at_]
      have notNegative := running.surplus
      simp only [Thread.dispatched, List.length_singleton]
      omega
    have hasWork :=
      State.hasWork_of_surplus (surplus_stays leftOver taken)
    rw [hasNoWork] at hasWork
    cases hasWork

end Steps

/-- The callback of a completion is running. -/
def interrupted : List (ThrowingAction Int Unit) :=
  [.act .execute, .act (.advance 0 true), .act (.run .enter),
    .act (.run .loopTest), .act (.run .readClock), .act (.run .sweep),
    .act (.run .countTest), .act (.run (.dequeue 0 true))]

theorem exceptions_retire_nothing_interrupted :
    ∃ state next normal,
      (throwing 0 fun _ => { executor := true }).run interrupted =
          some state ∧
        (throwing 0 fun _ => { executor := true }).step state .throws =
          some next ∧
        next.live = [] ∧ next.overlappedCount = 1 ∧
        state.finish = some normal ∧
        ¬ State.SameBookkeeping next normal := by
  have reachable :
      (throwing (0 : Int) fun _ : Unit => { executor := true }).Reachable _ :=
    ⟨interrupted, rfl⟩
  rcases (exceptions_retire_nothing reachable rfl).1 with
    ⟨normal, finished, differs⟩
  exact ⟨_, _, normal, rfl, rfl, rfl, rfl, finished, differs⟩

/-- The callback of a timer is running. -/
def ringing : List (ThrowingAction Int Unit) :=
  [.act (.wait 0), .act (.run .enter), .act (.run .loopTest),
    .act (.run .readClock), .act (.run .sweep)]

/-- `run` is called again. -/
def rerun : List (ThrowingAction Int Unit) :=
  [.act (.run .enter), .act (.run .loopTest), .act (.run .readClock),
    .act (.run .sweep)]

/-- The timer is still in the queue, and the second `run` calls it again. -/
theorem ringing_not_retired :
    ¬ ∀ actions rest state next normal later,
        (throwing (0 : Int) fun _ : Unit => { executor := true }).run actions =
            some state →
          (throwing 0 fun _ => { executor := true }).step state .throws =
              some next →
            state.finish = some normal →
              (throwing 0 fun _ => { executor := true }).runFrom next rest =
                  some later →
                State.SameBookkeeping next normal ∧
                  ∀ now timer,
                    state.thread = .firing now timer →
                      later.fired.count timer.id =
                        next.fired.count timer.id := by
  intro always
  have retired := always ringing rerun _ _ _ _ rfl rfl rfl rfl
  exact absurd (retired.2 _ _ rfl) (by decide)

end Netycat.Executor
