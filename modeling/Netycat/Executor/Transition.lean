import Netycat.Executor.System

/-!
# What a step can do

`Transition` lists the ways in which a step can go, each with what it needs and
the state it leads to.  Everything that is proved about runs is proved from this
list.
-/

namespace Netycat.Executor

open Netycat.Corecat Netycat.Impl

variable {Time Target : Type*}
variable [Ring Time] [LinearOrder Time] [FloorRing Time] [DecidableEq Target]

/-- What the callback of an `Overlapped` makes happen. -/
def Overlapped.outcome (overlapped : Overlapped Target)
    (e : ExceptionPtr) (byteCount : Nat) : List (Event Time Target) :=
  match overlapped.work with
  | .execute => [.executed overlapped.id]
  | .operation index closure =>
      (closure.release ++ closure.report e byteCount).map (.operation index)

/-- The handles among the events that become a target's are in its field. -/
def Stores
    (events : List (Event Time Target)) (sockets : Target → Socket) : Prop :=
  ∀ index target h,
    .operation index (.setHandle target h) ∈ events →
      (sockets target).handle = h.value

omit [Ring Time] [FloorRing Time] in
/-- A callback only changes what has happened and the target of an `accept`. -/
theorem State.invoke_eq_some
    {state next : State Time Target} {overlapped : Overlapped Target}
    {e : ExceptionPtr} {byteCount : Nat} {attached : Bool}
    (invoked : state.invoke overlapped e byteCount attached = some next) :
    ∃ sockets,
      Stores (overlapped.outcome e byteCount : List (Event Time Target))
          sockets ∧
        next =
          { state with
              sockets := sockets
              events := state.events ++ overlapped.outcome e byteCount } := by
  rw [State.invoke] at invoked
  cases work : overlapped.work with
  | execute =>
      simp only [work, Option.some.injEq] at invoked
      refine ⟨state.sockets, ?_, ?_⟩
      · simp [Stores, Overlapped.outcome, work]
      · rw [← invoked, Overlapped.outcome, work]
        rfl
  | operation index closure =>
      have stored :
          ∀ other target h,
            (.operation other (.setHandle target h) : Event Time Target) ∈
                overlapped.outcome e byteCount →
              closure = .accept h target ∧ e = none := by
        intro other target h member
        rw [Overlapped.outcome, work] at member
        simp only [List.mem_map, List.mem_append, Event.operation.injEq] at member
        rcases member with ⟨event, released | reported, -, rfl⟩
        · cases closure <;> simp [Closure.release] at released
        · exact Closure.setHandle_mem_report reported
      simp only [work] at invoked
      split at invoked
      case h_1 h target =>
        rw [Option.map_eq_some_iff] at invoked
        rcases invoked with ⟨socket, attaches, rfl⟩
        refine ⟨_, ?_, by rw [Overlapped.outcome, work]; rfl⟩
        intro other target' h' member
        cases (stored other target' h' member).1
        rw [Function.update_self, Socket.setHandle_eq_some attaches]
      case h_2 others =>
        cases invoked
        refine ⟨state.sockets, ?_, by rw [Overlapped.outcome, work]; rfl⟩
        intro other target' h' member
        rcases stored other target' h' member with ⟨rfl, rfl⟩
        exact absurd rfl (others h' target' rfl)

omit [Ring Time] [FloorRing Time] [DecidableEq Target] in
/-- What is read off the events grows by what is read off the new ones. -/
theorem State.filterMap_of_events {Value : Type*}
    {state next : State Time Target} {events : List (Event Time Target)}
    (emitted : next.events = state.events ++ events)
    (read : Event Time Target → Option Value) :
    next.events.filterMap read =
      state.events.filterMap read ++ events.filterMap read := by
  rw [emitted, List.filterMap_append]

omit [Ring Time] [FloorRing Time] [DecidableEq Target] in
/-- A rejection releases, destroys and reports, in this order. -/
theorem State.reject_events
    (state : State Time Target) (id index : Nat) (closure : Closure Target) :
    (state.reject id index closure).events =
      state.events ++
        (closure.release.map (.operation index) ++
          .destroyed id ::
            (closure.report (some (IOException closure.rejection)) 0).map
              (.operation index)) := by
  simp [State.reject, State.emit, State.destroyOverlapped]

/-- The ways in which a step can go. -/
inductive Transition (state : State Time Target) :
    Action Time Target → State Time Target → Prop where
  | tick (elapsed : Time) (forward : 0 ≤ elapsed) :
      Transition state (.tick elapsed)
        { state with clock := state.clock + elapsed }
  | beginWork : Transition state .beginWork state.beginWork
  | endWork (begun : 0 < state.work) :
      Transition state .endWork state.endWork
  | resolve : Transition state .resolve state.resolve
  | execute : Transition state .execute state.execute
  | startEnds (self : Target) (operation : Operation Target)
      (socket : Socket) (e : Exception)
      (started : operation.start (state.sockets self) = (socket, .error e)) :
      Transition state (.start self operation)
        { state with
            sockets := Function.update state.sockets self socket
            operations := state.operations + 1
            events :=
              state.events ++
                [.operation state.operations (.callback (some e) none)] }
  | startSubmits (self : Target) (operation : Operation Target)
      (socket : Socket) (closure : Closure Target)
      (started : operation.start (state.sockets self) = (socket, .ok closure)) :
      Transition state (.start self operation)
        { state with
            overlappedCount := state.overlappedCount + 1
            overlappeds := state.overlappeds + 1
            tasks :=
              .submitting state.overlappeds state.operations closure ::
                state.tasks
            sockets := Function.update state.sockets self socket
            operations := state.operations + 1
            events :=
              state.events ++
                  closure.begun.map (.operation state.operations) ++
                [.created state.overlappeds] }
  | useSocket (target : Target) (socket : Socket) :
      Transition state (.useSocket target socket)
        { state with
            sockets := Function.update state.sockets target socket }
  | advance (index : Nat) (succeeds : Bool)
      (task : Task Target) (others : List (Task Target))
      (taken : Pool.take? state.tasks index = some (task, others)) :
      Transition state (.advance index succeeds)
        (state.advance others succeeds task)
  | complete (index : Nat) (success : Bool) (byteCount : Nat)
      (overlapped : Overlapped Target) (others : List (Overlapped Target))
      (taken : Pool.take? state.pending index = some (overlapped, others)) :
      Transition state (.complete index success byteCount)
        { state with
            pending := others
            port := ⟨overlapped, success, byteCount⟩ :: state.port }
  | wait (time : Time) (inUserCode : state.thread.inUserCode = true) :
      Transition state (.wait time) (state.wait time)
  | enter (at_ : state.thread = .outside) :
      Transition state (.run .enter) { state with thread := .loopTest }
  | goesOn (at_ : state.thread = .loopTest) (hasWork : state.hasWork = true) :
      Transition state (.run .loopTest) { state with thread := .readClock }
  | returns (at_ : state.thread = .loopTest)
      (hasNoWork : state.hasWork = false) :
      Transition state (.run .loopTest) { state with thread := .outside }
  | readClock (at_ : state.thread = .readClock) :
      Transition state (.run .readClock)
        { state with thread := .sweeping state.clock }
  | fires (now : Time) (timer : Timer Time)
      (at_ : state.thread = .sweeping now)
      (isTop : state.timerQueue.top? = some timer)
      (due : timer.timePoint ≤ now) :
      Transition state (.run .sweep)
        { state with
            thread := .firing now timer
            events := state.events ++ [.fired timer now] }
  | swept (now : Time) (at_ : state.thread = .sweeping now)
      (notDue :
        ∀ timer, state.timerQueue.top? = some timer →
          now < timer.timePoint) :
      Transition state (.run .sweep)
        { state with thread := .countTest (timeout state.timerQueue now) }
  | pops (now : Time) (running top : Timer Time)
      (at_ : state.thread = .firing now running)
      (isTop : state.timerQueue.top? = some top) :
      Transition state (.run .returnFromTimer) (state.afterPop top now)
  | waits (time : Nat) (at_ : state.thread = .countTest time)
      (counted : state.overlappedCount ≠ 0) :
      Transition state (.run .countTest)
        { state with thread := .waiting time }
  | sleeps (time : Nat) (at_ : state.thread = .countTest time)
      (notCounted : state.overlappedCount = 0) (finite : time ≠ INFINITE) :
      Transition state (.run .countTest)
        { state with thread := .sleeping time }
  | skips (time : Nat) (at_ : state.thread = .countTest time)
      (notCounted : state.overlappedCount = 0) (infinite : time = INFINITE) :
      Transition state (.run .countTest)
        { state with thread := .loopTest }
  | dispatches (index : Nat) (attached : Bool) (time : Nat)
      (packet : Packet Target) (others : List (Packet Target))
      (sockets : Target → Socket)
      (at_ : state.thread = .waiting time)
      (taken : Pool.take? state.port index = some (packet, others))
      (stored :
        Stores
          (packet.overlapped.outcome (completionError packet.success)
            packet.byteCount : List (Event Time Target))
          sockets) :
      Transition state (.run (.dequeue index attached))
        { state with
            port := others
            thread := .dispatching packet.overlapped
            sockets := sockets
            events :=
              state.events ++
                packet.overlapped.outcome (completionError packet.success)
                  packet.byteCount }
  | timesOut (time : Nat) (at_ : state.thread = .waiting time)
      (finite : time ≠ INFINITE) :
      Transition state (.run .timeOut) { state with thread := .loopTest }
  | wakes (time : Nat) (at_ : state.thread = .sleeping time) :
      Transition state (.run .wake) { state with thread := .loopTest }
  | returnsFromDispatch (overlapped : Overlapped Target)
      (at_ : state.thread = .dispatching overlapped) :
      Transition state (.run .returnFromDispatch)
        { state.destroyOverlapped overlapped with thread := .loopTest }

theorem moveThread_transition
    {state next : State Time Target} {move : Move}
    (moved : state.moveThread move state.thread = some next) :
    Transition state (.run move) next := by
  cases move with
  | enter =>
      cases at_ : state.thread with
      | outside =>
          simp only [at_, State.moveThread, Option.some.injEq] at moved
          exact moved ▸ .enter at_
      | _ => simp [at_, State.moveThread] at moved
  | loopTest =>
      cases at_ : state.thread with
      | loopTest =>
          simp only [at_, State.moveThread, Option.some.injEq] at moved
          cases hasWork : state.hasWork with
          | true =>
              rw [hasWork] at moved
              exact moved ▸ .goesOn at_ hasWork
          | false =>
              rw [hasWork] at moved
              exact moved ▸ .returns at_ hasWork
      | _ => simp [at_, State.moveThread] at moved
  | readClock =>
      cases at_ : state.thread with
      | readClock =>
          simp only [at_, State.moveThread, Option.some.injEq] at moved
          exact moved ▸ .readClock at_
      | _ => simp [at_, State.moveThread] at moved
  | sweep =>
      cases at_ : state.thread with
      | sweeping now =>
          simp only [at_, State.moveThread, Option.some.injEq,
            State.sweep] at moved
          cases isTop : state.timerQueue.top? with
          | some timer =>
              simp only [isTop] at moved
              split at moved
              case isTrue due => exact moved ▸ .fires now timer at_ isTop due
              case isFalse notDue =>
                apply moved ▸ Transition.swept now at_ ?_
                intro other otherTop
                rw [isTop] at otherTop
                cases otherTop
                exact not_le.mp notDue
          | none =>
              simp only [isTop] at moved
              apply moved ▸ Transition.swept now at_ ?_
              intro other otherTop
              rw [isTop] at otherTop
              cases otherTop
      | _ => simp [at_, State.moveThread] at moved
  | returnFromTimer =>
      cases at_ : state.thread with
      | firing now running =>
          simp only [at_, State.moveThread, State.returnFromTimer,
            Option.map_eq_some_iff] at moved
          rcases moved with ⟨top, isTop, rfl⟩
          exact .pops now running top at_ isTop
      | _ => simp [at_, State.moveThread] at moved
  | countTest =>
      cases at_ : state.thread with
      | countTest time =>
          simp only [at_, State.moveThread, Option.some.injEq,
            State.countTest] at moved
          split at moved
          case isTrue counted => exact moved ▸ .waits time at_ counted
          case isFalse notCounted =>
            split at moved
            case isTrue finite =>
              exact moved ▸ .sleeps time at_ (not_not.mp notCounted) finite
            case isFalse infinite =>
              exact
                moved ▸
                  .skips time at_ (not_not.mp notCounted) (not_not.mp infinite)
      | _ => simp [at_, State.moveThread] at moved
  | dequeue index attached =>
      cases at_ : state.thread with
      | waiting time =>
          simp only [at_, State.moveThread, Option.bind_eq_some_iff] at moved
          rcases moved with ⟨⟨packet, others⟩, taken, dispatched⟩
          rcases State.invoke_eq_some dispatched with ⟨sockets, stored, rfl⟩
          exact
            .dispatches index attached time packet others sockets at_ taken
              stored
      | _ => simp [at_, State.moveThread] at moved
  | timeOut =>
      cases at_ : state.thread with
      | waiting time =>
          simp only [at_, State.moveThread] at moved
          split at moved
          case isTrue => cases moved
          case isFalse finite =>
            rw [Option.some.injEq] at moved
            exact moved ▸ .timesOut time at_ finite
      | _ => simp [at_, State.moveThread] at moved
  | wake =>
      cases at_ : state.thread with
      | sleeping time =>
          simp only [at_, State.moveThread, Option.some.injEq] at moved
          exact moved ▸ .wakes time at_
      | _ => simp [at_, State.moveThread] at moved
  | returnFromDispatch =>
      cases at_ : state.thread with
      | dispatching overlapped =>
          simp only [at_, State.moveThread, Option.some.injEq] at moved
          exact moved ▸ .returnsFromDispatch overlapped at_
      | _ => simp [at_, State.moveThread] at moved

theorem start_transition
    (state : State Time Target) (self : Target) (operation : Operation Target) :
    Transition state (.start self operation) (state.start self operation) := by
  cases started : operation.start (state.sockets self) with
  | mk socket result =>
      cases result with
      | error e =>
          have result := Transition.startEnds self operation socket e started
          simpa only [State.start, started, State.emit] using result
      | ok closure =>
          have result :=
            Transition.startSubmits self operation socket closure started
          simpa only [State.start, started, State.emit,
            State.createOverlapped] using result

/-- Every step goes one of the ways listed. -/
theorem step_transition
    {state next : State Time Target} {action : Action Time Target}
    (stepped : state.step action = some next) :
    Transition state action next := by
  cases action with
  | tick elapsed =>
      rw [State.step] at stepped
      split at stepped
      case isTrue forward =>
        cases stepped
        exact .tick elapsed forward
      case isFalse => cases stepped
  | beginWork =>
      cases stepped
      exact .beginWork
  | endWork =>
      rw [State.step] at stepped
      split at stepped
      case isTrue begun =>
        cases stepped
        exact .endWork begun
      case isFalse => cases stepped
  | resolve =>
      cases stepped
      exact .resolve
  | execute =>
      cases stepped
      exact .execute
  | start self operation =>
      cases stepped
      exact start_transition state self operation
  | useSocket target socket =>
      cases stepped
      exact .useSocket target socket
  | advance index succeeds =>
      rw [State.step, Option.map_eq_some_iff] at stepped
      rcases stepped with ⟨⟨task, others⟩, taken, rfl⟩
      exact .advance index succeeds task others taken
  | complete index success byteCount =>
      rw [State.step, Option.map_eq_some_iff] at stepped
      rcases stepped with ⟨⟨overlapped, others⟩, taken, rfl⟩
      exact .complete index success byteCount overlapped others taken
  | wait time =>
      rw [State.step] at stepped
      split at stepped
      case isTrue inUserCode =>
        cases stepped
        exact .wait time inUserCode
      case isFalse => cases stepped
  | run move => exact moveThread_transition stepped

end Netycat.Executor
