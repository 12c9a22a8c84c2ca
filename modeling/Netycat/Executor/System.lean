import Netycat.Executor.IOExecutor
import Netycat.Lib.Pool
import Netycat.Lib.TransitionSystem

/-!
# Every interleaving around `IOExecutor::run`

One action is one atomic step of one party: the thread of `run`, a party in the
middle of an operation, the operating system queueing a completion, or user
code.  User code starts operations from any thread at any time; only `wait` is
kept to the thread of `run`, which alone uses the timer queue.  The count is
read once by each test, and a test of the loop condition is the step that reads
it.

The operating system queues one completion for each call that it accepted and
none for a call that it rejected.  A callback does not throw, and
`attachHandle` throwing inside a callback ends the program.
-/

namespace Netycat.Executor

open Netycat.Corecat Netycat.Impl

/-- The steps of the thread that calls `run`. -/
inductive Move where
  | enter
  | loopTest
  | readClock
  | sweep
  | returnFromTimer
  | countTest
  | dequeue (index : Nat) (attached : Bool)
  | timeOut
  | wake
  | returnFromDispatch
deriving DecidableEq, Repr

/-- The steps of all parties. -/
inductive Action (Time Target : Type*) where
  | tick (elapsed : Time)
  | beginWork
  | endWork
  | resolve
  | execute
  | start (self : Target) (operation : Operation Target)
  | useSocket (target : Target) (socket : Socket)
  | advance (index : Nat) (succeeds : Bool)
  | complete (index : Nat) (success : Bool) (byteCount : Nat)
  | wait (time : Time)
  | run (move : Move)

namespace State

variable {Time Target : Type*}
variable [Ring Time] [LinearOrder Time] [FloorRing Time] [DecidableEq Target]

/-- The condition of the loop: `overlappedCount || timerQueue.size()`. -/
def hasWork (state : State Time Target) : Bool :=
  state.overlappedCount ≠ 0 || !state.timerQueue.isEmpty

/-- The inner loop calls the timer on top when it is due, or ends. -/
def sweep (state : State Time Target) (now : Time) : State Time Target :=
  match state.timerQueue.top? with
  | some timer =>
      if timer.timePoint ≤ now then
        { state with
            thread := .firing now timer
            events := state.events ++ [.fired timer now] }
      else
        { state with thread := .countTest (timeout state.timerQueue now) }
  | none => { state with thread := .countTest (timeout state.timerQueue now) }

/-- The state after the timer on top has been popped. -/
def afterPop (state : State Time Target) (top : Timer Time) (now : Time) :
    State Time Target :=
  { state with
      timerQueue := state.timerQueue.pop
      thread := .sweeping now
      events := state.events ++ [.popped top] }

/-- `timerQueue.pop()`, after the callback; undefined on an empty queue. -/
def returnFromTimer (state : State Time Target) (now : Time) :
    Option (State Time Target) :=
  state.timerQueue.top?.map fun top => state.afterPop top now

/-- How the thread waits: for a completion, for a while, or not at all. -/
def countTest (state : State Time Target) (time : Nat) : State Time Target :=
  if state.overlappedCount ≠ 0 then
    { state with thread := .waiting time }
  else if time ≠ INFINITE then
    { state with thread := .sleeping time }
  else
    { state with thread := .loopTest }

/-- The call of the callback of a completion that has been dequeued. -/
def dispatch (state : State Time Target) (packet : Packet Target)
    (others : List (Packet Target)) (attached : Bool) :
    Option (State Time Target) :=
  State.invoke
    { state with port := others, thread := .dispatching packet.overlapped }
    packet.overlapped (completionError packet.success) packet.byteCount
    attached

/-- A step of the thread that calls `run`. -/
def moveThread (state : State Time Target) :
    Move → Thread Time Target → Option (State Time Target)
  | .enter, .outside => some { state with thread := .loopTest }
  | .loopTest, .loopTest =>
      some
        { state with
            thread := if state.hasWork then .readClock else .outside }
  | .readClock, .readClock =>
      some { state with thread := .sweeping state.clock }
  | .sweep, .sweeping now => some (state.sweep now)
  | .returnFromTimer, .firing now _ => state.returnFromTimer now
  | .countTest, .countTest time => some (state.countTest time)
  | .dequeue index attached, .waiting _ =>
      (Pool.take? state.port index).bind fun (packet, others) =>
        state.dispatch packet others attached
  | .timeOut, .waiting time =>
      if time = INFINITE then none
      else some { state with thread := .loopTest }
  | .wake, .sleeping _ => some { state with thread := .loopTest }
  | .returnFromDispatch, .dispatching overlapped =>
      some
        { state.destroyOverlapped overlapped with thread := .loopTest }
  | _, _ => none

/-- A step of any party. -/
def step (state : State Time Target) :
    Action Time Target → Option (State Time Target)
  | .tick elapsed =>
      if 0 ≤ elapsed then
        some { state with clock := state.clock + elapsed }
      else none
  | .beginWork => some state.beginWork
  | .endWork => if 0 < state.work then some state.endWork else none
  | .resolve => some state.resolve
  | .execute => some state.execute
  | .start self operation => some (state.start self operation)
  | .useSocket target socket =>
      some
        { state with
            sockets := Function.update state.sockets target socket }
  | .advance index succeeds =>
      (Pool.take? state.tasks index).map fun (task, others) =>
        state.advance others succeeds task
  | .complete index success byteCount =>
      (Pool.take? state.pending index).map fun (overlapped, others) =>
        { state with
            pending := others
            port := ⟨overlapped, success, byteCount⟩ :: state.port }
  | .wait time =>
      if state.thread.inUserCode then some (state.wait time) else none
  | .run move => state.moveThread move state.thread

end State

variable {Time Target : Type*}
variable [Ring Time] [LinearOrder Time] [FloorRing Time] [DecidableEq Target]

/-- Nothing has been started. -/
def State.initial (clock : Time) (sockets : Target → Socket) :
    State Time Target where
  overlappedCount := 0
  timerQueue := .empty
  thread := .outside
  clock := clock
  tasks := []
  pending := []
  port := []
  work := 0
  sockets := sockets
  overlappeds := 0
  operations := 0
  timers := 0
  events := []

/-- The executor with every party around it. -/
def system (clock : Time) (sockets : Target → Socket) :
    TransitionSystem (State Time Target) (Action Time Target) where
  init := .initial clock sockets
  step := State.step

end Netycat.Executor
