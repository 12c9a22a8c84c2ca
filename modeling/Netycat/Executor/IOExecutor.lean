import Mathlib.Algebra.Order.Floor.Ring
import Mathlib.Algebra.Order.Ring.Defs
import Netycat.Impl.AsyncSocket
import Netycat.Lib.MinHeap

/-!
# The executor and the world around it

The state has the fields of `IOExecutor`, the thread that calls `run`, the
operating system's side of the asynchronous operations, the parties that are in
the middle of posting, submitting or resolving something, and the socket
objects.  `events` records what has happened, in order.

Time points are numbers of an ordered ring.  The counter is an integer, so that
going below zero would show.
-/

namespace Netycat.Executor

open Netycat.Corecat Netycat.Impl

def INFINITE : Nat := 0xFFFFFFFF

/-- `IOExecutor::Timer`; the number stands for its `cb`.  `run` calls the `cb` in
place, while the timer is still in the queue.  That a `wait` made by the `cb`
can move the timers in memory, the running one among them, is not modelled. -/
structure Timer (Time : Type*) where
  timePoint : Time
  id : Nat
deriving DecidableEq, Repr

/-- `timerQueue`, whose `operator <` puts the earliest time point on top.  It is
the timers it holds and their order, without the storage of the
`std::priority_queue`. -/
abbrev TimerQueue (Time : Type*) [LinearOrder Time] :=
  MinHeap (@Timer.timePoint Time)

/-- What the `cb` of an `Overlapped` does. -/
inductive Work (Target : Type*) where
  | execute
  | operation (index : Nat) (closure : Closure Target)
deriving DecidableEq, Repr

/-- `IOExecutor::Overlapped`. -/
structure Overlapped (Target : Type*) where
  id : Nat
  work : Work Target
deriving DecidableEq, Repr

/-- A completion queued on the port. -/
structure Packet (Target : Type*) where
  overlapped : Overlapped Target
  success : Bool
  byteCount : Nat
deriving DecidableEq, Repr

/--
A party in the middle of something: a resolver's worker looking up, a caller of
`PostQueuedCompletionStatus`, a worker before `endWork`, or an operation that is
making its overlapped call.
-/
inductive Task (Target : Type*) where
  | lookingUp
  | posting (id : Nat) (worker : Bool)
  | endingWork
  | submitting (id index : Nat) (closure : Closure Target)
deriving DecidableEq, Repr

/-- Where the thread of `run` is. -/
inductive Thread (Time Target : Type*) where
  | outside
  | loopTest
  | readClock
  | sweeping (now : Time)
  | firing (now : Time) (timer : Timer Time)
  | countTest (time : Nat)
  | waiting (time : Nat)
  | sleeping (time : Nat)
  | dispatching (overlapped : Overlapped Target)
deriving DecidableEq, Repr

/-- What has happened. -/
inductive Event (Time Target : Type*) where
  | created (overlapped : Nat)
  | destroyed (overlapped : Nat)
  | executed (overlapped : Nat)
  | operation (index : Nat) (event : OperationEvent Target)
  | fired (timer : Timer Time) (now : Time)
  | popped (timer : Timer Time)
deriving DecidableEq, Repr

structure State (Time Target : Type*) [LinearOrder Time] where
  overlappedCount : Int
  timerQueue : TimerQueue Time
  thread : Thread Time Target
  clock : Time
  tasks : List (Task Target)
  pending : List (Overlapped Target)
  port : List (Packet Target)
  work : Nat
  sockets : Target → Socket
  overlappeds : Nat
  operations : Nat
  timers : Nat
  events : List (Event Time Target)

namespace Task

variable {Target : Type*}

/-- The `Overlapped` that the party still holds. -/
def overlapped : Task Target → List (Overlapped Target)
  | .lookingUp => []
  | .posting id _ => [⟨id, .execute⟩]
  | .endingWork => []
  | .submitting id index closure => [⟨id, .operation index closure⟩]

/-- The calls of `beginWork` that the party has yet to match. -/
def unmatched : Task Target → Nat
  | .lookingUp => 1
  | .posting _ true => 1
  | .posting _ false => 0
  | .endingWork => 1
  | .submitting _ _ _ => 0

end Task

namespace Thread

variable {Time Target : Type*}

/-- The `Overlapped` whose callback is running. -/
def dispatched : Thread Time Target → List (Overlapped Target)
  | .dispatching overlapped => [overlapped]
  | _ => []

/-- User code runs on the thread: before `run`, after it, or in a callback. -/
def inUserCode : Thread Time Target → Bool
  | .outside => true
  | .firing _ _ => true
  | .dispatching _ => true
  | _ => false

end Thread

namespace State

variable {Time Target : Type*} [LinearOrder Time]

/-- The `Overlapped` objects whose callback has not been called. -/
def awaiting (state : State Time Target) : List (Overlapped Target) :=
  state.tasks.flatMap Task.overlapped ++ state.pending ++
    state.port.map Packet.overlapped

/-- The `Overlapped` objects that have not been destroyed. -/
def live (state : State Time Target) : List (Overlapped Target) :=
  state.thread.dispatched ++ state.awaiting

/-- The calls of `beginWork` that no `endWork` has matched. -/
def unmatchedWork (state : State Time Target) : Nat :=
  state.work + (state.tasks.map Task.unmatched).sum

/-- Record what happens. -/
def emit (state : State Time Target) (events : List (Event Time Target)) :
    State Time Target :=
  { state with events := state.events ++ events }

/-- `IOExecutor::createOverlapped`. -/
def createOverlapped (state : State Time Target) (work : Work Target) :
    Overlapped Target × State Time Target :=
  (⟨state.overlappeds, work⟩,
    { state with
        overlappedCount := state.overlappedCount + 1
        overlappeds := state.overlappeds + 1
        events := state.events ++ [.created state.overlappeds] })

/-- `IOExecutor::destroyOverlapped`. -/
def destroyOverlapped
    (state : State Time Target) (overlapped : Overlapped Target) :
    State Time Target :=
  { state with
      overlappedCount := state.overlappedCount - 1
      events := state.events ++ [.destroyed overlapped.id] }

/-- `IOExecutor::beginWork`, called by the user. -/
def beginWork (state : State Time Target) : State Time Target :=
  { state with
      overlappedCount := state.overlappedCount + 1
      work := state.work + 1 }

/-- `IOExecutor::endWork`, called by the user after `beginWork`. -/
def endWork (state : State Time Target) : State Time Target :=
  { state with
      overlappedCount := state.overlappedCount - 1
      work := state.work - 1 }

/-- `IOExecutor::execute`, up to `::PostQueuedCompletionStatus`. -/
def execute (state : State Time Target) : State Time Target :=
  let (overlapped, state) := state.createOverlapped .execute
  { state with tasks := .posting overlapped.id false :: state.tasks }

/-- `IPResolver::resolve`, the callback form: the rest is left to a worker. -/
def resolve (state : State Time Target) : State Time Target :=
  { state with
      overlappedCount := state.overlappedCount + 1
      tasks := .lookingUp :: state.tasks }

/-- `IOExecutor::wait`. -/
def wait [Add Time] (state : State Time Target) (time : Time) :
    State Time Target :=
  { state with
      timerQueue := state.timerQueue.push ⟨state.clock + time, state.timers⟩
      timers := state.timers + 1 }

/-- A callback form of `Impl::Socket`, up to its overlapped call. -/
def start [DecidableEq Target]
    (state : State Time Target) (self : Target) (operation : Operation Target) :
    State Time Target :=
  let index := state.operations
  let (socket, started) := operation.start (state.sockets self)
  let state :=
    { state with
        sockets := Function.update state.sockets self socket
        operations := state.operations + 1 }
  match started with
  | .error e => state.emit [.operation index (.callback (some e) none)]
  | .ok closure =>
      let (overlapped, state) :=
        (state.emit (closure.begun.map (.operation index))).createOverlapped
          (.operation index closure)
      { state with
          tasks := .submitting overlapped.id index closure :: state.tasks }

/-- What a callback form does when its overlapped call is rejected. -/
def reject
    (state : State Time Target) (id index : Nat) (closure : Closure Target) :
    State Time Target :=
  let state := state.emit (closure.release.map (.operation index))
  let state := state.destroyOverlapped ⟨id, .operation index closure⟩
  state.emit
    ((closure.report (some (IOException closure.rejection)) 0).map
      (.operation index))

/--
The next step of a party, the others being as they are; `succeeds` is the
outcome of the call to the operating system that the step makes.  When
`PostQueuedCompletionStatus` fails, the exception takes a worker past its
`endWork`, so its `beginWork` stays unmatched.
-/
def advance (state : State Time Target)
    (others : List (Task Target)) (succeeds : Bool) :
    Task Target → State Time Target
  | .lookingUp =>
      let (overlapped, state) := state.createOverlapped .execute
      { state with tasks := .posting overlapped.id true :: others }
  | .posting id worker =>
      if succeeds then
        { state with
            port := ⟨⟨id, .execute⟩, true, 0⟩ :: state.port
            tasks := if worker then .endingWork :: others else others }
      else
        { state.destroyOverlapped ⟨id, .execute⟩ with
            tasks := others
            work := if worker then state.work + 1 else state.work }
  | .endingWork =>
      { state with
          overlappedCount := state.overlappedCount - 1
          tasks := others }
  | .submitting id index closure =>
      if succeeds then
        { state with
            pending := ⟨id, .operation index closure⟩ :: state.pending
            tasks := others }
      else
        { state.reject id index closure with tasks := others }

/-- The part of `overlapped->cb(e, byteCount)` that is not the user's. -/
def invoke [DecidableEq Target]
    (state : State Time Target) (overlapped : Overlapped Target)
    (e : ExceptionPtr) (byteCount : Nat) (attached : Bool) :
    Option (State Time Target) :=
  match overlapped.work with
  | .execute => some (state.emit [.executed overlapped.id])
  | .operation index closure =>
      let state :=
        state.emit
          ((closure.release ++ closure.report e byteCount).map
            (.operation index))
      match closure, e with
      | .accept h target, none =>
          ((state.sockets target).setHandle h.value attached).map
            fun socket =>
              { state with
                  sockets := Function.update state.sockets target socket }
      | _, _ => some state

end State

/-- The error given to a callback when the completion is a failure. -/
def completionError (success : Bool) : ExceptionPtr :=
  if success then none
  else some (IOException "::GetQueuedCompletionStatus failed")

/-- `DWORD((timerQueue.top().timePoint - now).count() * 1000)` or `INFINITE`. -/
def timeout {Time : Type*} [Ring Time] [LinearOrder Time] [FloorRing Time]
    (timerQueue : TimerQueue Time) (now : Time) : Nat :=
  match timerQueue.top? with
  | some timer => ⌊(timer.timePoint - now) * 1000⌋.toNat % 2 ^ 32
  | none => INFINITE

end Netycat.Executor
