import Netycat.Executor.Count
import Netycat.Lib.Ledger

/-!
# Every operation reports once

The operations are the jobs of an account, and the `Overlapped` objects are the
objects of another.  An operation either reports at once or becomes a closure,
and the closure stays with its `Overlapped` until the rejection or the dispatch
that calls it.  What an operation has done by then is fixed by its kind, so its
whole history is known once it is settled.
-/

namespace Netycat.Executor

open Netycat.Corecat Netycat.Impl

namespace Event

variable {Time Target : Type*}

/-- What the event says of one operation. -/
def ofOperation (index : Nat) :
    Event Time Target → Option (OperationEvent Target)
  | .operation other event => if other = index then some event else none
  | _ => none

def createdId : Event Time Target → Option Nat
  | .created overlapped => some overlapped
  | _ => none

def destroyedId : Event Time Target → Option Nat
  | .destroyed overlapped => some overlapped
  | _ => none

theorem ofOperation_destroyed (index overlapped : Nat) :
    ofOperation index (.destroyed overlapped : Event Time Target) = none :=
  rfl

theorem createdId_destroyed (overlapped : Nat) :
    createdId (.destroyed overlapped : Event Time Target) = none :=
  rfl

@[simp]
theorem filterMap_ofOperation_self
    (index : Nat) (events : List (OperationEvent Target)) :
    (events.map (@Event.operation Time Target index)).filterMap
        (Event.ofOperation index) = events := by
  induction events with
  | nil => rfl
  | cons event events induction => simp [ofOperation, induction]

theorem filterMap_ofOperation_other
    {index other : Nat} (different : other ≠ index)
    (events : List (OperationEvent Target)) :
    (events.map (@Event.operation Time Target index)).filterMap
        (Event.ofOperation other) = [] := by
  simp [List.filterMap_eq_nil_iff, ofOperation, different.symm]

@[simp]
theorem filterMap_createdId_operation
    (index : Nat) (events : List (OperationEvent Target)) :
    (events.map (@Event.operation Time Target index)).filterMap
        Event.createdId = [] := by
  simp [List.filterMap_eq_nil_iff, createdId]

@[simp]
theorem filterMap_destroyedId_operation
    (index : Nat) (events : List (OperationEvent Target)) :
    (events.map (@Event.operation Time Target index)).filterMap
        Event.destroyedId = [] := by
  simp [List.filterMap_eq_nil_iff, destroyedId]

end Event

/-- The operation whose closure the `Overlapped` holds. -/
def Overlapped.operation {Target : Type*} (overlapped : Overlapped Target) :
    Option (Nat × Closure Target) :=
  match overlapped.work with
  | .execute => none
  | .operation index closure => some (index, closure)

namespace State

variable {Time Target : Type*} [LinearOrder Time]

/-- What an operation has done so far. -/
def history (state : State Time Target) (index : Nat) :
    List (OperationEvent Target) :=
  state.events.filterMap (Event.ofOperation index)

/-- The `Overlapped` objects created, in order. -/
def created (state : State Time Target) : List Nat :=
  state.events.filterMap Event.createdId

/-- The `Overlapped` objects destroyed, in order. -/
def destroyed (state : State Time Target) : List Nat :=
  state.events.filterMap Event.destroyedId

/-- The operations whose closure is still to be called. -/
def underway (state : State Time Target) : List (Nat × Closure Target) :=
  state.awaiting.filterMap Overlapped.operation

end State

/-- The histories of an operation that has reported. -/
inductive Settled {Target : Type*} : List (OperationEvent Target) → Prop where
  | refused (e : Exception) : Settled [.callback (some e) none]
  | ended (closure : Closure Target) (e : ExceptionPtr) (byteCount : Nat) :
      Settled
        (closure.begun ++ (closure.release ++ closure.report e byteCount))

section Accounts

variable {Time Target : Type*} [LinearOrder Time]

/-- The account of the `Overlapped` objects. -/
def Objects (state : State Time Target) : Prop :=
  ObjectAccount state.overlappeds state.created state.destroyed
    (state.live.map Overlapped.id)

/-- The account of the operations. -/
def Jobs (state : State Time Target) : Prop :=
  JobAccount Closure.begun Settled state.operations state.underway
    state.history

/-- What neither account sees. -/
structure Quiet (state next : State Time Target) : Prop where
  dispatched : next.thread.dispatched = state.thread.dispatched
  awaiting : next.awaiting.Perm state.awaiting
  overlappeds : next.overlappeds = state.overlappeds
  operations : next.operations = state.operations
  created : next.created = state.created
  destroyed : next.destroyed = state.destroyed
  history : ∀ index, next.history index = state.history index

/-- Both accounts. -/
structure Accounts (state : State Time Target) : Prop where
  objects : Objects state
  jobs : Jobs state

theorem Accounts.quiet
    {state next : State Time Target} (accounts : Accounts state)
    (quiet : Quiet state next) :
    Accounts next := by
  constructor
  · rw [Objects, quiet.overlappeds, quiet.created, quiet.destroyed]
    apply ObjectAccount.perm accounts.objects
    apply List.Perm.map
    rw [State.live, State.live, quiet.dispatched]
    exact quiet.awaiting.append_left _
  · rw [Jobs, quiet.operations]
    exact
      JobAccount.perm accounts.jobs
        (quiet.awaiting.filterMap Overlapped.operation) quiet.history

/-- A step without events that moves `Overlapped` objects at most. -/
theorem Quiet.still
    {state next : State Time Target}
    (dispatched : next.thread.dispatched = state.thread.dispatched)
    (awaiting : next.awaiting.Perm state.awaiting)
    (overlappeds : next.overlappeds = state.overlappeds)
    (operations : next.operations = state.operations)
    (events : next.events = state.events) :
    Quiet state next where
  dispatched := dispatched
  awaiting := awaiting
  overlappeds := overlappeds
  operations := operations
  created := by rw [State.created, State.created, events]
  destroyed := by rw [State.destroyed, State.destroyed, events]
  history := fun index => by rw [State.history, State.history, events]

/-- A move of the thread of `run` between two places without a callback. -/
theorem Quiet.move
    {state next : State Time Target}
    (before : state.thread.dispatched = [])
    (afterwards : next.thread.dispatched = [])
    (awaiting : next.awaiting = state.awaiting)
    (overlappeds : next.overlappeds = state.overlappeds)
    (operations : next.operations = state.operations)
    (events : next.events = state.events) :
    Quiet state next :=
  .still (afterwards.trans before.symm) (awaiting ▸ List.Perm.refl _)
    overlappeds operations events

/-- A move of the thread of `run` that starts or ends a timer's callback. -/
theorem Quiet.emit
    {state next : State Time Target} {event : Event Time Target}
    (before : state.thread.dispatched = [])
    (afterwards : next.thread.dispatched = [])
    (awaiting : next.awaiting = state.awaiting)
    (overlappeds : next.overlappeds = state.overlappeds)
    (operations : next.operations = state.operations)
    (noOperation : ∀ index, Event.ofOperation index event = none)
    (notCreated : Event.createdId event = none)
    (notDestroyed : Event.destroyedId event = none)
    (emitted : next.events = state.events ++ [event]) :
    Quiet state next where
  dispatched := afterwards.trans before.symm
  awaiting := awaiting ▸ List.Perm.refl _
  overlappeds := overlappeds
  operations := operations
  created := by
    rw [State.created, State.filterMap_of_events emitted]
    simp [State.created, notCreated]
  destroyed := by
    rw [State.destroyed, State.filterMap_of_events emitted]
    simp [State.destroyed, notDestroyed]
  history := fun index => by
    rw [State.history, State.filterMap_of_events emitted]
    simp [State.history, noOperation]

/-! ## What is taken from the pools -/

theorem awaiting_of_tasks
    {state : State Time Target} {task : Task Target}
    {others : List (Task Target)}
    (taken : state.tasks.Perm (task :: others)) :
    state.awaiting.Perm
      (task.overlapped ++ State.awaiting { state with tasks := others }) := by
  have tasks := taken.flatMap_right Task.overlapped
  rw [List.flatMap_cons] at tasks
  have together :=
    (tasks.append_right state.pending).append_right
      (state.port.map Packet.overlapped)
  simp only [List.append_assoc] at together
  simpa only [State.awaiting, List.append_assoc] using together

theorem awaiting_of_pending
    {state : State Time Target} {overlapped : Overlapped Target}
    {others : List (Overlapped Target)}
    (taken : state.pending.Perm (overlapped :: others)) :
    state.awaiting.Perm
      (overlapped :: State.awaiting { state with pending := others }) := by
  have pending :=
    (taken.append_left (state.tasks.flatMap Task.overlapped)).append_right
      (state.port.map Packet.overlapped)
  have moved :
      (state.tasks.flatMap Task.overlapped ++ overlapped :: others ++
          state.port.map Packet.overlapped).Perm
        (overlapped :: (state.tasks.flatMap Task.overlapped ++ others) ++
          state.port.map Packet.overlapped) :=
    List.perm_middle.append_right _
  exact pending.trans moved

theorem awaiting_of_port
    {state : State Time Target} {packet : Packet Target}
    {others : List (Packet Target)}
    (taken : state.port.Perm (packet :: others)) :
    state.awaiting.Perm
      (packet.overlapped :: State.awaiting { state with port := others }) := by
  have port :=
    (taken.map Packet.overlapped).append_left
      (state.tasks.flatMap Task.overlapped ++ state.pending)
  rw [List.map_cons] at port
  exact port.trans List.perm_middle

theorem underway_of_awaiting
    {state : State Time Target} {overlapped : Overlapped Target}
    {others : List (Overlapped Target)}
    (taken : state.awaiting.Perm (overlapped :: others)) :
    state.underway.Perm
      (overlapped.operation.toList ++
        others.filterMap Overlapped.operation) := by
  have underway := taken.filterMap Overlapped.operation
  rw [List.filterMap_cons] at underway
  cases operation : overlapped.operation with
  | none =>
      rw [operation] at underway
      exact underway
  | some job =>
      rw [operation] at underway
      exact underway

/-! ## What is added to the accounts -/

theorem history_of_events
    {state next : State Time Target} {events : List (Event Time Target)}
    (emitted : next.events = state.events ++ events) (index : Nat) :
    next.history index =
      state.history index ++ events.filterMap (Event.ofOperation index) :=
  State.filterMap_of_events emitted (Event.ofOperation index)

theorem created_of_events
    {state next : State Time Target} {events : List (Event Time Target)}
    (emitted : next.events = state.events ++ events) :
    next.created = state.created ++ events.filterMap Event.createdId :=
  State.filterMap_of_events emitted Event.createdId

theorem destroyed_of_events
    {state next : State Time Target} {events : List (Event Time Target)}
    (emitted : next.events = state.events ++ events) :
    next.destroyed =
      state.destroyed ++ events.filterMap Event.destroyedId :=
  State.filterMap_of_events emitted Event.destroyedId

/-- An `Overlapped` that is not an operation's has been made. -/
theorem Accounts.executes
    {state next : State Time Target} (accounts : Accounts state)
    (dispatched : next.thread.dispatched = state.thread.dispatched)
    (awaiting :
      next.awaiting.Perm (⟨state.overlappeds, .execute⟩ :: state.awaiting))
    (overlappeds : next.overlappeds = state.overlappeds + 1)
    (operations : next.operations = state.operations)
    (emitted : next.events = state.events ++ [.created state.overlappeds]) :
    Accounts next := by
  constructor
  · rw [Objects, overlappeds, created_of_events emitted,
      destroyed_of_events emitted]
    have live :
        next.live.Perm (⟨state.overlappeds, .execute⟩ :: state.live) := by
      rw [State.live, State.live, dispatched]
      exact (awaiting.append_left _).trans List.perm_middle
    have account := ObjectAccount.create accounts.objects
      (live.map Overlapped.id)
    simpa only [Event.createdId, Event.destroyedId, List.filterMap_cons,
      List.filterMap_nil, List.append_nil] using account
  · rw [Jobs, operations]
    apply JobAccount.perm accounts.jobs
    · exact underway_of_awaiting awaiting
    · intro index
      rw [history_of_events emitted]
      simp [Event.ofOperation]

/-- An `Overlapped` that is not an operation's is destroyed. -/
theorem Accounts.destroys
    {state next : State Time Target} {overlapped : Overlapped Target}
    (accounts : Accounts state)
    (live : state.live.Perm (overlapped :: next.live))
    (underway : next.underway.Perm state.underway)
    (overlappeds : next.overlappeds = state.overlappeds)
    (operations : next.operations = state.operations)
    (emitted : next.events = state.events ++ [.destroyed overlapped.id]) :
    Accounts next := by
  constructor
  · rw [Objects, overlappeds, created_of_events emitted,
      destroyed_of_events emitted]
    have account := ObjectAccount.destroy accounts.objects
      (live.map Overlapped.id)
    simpa only [Event.createdId, Event.destroyedId, List.filterMap_cons,
      List.filterMap_nil, List.append_nil] using account
  · rw [Jobs, operations]
    apply JobAccount.perm accounts.jobs underway
    intro index
    rw [history_of_events emitted]
    simp [Event.ofOperation]

/-- An operation has reported without making an `Overlapped`. -/
theorem Accounts.refuses
    {state next : State Time Target} {e : Exception}
    (accounts : Accounts state)
    (live : next.live = state.live)
    (underway : next.underway = state.underway)
    (overlappeds : next.overlappeds = state.overlappeds)
    (operations : next.operations = state.operations + 1)
    (emitted :
      next.events =
        state.events ++
          [.operation state.operations (.callback (some e) none)]) :
    Accounts next := by
  constructor
  · have created : next.created = state.created :=
      (created_of_events emitted).trans (List.append_nil _)
    have destroyed : next.destroyed = state.destroyed :=
      (destroyed_of_events emitted).trans (List.append_nil _)
    rw [Objects, overlappeds, created, destroyed, live]
    exact accounts.objects
  · rw [Jobs, operations, underway]
    apply JobAccount.refuse accounts.jobs (.refused e)
    · rw [history_of_events emitted]
      simp [Event.ofOperation]
    · intro index different
      rw [history_of_events emitted]
      simp [Event.ofOperation, different.symm]

/-- An operation has made its `Overlapped`. -/
theorem Accounts.submits
    {state next : State Time Target} {closure : Closure Target}
    (accounts : Accounts state)
    (dispatched : next.thread.dispatched = state.thread.dispatched)
    (awaiting :
      next.awaiting.Perm
        (⟨state.overlappeds, .operation state.operations closure⟩ ::
          state.awaiting))
    (overlappeds : next.overlappeds = state.overlappeds + 1)
    (operations : next.operations = state.operations + 1)
    (emitted :
      next.events =
        state.events ++
          (closure.begun.map (.operation state.operations) ++
            [.created state.overlappeds])) :
    Accounts next := by
  constructor
  · rw [Objects, overlappeds, created_of_events emitted,
      destroyed_of_events emitted]
    have live :
        next.live.Perm
          (⟨state.overlappeds, .operation state.operations closure⟩ ::
            state.live) := by
      rw [State.live, State.live, dispatched]
      exact (awaiting.append_left _).trans List.perm_middle
    rw [List.filterMap_append, List.filterMap_append,
      Event.filterMap_createdId_operation,
      Event.filterMap_destroyedId_operation]
    have account := ObjectAccount.create accounts.objects
      (live.map Overlapped.id)
    simpa only [Event.createdId, Event.destroyedId, List.filterMap_cons,
      List.filterMap_nil, List.nil_append, List.append_nil] using account
  · rw [Jobs, operations]
    have own :
        next.history state.operations =
          state.history state.operations ++ closure.begun := by
      rw [history_of_events emitted, List.filterMap_append,
        Event.filterMap_ofOperation_self]
      simp [Event.ofOperation]
    apply JobAccount.submit accounts.jobs own
    · intro index different
      rw [history_of_events emitted, List.filterMap_append,
        Event.filterMap_ofOperation_other different]
      simp [Event.ofOperation]
    · exact underway_of_awaiting awaiting

/-- The closure of an operation has been called, or discarded and reported. -/
theorem Accounts.settles
    {state next : State Time Target} {id index : Nat}
    {closure : Closure Target} {e : ExceptionPtr} {byteCount : Nat}
    (accounts : Accounts state) (objects : Objects next)
    (taken :
      state.awaiting.Perm (⟨id, .operation index closure⟩ :: next.awaiting))
    (operations : next.operations = state.operations)
    (own :
      next.history index =
        state.history index ++
          (closure.release ++ closure.report e byteCount))
    (same :
      ∀ other, other ≠ index → next.history other = state.history other) :
    Accounts next where
  objects := objects
  jobs := by
    rw [Jobs, operations]
    exact
      JobAccount.settle accounts.jobs (underway_of_awaiting taken)
        (.ended closure e byteCount) own same

/-- The overlapped call of an operation has been rejected. -/
theorem Accounts.rejects
    {state next : State Time Target} {id index : Nat}
    {closure : Closure Target} {e : ExceptionPtr} {byteCount : Nat}
    (accounts : Accounts state)
    (live : state.live.Perm (⟨id, .operation index closure⟩ :: next.live))
    (awaiting :
      state.awaiting.Perm (⟨id, .operation index closure⟩ :: next.awaiting))
    (overlappeds : next.overlappeds = state.overlappeds)
    (operations : next.operations = state.operations)
    (emitted :
      next.events =
        state.events ++
          (closure.release.map (.operation index) ++
            .destroyed id ::
              (closure.report e byteCount).map (.operation index))) :
    Accounts next := by
  have created : next.created = state.created := by
    rw [created_of_events emitted, List.filterMap_append, List.filterMap_cons,
      Event.filterMap_createdId_operation, Event.createdId_destroyed,
      Event.filterMap_createdId_operation]
    exact List.append_nil _
  have destroyed : next.destroyed = state.destroyed ++ [id] := by
    rw [destroyed_of_events emitted, List.filterMap_append,
      List.filterMap_cons, Event.filterMap_destroyedId_operation,
      Event.destroyedId, Event.filterMap_destroyedId_operation]
    rfl
  have objects : Objects next := by
    rw [Objects, overlappeds, created, destroyed]
    exact ObjectAccount.destroy accounts.objects (live.map Overlapped.id)
  have own :
      next.history index =
        state.history index ++
          (closure.release ++ closure.report e byteCount) := by
    rw [history_of_events emitted, List.filterMap_append, List.filterMap_cons,
      Event.filterMap_ofOperation_self, Event.ofOperation_destroyed,
      Event.filterMap_ofOperation_self]
  apply accounts.settles objects awaiting operations own
  intro other different
  rw [history_of_events emitted, List.filterMap_append, List.filterMap_cons,
    Event.filterMap_ofOperation_other different, Event.ofOperation_destroyed,
    Event.filterMap_ofOperation_other different]
  exact List.append_nil _

/-- A completion has been dequeued and its callback called. -/
theorem Accounts.dispatches
    {state next : State Time Target} {packet : Packet Target}
    {e : ExceptionPtr} {byteCount : Nat} (accounts : Accounts state)
    (live : next.live.Perm state.live)
    (awaiting :
      state.awaiting.Perm (packet.overlapped :: next.awaiting))
    (overlappeds : next.overlappeds = state.overlappeds)
    (operations : next.operations = state.operations)
    (emitted :
      next.events =
        state.events ++ packet.overlapped.outcome e byteCount) :
    Accounts next := by
  cases overlapped : packet.overlapped with
  | mk id work =>
      rw [overlapped] at awaiting emitted
      cases work with
      | execute =>
          constructor
          · have created : next.created = state.created :=
              (created_of_events emitted).trans (List.append_nil _)
            have destroyed : next.destroyed = state.destroyed :=
              (destroyed_of_events emitted).trans (List.append_nil _)
            rw [Objects, overlappeds, created, destroyed]
            exact ObjectAccount.perm accounts.objects (live.map Overlapped.id)
          · rw [Jobs, operations]
            apply JobAccount.perm accounts.jobs
            · exact (underway_of_awaiting awaiting).symm
            · intro index
              rw [history_of_events emitted]
              exact List.append_nil _
      | operation index closure =>
          have created : next.created = state.created := by
            rw [created_of_events emitted, Overlapped.outcome,
              Event.filterMap_createdId_operation]
            exact List.append_nil _
          have destroyed : next.destroyed = state.destroyed := by
            rw [destroyed_of_events emitted, Overlapped.outcome,
              Event.filterMap_destroyedId_operation]
            exact List.append_nil _
          have objects : Objects next := by
            rw [Objects, overlappeds, created, destroyed]
            exact ObjectAccount.perm accounts.objects (live.map Overlapped.id)
          have own :
              next.history index =
                state.history index ++
                  (closure.release ++ closure.report e byteCount) := by
            rw [history_of_events emitted, Overlapped.outcome,
              Event.filterMap_ofOperation_self]
          apply accounts.settles objects awaiting operations own
          intro other different
          rw [history_of_events emitted, Overlapped.outcome,
            Event.filterMap_ofOperation_other different]
          exact List.append_nil _

/-! ## One step -/

/-- The step of a party, whatever its outcome. -/
theorem Accounts.advance
    {state : State Time Target} {task : Task Target}
    {others : List (Task Target)} (succeeds : Bool)
    (taken : state.tasks.Perm (task :: others))
    (accounts : Accounts state) :
    Accounts (state.advance others succeeds task) := by
  have awaiting := awaiting_of_tasks taken
  have live :
      state.live.Perm
        (task.overlapped ++ State.live { state with tasks := others }) := by
    rw [State.live, State.live]
    apply (awaiting.append_left _).trans
    exact List.perm_append_comm_assoc _ _ _
  cases task with
  | lookingUp =>
      exact
        accounts.executes rfl (awaiting.symm.cons _) rfl rfl rfl
  | posting id worker =>
      cases succeeds with
      | true =>
          refine accounts.quiet (.still rfl ?_ rfl rfl rfl)
          cases worker with
          | true => exact List.perm_middle.trans awaiting.symm
          | false => exact List.perm_middle.trans awaiting.symm
      | false =>
          have underway := (underway_of_awaiting awaiting).symm
          exact accounts.destroys live underway rfl rfl rfl
  | endingWork =>
      exact
        accounts.quiet (.still rfl awaiting.symm rfl rfl rfl)
  | submitting id index closure =>
      cases succeeds with
      | true =>
          refine accounts.quiet (.still rfl ?_ rfl rfl rfl)
          have moved :
              (others.flatMap Task.overlapped ++
                    ⟨id, .operation index closure⟩ :: state.pending ++
                  state.port.map Packet.overlapped).Perm
                (⟨id, .operation index closure⟩ ::
                    (others.flatMap Task.overlapped ++ state.pending) ++
                  state.port.map Packet.overlapped) :=
            List.perm_middle.append_right _
          exact moved.trans awaiting.symm
      | false =>
          have emitted := state.reject_events id index closure
          exact accounts.rejects live awaiting rfl rfl emitted

variable [Ring Time] [FloorRing Time] [DecidableEq Target]

/-- Every step keeps both accounts. -/
theorem Transition.accounts
    {state next : State Time Target} {action : Action Time Target}
    (transition : Transition state action next)
    (accounts : Accounts state) :
    Accounts next := by
  cases transition with
  | tick _ _ | beginWork | endWork _ | resolve | useSocket _ _ | wait _ _ =>
      exact accounts.quiet (.still rfl (.refl _) rfl rfl rfl)
  | execute => exact accounts.executes rfl (.refl _) rfl rfl rfl
  | startEnds self operation socket e started =>
      exact accounts.refuses rfl rfl rfl rfl rfl
  | startSubmits self operation socket closure started =>
      exact
        accounts.submits rfl (.refl _) rfl rfl (List.append_assoc _ _ _)
  | advance index succeeds task others taken =>
      exact accounts.advance succeeds (Pool.take?_perm taken)
  | complete index success byteCount overlapped others taken =>
      have awaiting := awaiting_of_pending (Pool.take?_perm taken)
      refine accounts.quiet (.still rfl ?_ rfl rfl rfl)
      exact List.perm_middle.trans awaiting.symm
  | enter at_ | goesOn at_ _ | returns at_ _ | readClock at_
  | swept _ at_ _ | waits _ at_ _ | sleeps _ at_ _ _ | skips _ at_ _ _
  | timesOut _ at_ _ | wakes _ at_ =>
      exact accounts.quiet (.move (by rw [at_]; rfl) rfl rfl rfl rfl rfl)
  | fires _ _ at_ _ _ | pops _ _ _ at_ _ =>
      exact
        accounts.quiet
          (.emit (by rw [at_]; rfl) rfl rfl rfl rfl (fun _ => rfl) rfl rfl rfl)
  | dispatches index attached time packet others sockets at_ taken _ =>
      have awaiting := awaiting_of_port (Pool.take?_perm taken)
      have live :
          (packet.overlapped ::
              State.awaiting { state with port := others }).Perm
            state.live := by
        rw [State.live, at_]
        exact awaiting.symm
      exact accounts.dispatches live awaiting rfl rfl rfl
  | returnsFromDispatch overlapped at_ =>
      have live : state.live.Perm (overlapped :: state.awaiting) := by
        rw [State.live, at_]
        exact .refl _
      exact accounts.destroys live (.refl _) rfl rfl rfl

theorem reachable_accounts
    {clock : Time} {sockets : Target → Socket} {state : State Time Target}
    (reachable : (system clock sockets).Reachable state) :
    Accounts state := by
  apply TransitionSystem.Reachable.induction _ _ _ reachable
  · exact ⟨ObjectAccount.empty, JobAccount.empty⟩
  · intro state action next _ accounts stepped
    exact (step_transition stepped).accounts accounts

end Accounts

/-! ## What a settled operation has done -/

section Histories

variable {Target : Type*}

def OperationEvent.isCallback : OperationEvent Target → Bool
  | .callback _ _ => true
  | _ => false

/-- How often the callback of the operation has been called. -/
def callbacks (history : List (OperationEvent Target)) : Nat :=
  history.countP OperationEvent.isCallback

theorem Settled.callbacks
    {history : List (OperationEvent Target)} (settled : Settled history) :
    callbacks history = 1 := by
  cases settled with
  | refused e => rfl
  | ended closure e byteCount =>
      cases closure with
      | connect => rfl
      | accept h target =>
          cases e with
          | none => rfl
          | some e => rfl
      | transfer message => rfl

/--
The callback is called at most once, and the socket opened for a target is
closed exactly once if the callback is given an error, stored in the target
exactly once if it is not, and neither before.
-/
structure Orderly [DecidableEq Target]
    (history : List (OperationEvent Target)) : Prop where
  once : callbacks history ≤ 1
  before :
    callbacks history = 0 →
      ∀ h target,
        .closesocket h ∉ history ∧ .setHandle target h ∉ history
  closed :
    ∀ h target e count,
      .opened h target ∈ history → .callback (some e) count ∈ history →
        history.count (.closesocket h) = 1 ∧
          ∀ other stored, .setHandle other stored ∉ history
  stored :
    ∀ h target count,
      .opened h target ∈ history → .callback none count ∈ history →
        history.count (.setHandle target h) = 1 ∧
          ∀ other, .closesocket other ∉ history

variable [DecidableEq Target]

theorem Orderly.nil : Orderly ([] : List (OperationEvent Target)) where
  once := Nat.zero_le 1
  before := by simp
  closed := by simp
  stored := by simp

theorem Orderly.begun (closure : Closure Target) : Orderly closure.begun := by
  cases closure with
  | connect => exact .nil
  | accept h target =>
      constructor
      · exact Nat.zero_le 1
      · simp [Closure.begun]
      · simp [Closure.begun]
      · simp [Closure.begun]
  | transfer message => exact .nil

/-- The history of an operation that opened nothing. -/
theorem Orderly.reported (e : ExceptionPtr) (count : Option Nat) :
    Orderly [(.callback e count : OperationEvent Target)] where
  once := Nat.le_refl 1
  before := by simp
  closed := by simp
  stored := by simp

theorem Orderly.acceptFailed (h : OpenHandle) (target : Target)
    (e : Exception) :
    Orderly
      [.opened h target, .newBuffer, .deleteBuffer, .closesocket h,
        .callback (some e) none] where
  once := Nat.le_refl 1
  before := by simp [Executor.callbacks, OperationEvent.isCallback]
  closed := by
    intro other otherTarget error count opened reported
    simp only [List.mem_cons, OperationEvent.opened.injEq, reduceCtorEq,
      List.not_mem_nil, or_false] at opened
    rw [opened.1]
    constructor
    · simp
    · simp
  stored := by simp

theorem Orderly.acceptStored (h : OpenHandle) (target : Target) :
    Orderly
      [.opened h target, .newBuffer, .deleteBuffer, .setHandle target h,
        .callback none none] where
  once := Nat.le_refl 1
  before := by simp [Executor.callbacks, OperationEvent.isCallback]
  closed := by simp
  stored := by
    intro other otherTarget count opened reported
    simp only [List.mem_cons, OperationEvent.opened.injEq, reduceCtorEq,
      List.not_mem_nil, or_false] at opened
    rw [opened.1, opened.2]
    constructor
    · simp
    · simp

theorem Settled.orderly
    {history : List (OperationEvent Target)} (settled : Settled history) :
    Orderly history := by
  cases settled with
  | refused e => exact .reported (some e) none
  | ended closure e byteCount =>
      cases closure with
      | connect => exact .reported e none
      | accept h target =>
          cases e with
          | none => exact .acceptStored h target
          | some e => exact .acceptFailed h target e
      | transfer message => exact .reported e (some byteCount)

end Histories

/-! ## Whole runs -/

section Runs

variable {Time Target : Type*} [LinearOrder Time] [DecidableEq Target]

theorem Jobs.orderly
    {state : State Time Target} (jobs : Jobs state) (index : Nat) :
    Orderly (state.history index) := by
  by_cases below : index < state.operations
  · by_cases open_ : index ∈ state.underway.map Prod.fst
    · rcases List.mem_map.mp open_ with ⟨⟨job, closure⟩, member, rfl⟩
      rw [(jobs.underway job closure member).2]
      exact .begun closure
    · exact (jobs.settled index below open_).orderly
  · rw [jobs.unborn index (Nat.le_of_not_lt below)]
    exact .nil

omit [DecidableEq Target] in
/-- A party stores no handle: a rejected `accept` closes the one it opened. -/
theorem stores_of_advance
    {state : State Time Target} {task : Task Target}
    {others : List (Task Target)} {succeeds : Bool}
    {index : Nat} {target : Target} {h : OpenHandle}
    (event :
      .operation index (.setHandle target h) ∈
        (state.advance others succeeds task).events) :
    .operation index (.setHandle target h) ∈ state.events := by
  cases task with
  | lookingUp =>
      simpa [State.advance, State.createOverlapped] using event
  | posting id worker =>
      cases succeeds with
      | true => exact event
      | false =>
          simpa [State.advance, State.destroyOverlapped] using event
  | endingWork => exact event
  | submitting id job closure =>
      cases succeeds with
      | true => exact event
      | false =>
          simp only [State.advance, Bool.false_eq_true, if_false,
            State.reject_events, List.mem_append, List.mem_cons,
            List.mem_map] at event
          rcases event with
            old | ⟨released, member, same⟩ | impossible |
              ⟨reported, member, same⟩
          · exact old
          · cases same
            cases closure <;> simp [Closure.release] at member
          · cases impossible
          · cases same
            cases (Closure.setHandle_mem_report member).2

variable [Ring Time] [FloorRing Time]

/-- A handle that a step stores is in the target's field afterwards. -/
theorem Transition.stores
    {state next : State Time Target} {action : Action Time Target}
    (transition : Transition state action next)
    {index : Nat} {target : Target} {h : OpenHandle}
    (event : .operation index (.setHandle target h) ∈ next.events) :
    .operation index (.setHandle target h) ∈ state.events ∨
      (next.sockets target).handle = h.value := by
  cases transition with
  | execute =>
      apply Or.inl
      simpa [State.execute, State.createOverlapped] using event
  | startEnds self operation socket e started =>
      apply Or.inl
      simpa using event
  | startSubmits self operation socket closure started =>
      apply Or.inl
      cases closure with
      | connect => simpa [Closure.begun] using event
      | accept opened stored => simpa [Closure.begun] using event
      | transfer message => simpa [Closure.begun] using event
  | advance position succeeds task others taken =>
      exact Or.inl (stores_of_advance event)
  | fires now timer at_ isTop due =>
      apply Or.inl
      simpa using event
  | pops now running top at_ isTop =>
      apply Or.inl
      simpa [State.afterPop] using event
  | dispatches index attached time packet others sockets at_ taken stored =>
      rcases List.mem_append.mp event with old | new
      · exact Or.inl old
      · exact Or.inr (stored _ _ _ new)
  | returnsFromDispatch overlapped at_ =>
      apply Or.inl
      simpa [State.destroyOverlapped] using event
  | _ => exact Or.inl event

/--
In every reachable state each operation's callback has been called at most
once, no `Overlapped` has been destroyed twice, and the socket that an `accept`
opened has been closed or stored as its callback's error says; a socket that is
stored is in its target's field.  When `run` returns, every callback has been
called and every `Overlapped` destroyed exactly once.
-/
theorem operations_report_once
    {clock : Time} {sockets : Target → Socket} {state : State Time Target}
    (reachable : (system clock sockets).Reachable state) :
    (∀ index, Orderly (state.history index)) ∧
      state.destroyed.Nodup ∧
      (∀ action next,
        state.step action = some next →
          ∀ index target h,
            .operation index (.setHandle target h) ∈ next.events →
              .operation index (.setHandle target h) ∈ state.events ∨
                (next.sockets target).handle = h.value) ∧
      ∀ next,
        state.step (.run .loopTest) = some next →
          next.thread = .outside →
            (∀ index, index < next.operations →
              callbacks (next.history index) = 1) ∧
              next.destroyed.Perm (List.range next.overlappeds) := by
  have accounts := reachable_accounts reachable
  refine ⟨accounts.jobs.orderly, accounts.objects.destroyed_nodup, ?_, ?_⟩
  · intro action next stepped index target h event
    exact (step_transition stepped).stores event
  · intro next stepped outside
    have last := (step_transition stepped).accounts accounts
    have idle := (overlappedCount_counts reachable).2.2 next stepped outside
    constructor
    · intro index below
      apply Settled.callbacks
      have nothing : next.underway = [] := by
        have awaiting := (List.append_eq_nil_iff.mp idle.1).2
        rw [State.underway, awaiting]
        rfl
      have jobs := last.jobs
      rw [Jobs, nothing] at jobs
      exact jobs.all_settled below
    · have objects := last.objects
      rw [Objects, idle.1] at objects
      exact objects.destroyed_perm

end Runs

/-- An `accept` that succeeds and a `read` whose call is rejected. -/
def acceptAndRead : List (Action Int Bool) :=
  [.start true (.accept false (some ⟨2, 1, 6⟩) (some ⟨260, by decide⟩)),
    .start false .read, .advance 0 false, .advance 0 true,
    .complete 0 true 0, .run .enter, .run .loopTest, .run .readClock,
    .run .sweep, .run .countTest, .run (.dequeue 0 true),
    .run .returnFromDispatch]

theorem operations_report_once_acceptAndRead :
    ∃ state next,
      (system 0 fun _ => { executor := true }).run acceptAndRead =
          some state ∧
        state.step (.run .loopTest) = some next ∧
        (next.sockets false).handle = 260 ∧
        (∀ index, index < 2 → callbacks (next.history index) = 1) ∧
        next.destroyed.Perm (List.range 2) := by
  have reached :
      (system 0 fun _ => { executor := true }).run acceptAndRead = some _ :=
    rfl
  refine ⟨_, _, reached, rfl, rfl, ?_⟩
  exact (operations_report_once ⟨acceptAndRead, reached⟩).2.2.2 _ rfl rfl

end Netycat.Executor
