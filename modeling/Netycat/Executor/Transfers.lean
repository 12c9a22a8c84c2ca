import Netycat.Executor.Executing
import Netycat.Impl.Progress

/-!
# A transfer of a whole buffer on the executor

The callback forms of `readAll` and `writeAll` start one operation after the
other, each in the callback of the one before.  Between two of them the other
parties go on in any way, and so do other transfers, which are operations of the
executor like these.  One call is followed here through the runs of the executor
with all parties: its own callback is called as the chain over the completions
says, and once when `run` returns.
-/

namespace Netycat.Executor

open Netycat.Corecat Netycat.Impl

/-- Which of the two a call is. -/
inductive Direction where
  | read
  | write
deriving DecidableEq, Repr

namespace Direction

/-- The callback form of which the operations are. -/
def operation {Target : Type*} : Direction → Operation Target
  | .read => .read
  | .write => .write

/-- The message of an operation that is rejected. -/
def rejection : Direction → String
  | .read => "::WSARecv failed"
  | .write => "::WSASend failed"

theorem start_operation {Target : Type*} (direction : Direction)
    (self : Socket) :
    (direction.operation : Operation Target).start self =
      (self, .ok (.transfer direction.rejection)) := by
  cases direction with
  | read => rfl
  | write => rfl

end Direction

/-- A call of the callback form of `readAll` or `writeAll`.  The operation that
it has started last has the number `index` and the length `n`; `reports` is what
its operations have passed to their callbacks, and `told` what it has passed to
its own. -/
structure Transfer (Target : Type*) where
  self : Target
  direction : Direction
  count : UInt64
  n : UInt64
  index : Nat
  reports : List (ExceptionPtr × UInt64)
  told : List (UInt64 × ExceptionPtr)
deriving DecidableEq, Repr

namespace Transfer

variable {Time Target : Type*} [LinearOrder Time] [DecidableEq Target]

/-- `readAllImpl` and `writeAllImpl`, up to the overlapped call. -/
def impl (transfer : Transfer Target) (state : State Time Target)
    (n : UInt64) : State Time Target × Transfer Target :=
  (state.start transfer.self transfer.direction.operation,
    { transfer with n := n, index := state.operations })

/-- The callback that they give to `read` and `write`. -/
def callback (transfer : Transfer Target) (state : State Time Target)
    (e : ExceptionPtr) (c : UInt64) :
    State Time Target × Transfer Target :=
  let transfer := { transfer with reports := transfer.reports ++ [(e, c)] }
  if e.isSome ∨ transfer.n = c then
    (state, { transfer with told := transfer.told ++ [(transfer.count, e)] })
  else transfer.impl state (transfer.n - c)

/-- What a step of the executor makes of the call: the callback is called when
the operation reports in that step. -/
def follow (transfer : Transfer Target) (before state : State Time Target) :
    State Time Target × Transfer Target :=
  match (state.history transfer.index).drop
      (before.history transfer.index).length with
  | [.callback e (some byteCount)] =>
      transfer.callback state e (UInt32.ofNat byteCount).toUInt64
  | _ => (state, transfer)

end Transfer

/-- The executor with the call that is followed, if it has been made. -/
structure Transferring (Time Target : Type*) [LinearOrder Time] where
  executor : State Time Target
  transfer : Option (Transfer Target)

/-- A step of any party, or the call. -/
inductive TransferAction (Time Target : Type*) where
  | act (action : Action Time Target)
  | call (self : Target) (direction : Direction) (count : UInt64)

section System

variable {Time Target : Type*}
variable [Ring Time] [LinearOrder Time] [FloorRing Time] [DecidableEq Target]

def Transferring.step (state : Transferring Time Target) :
    TransferAction Time Target → Option (Transferring Time Target)
  | .act action =>
      (state.executor.step action).map fun executor =>
        match state.transfer with
        | none => ⟨executor, none⟩
        | some transfer =>
            let (executor, transfer) :=
              transfer.follow state.executor executor
            ⟨executor, some transfer⟩
  | .call self direction count =>
      match state.transfer with
      | none =>
          let (executor, transfer) :=
            Transfer.impl ⟨self, direction, count, count, 0, [], []⟩
              state.executor count
          some ⟨executor, some transfer⟩
      | some _ => none

/-- The executor with every party around it, one of which makes the call. -/
def transferring (clock : Time) (sockets : Target → Socket) :
    TransitionSystem (Transferring Time Target)
      (TransferAction Time Target) where
  init := ⟨.initial clock sockets, none⟩
  step := Transferring.step

end System

/-! ## How an operation ends -/

/-- With what the callback of an operation is called. -/
inductive Ends (message : String) : ExceptionPtr → Nat → Prop where
  | rejected : Ends message (some (IOException message)) 0
  | completed (success : Bool) (byteCount : Nat) :
      Ends message (completionError success) byteCount

section Fates

variable {Time Target : Type*} [LinearOrder Time]

/-- What a step does to one operation. -/
inductive Fate (state next : State Time Target) (index : Nat) : Prop where
  | same (history : next.history index = state.history index)
      (underway : ∀ closure,
        (index, closure) ∈ state.underway → (index, closure) ∈ next.underway)
  | reports (closure : Closure Target) (e : ExceptionPtr) (byteCount : Nat)
      (underway : (index, closure) ∈ state.underway)
      (ends : Ends closure.rejection e byteCount)
      (history :
        next.history index =
          state.history index ++
            (closure.release ++ closure.report e byteCount))

theorem underway_of_subset {state next : State Time Target}
    (awaiting : ∀ overlapped ∈ state.awaiting, overlapped ∈ next.awaiting)
    {index : Nat} {closure : Closure Target}
    (underway : (index, closure) ∈ state.underway) :
    (index, closure) ∈ next.underway := by
  rcases List.mem_filterMap.mp underway with ⟨overlapped, awaits, isJob⟩
  exact List.mem_filterMap.mpr ⟨overlapped, awaiting overlapped awaits, isJob⟩

/-- A step that says nothing of the operation. -/
theorem Fate.silent {state next : State Time Target} {index : Nat}
    {events : List (Event Time Target)}
    (awaiting : ∀ overlapped ∈ state.awaiting, overlapped ∈ next.awaiting)
    (emitted : next.events = state.events ++ events)
    (silent : events.filterMap (Event.ofOperation index) = []) :
    Fate state next index :=
  .same (by rw [history_of_events emitted, silent, List.append_nil])
    fun _ => underway_of_subset awaiting

/-- A step without events. -/
theorem Fate.still {state next : State Time Target} {index : Nat}
    (awaiting : ∀ overlapped ∈ state.awaiting, overlapped ∈ next.awaiting)
    (emitted : next.events = state.events) : Fate state next index :=
  .silent awaiting (emitted.trans (List.append_nil _).symm) rfl

/-- A step in which some operation ends. -/
theorem Fate.ends {state next : State Time Target} {index id other : Nat}
    {closure : Closure Target} {e : ExceptionPtr} {byteCount : Nat}
    {events : List (Event Time Target)}
    (ends : Ends closure.rejection e byteCount)
    (taken :
      state.awaiting.Perm (⟨id, .operation other closure⟩ :: next.awaiting))
    (emitted : next.events = state.events ++ events)
    (own :
      events.filterMap (Event.ofOperation other) =
        closure.release ++ closure.report e byteCount)
    (others : ∀ index, index ≠ other →
      events.filterMap (Event.ofOperation index) = []) :
    Fate state next index := by
  have underway := underway_of_awaiting taken
  by_cases isOther : index = other
  · cases isOther
    refine .reports closure e byteCount ?_ ends ?_
    · exact underway.mem_iff.mpr List.mem_cons_self
    · rw [history_of_events emitted, own]
  · refine .same ?_ ?_
    · rw [history_of_events emitted, others index isOther, List.append_nil]
    · intro kept isUnderway
      rcases List.mem_cons.mp (underway.mem_iff.mp isUnderway) with
        isTaken | remains
      · cases isTaken
        exact absurd rfl isOther
      · exact remains

/-- The step of a party, whatever its outcome. -/
theorem fate_advance {state : State Time Target} {task : Task Target}
    {others : List (Task Target)} (succeeds : Bool)
    (taken : state.tasks.Perm (task :: others)) (index : Nat) :
    Fate state (state.advance others succeeds task) index := by
  have awaiting := awaiting_of_tasks taken
  cases task with
  | lookingUp =>
      refine .silent ?_ rfl rfl
      intro overlapped awaits
      exact List.mem_cons_of_mem _ (awaiting.mem_iff.mp awaits)
  | posting id worker =>
      cases succeeds with
      | true =>
          exact .still (fun _ => (awaiting_posted taken).mem_iff.mpr) rfl
      | false =>
          have underway := underway_of_awaiting awaiting
          refine .same ?_ fun _ => underway.mem_iff.mp
          rw [@history_of_events _ _ _ state _ [.destroyed id] rfl]
          exact List.append_nil _
  | endingWork => exact .still (fun _ => awaiting.mem_iff.mp) rfl
  | submitting id operation closure =>
      cases succeeds with
      | true =>
          exact .still (fun _ => (awaiting_submitted taken).mem_iff.mpr) rfl
      | false =>
          refine .ends .rejected awaiting
            (state.reject_events id operation closure) ?_ ?_
          · rw [List.filterMap_append, List.filterMap_cons,
              Event.ofOperation_destroyed, Event.filterMap_ofOperation_self,
              Event.filterMap_ofOperation_self]
          · intro other different
            rw [List.filterMap_append, List.filterMap_cons,
              Event.ofOperation_destroyed,
              Event.filterMap_ofOperation_other different,
              Event.filterMap_ofOperation_other different]
            rfl

variable [Ring Time] [FloorRing Time] [DecidableEq Target]

/-- Every step leaves an operation as it is or ends it. -/
theorem Transition.fate {state next : State Time Target}
    {action : Action Time Target} (transition : Transition state action next)
    {index : Nat} (below : index < state.operations) :
    Fate state next index := by
  cases transition with
  | tick _ _ | beginWork | endWork _ | resolve | useSocket _ _ | wait _ _ =>
      exact .still (fun _ => id) rfl
  | execute =>
      exact .silent (fun _ => List.mem_cons_of_mem _) rfl rfl
  | startEnds self operation socket e started =>
      exact
        .silent (fun _ => id) rfl
          (Event.filterMap_ofOperation_other below.ne
            [.callback (some e) none])
  | startSubmits self operation socket closure started =>
      refine .silent (fun _ => List.mem_cons_of_mem _)
        (List.append_assoc _ _ _) ?_
      rw [List.filterMap_append, Event.filterMap_ofOperation_other below.ne]
      rfl
  | advance position succeeds task others taken =>
      exact fate_advance succeeds (Pool.take?_perm taken) index
  | complete position success byteCount overlapped others taken =>
      have awaiting := awaiting_of_pending (Pool.take?_perm taken)
      exact
        .still
          (fun _ => (List.perm_middle.trans awaiting.symm).mem_iff.mpr) rfl
  | enter at_ | goesOn at_ _ | returns at_ _ | readClock at_
  | swept _ at_ _ | waits _ at_ _ | sleeps _ at_ _ _ | skips _ at_ _ _
  | timesOut _ at_ _ | wakes _ at_ =>
      exact .still (fun _ => id) rfl
  | fires _ _ at_ _ _ | pops _ _ _ at_ _ =>
      exact .silent (fun _ => id) rfl rfl
  | dispatches position attached time packet others sockets at_ taken _ =>
      have awaiting := awaiting_of_port (Pool.take?_perm taken)
      rcases packet with ⟨⟨id, work⟩, success, byteCount⟩
      cases work with
      | execute =>
          have underway := underway_of_awaiting awaiting
          refine .same ?_ fun _ => underway.mem_iff.mp
          rw [@history_of_events _ _ _ state _ [.executed id] rfl]
          exact List.append_nil _
      | operation operation closure =>
          refine .ends (.completed success byteCount) awaiting rfl ?_ ?_
          · exact Event.filterMap_ofOperation_self _ _
          · intro other different
            exact Event.filterMap_ofOperation_other different _
  | returnsFromDispatch overlapped at_ =>
      exact .silent (fun _ => id) rfl rfl

end Fates

/-! ## What the completions leave -/

/-- With what the callback of the operation is called. -/
def report (message : String) : OverlappedReply → ExceptionPtr × UInt64
  | .rejected => (some (IOException message), 0)
  | .completed success byteCount =>
      (completionError success, byteCount.toUInt64)

/-- Every end of an operation is that of a completion, or a rejection. -/
theorem Ends.reply {message : String} {e : ExceptionPtr} {byteCount : Nat}
    (ends : Ends message e byteCount) :
    ∃ reply,
      report message reply = (e, (UInt32.ofNat byteCount).toUInt64) := by
  cases ends with
  | rejected => exact ⟨.rejected, rfl⟩
  | completed success byteCount =>
      exact ⟨.completed success (UInt32.ofNat byteCount), rfl⟩

/-- Without an error the callback is told what has been transferred. -/
theorem outcome_of_report {message : String} {reply : OverlappedReply}
    {c : UInt64} (reported : report message reply = (none, c)) :
    reply.outcome = some c := by
  cases reply with
  | rejected => cases reported
  | completed success byteCount =>
      cases success with
      | false => cases reported
      | true => exact congrArg some (Prod.mk.inj reported).2

/-- The error that an operation reports does not depend on the channel. -/
theorem operation_report {World : Type*} {channel : Channel World}
    {message : String} (isMessage : channel.operationFailed = message)
    (pointer : Nat) (world : World) (reply : OverlappedReply) :
    report message reply =
      ((channel.operation pointer world reply).e,
        (channel.operation pointer world reply).value) := by
  cases reply with
  | rejected => rw [← isMessage]; rfl
  | completed success byteCount =>
      cases success with
      | false => rfl
      | true => rfl

/-- After these completions a chain for `n` bytes has an operation underway,
which has the length `left`. -/
inductive Leaves : UInt64 → List OverlappedReply → UInt64 → Prop where
  | all (n : UInt64) : Leaves n [] n
  | fewer {n moved left : UInt64} {reply : OverlappedReply}
      {completions : List OverlappedReply}
      (succeeded : reply.outcome = some moved) (more : n ≠ moved)
      (rest : Leaves (n - moved) completions left) :
      Leaves n (reply :: completions) left

theorem Leaves.concat {n left moved : UInt64} {reply : OverlappedReply}
    {completions : List OverlappedReply} (leaves : Leaves n completions left)
    (succeeded : reply.outcome = some moved) (more : left ≠ moved) :
    Leaves n (completions ++ [reply]) (left - moved) := by
  induction leaves with
  | all n => exact .fewer succeeded more (.all _)
  | fewer succeeded' more' rest induction =>
      exact .fewer succeeded' more' (induction more)

/-- What follows these completions is a chain for what is left. -/
theorem Leaves.chain {World : Type*} {n left : UInt64}
    {completions : List OverlappedReply} (leaves : Leaves n completions left)
    (channel : Channel World) (count : UInt64) (buffer : Nat) (world : World)
    (further : List OverlappedReply) :
    ∃ buffer' world',
      (channel.chain count buffer n world (completions ++ further)).finished =
          (channel.chain count buffer' left world' further).finished ∧
        (channel.chain count buffer n world (completions ++ further)).used =
          completions.length +
            (channel.chain count buffer' left world' further).used := by
  induction leaves generalizing buffer world with
  | all n => exact ⟨buffer, world, rfl, (Nat.zero_add _).symm⟩
  | fewer succeeded more rest induction =>
      rcases induction _ _ with ⟨buffer', world', finished, used⟩
      refine ⟨buffer', world', ?_, ?_⟩
      · rw [List.cons_append, channel.chain_operation succeeded more,
          finished]
      · rw [List.cons_append, Channel.chain,
          channel.operation_of_some succeeded, if_neg (by simp [more]),
          Attempt.afterCall]
        show _ + 1 = _
        rw [used, List.length_cons]
        omega

/-! ## Where the call stands -/

section Runs

variable {Time Target : Type*} [LinearOrder Time] [DecidableEq Target]

/-- What has become of the call after these completions. -/
inductive Stands (executor : State Time Target)
    (transfer : Transfer Target) : List OverlappedReply → Prop where
  | underway {completions : List OverlappedReply}
      (untold : transfer.told = [])
      (underway :
        (transfer.index, .transfer transfer.direction.rejection) ∈
          executor.underway)
      (leaves : Leaves transfer.count completions transfer.n) :
      Stands executor transfer completions
  | ended {earlier : List OverlappedReply} {last : OverlappedReply}
      {left : UInt64} {e : ExceptionPtr} {c : UInt64}
      (settled : ∃ e byteCount,
        executor.history transfer.index = [.callback e byteCount])
      (leaves : Leaves transfer.count earlier left)
      (reported : report transfer.direction.rejection last = (e, c))
      (ends : e.isSome ∨ left = c)
      (told : transfer.told = [(transfer.count, e)]) :
      Stands executor transfer (earlier ++ [last])

/-- Its operations have reported what some completions are. -/
def Transferring.Sound (state : Transferring Time Target) : Prop :=
  ∀ transfer, state.transfer = some transfer →
    ∃ completions,
      completions.map (report transfer.direction.rejection) =
          transfer.reports ∧
        Stands state.executor transfer completions

/-- The operation that is started is underway. -/
theorem impl_underway (transfer : Transfer Target)
    (state : State Time Target) (n : UInt64) :
    ((transfer.impl state n).2.index,
        .transfer transfer.direction.rejection) ∈
      (transfer.impl state n).1.underway := by
  simp only [Transfer.impl, State.start, Direction.start_operation]
  exact List.mem_cons_self

theorem follow_of_same {transfer : Transfer Target}
    {before state : State Time Target}
    (same :
      state.history transfer.index = before.history transfer.index) :
    transfer.follow before state = (state, transfer) := by
  rw [Transfer.follow, same, List.drop_length]

theorem follow_of_callback {transfer : Transfer Target}
    {before state : State Time Target} {e : ExceptionPtr} {byteCount : Nat}
    (empty : before.history transfer.index = [])
    (reported :
      state.history transfer.index = [.callback e (some byteCount)]) :
    transfer.follow before state =
      transfer.callback state e (UInt32.ofNat byteCount).toUInt64 := by
  rw [Transfer.follow, empty, reported]
  rfl

/-- Only an operation of the call is started. -/
theorem follow_executor (transfer : Transfer Target)
    (before state : State Time Target) :
    (transfer.follow before state).1 = state ∨
      (transfer.follow before state).1 =
        state.start transfer.self transfer.direction.operation := by
  rw [Transfer.follow]
  split
  · rw [Transfer.callback]
    split
    · exact .inl rfl
    · exact .inr rfl
  · exact .inl rfl

/-- The callback of an operation leaves the call where it should. -/
theorem callback_stands {transfer : Transfer Target}
    {state : State Time Target} {completions : List OverlappedReply}
    {e : ExceptionPtr} {byteCount : Nat}
    (untold : transfer.told = [])
    (reports :
      completions.map (report transfer.direction.rejection) =
        transfer.reports)
    (leaves : Leaves transfer.count completions transfer.n)
    (ends : Ends transfer.direction.rejection e byteCount)
    (settled :
      state.history transfer.index = [.callback e (some byteCount)]) :
    Transferring.Sound
      ⟨(transfer.callback state e (UInt32.ofNat byteCount).toUInt64).1,
        some
          (transfer.callback state e
            (UInt32.ofNat byteCount).toUInt64).2⟩ := by
  rintro next isNext
  cases isNext
  rcases ends.reply with ⟨reply, reported⟩
  refine ⟨completions ++ [reply], ?_⟩
  rw [Transfer.callback]
  by_cases last :
      e.isSome ∨ transfer.n = (UInt32.ofNat byteCount).toUInt64
  · rw [if_pos last]
    refine ⟨?_, .ended ⟨_, _, settled⟩ leaves reported last ?_⟩
    · rw [List.map_append, reports]
      exact congrArg _ (congrArg (fun pair => [pair]) reported)
    · simp [untold]
  · rw [if_neg last]
    rw [not_or, Bool.not_eq_true, Option.isSome_eq_false_iff,
      Option.isNone_iff_eq_none] at last
    rcases last with ⟨rfl, more⟩
    refine ⟨?_, .underway untold ?_ ?_⟩
    · rw [List.map_append]
      show completions.map (report transfer.direction.rejection) ++ _ = _
      rw [reports]
      exact congrArg _ (congrArg (fun pair => [pair]) reported)
    · exact impl_underway _ state _
    · exact leaves.concat (outcome_of_report reported) more

variable [Ring Time] [FloorRing Time]

/-- A step of the executor leaves the call where it should. -/
theorem follow_sound {state next : State Time Target}
    {action : Action Time Target} {transfer : Transfer Target}
    (accounts : Accounts state) (stepped : state.step action = some next)
    (sound : Transferring.Sound ⟨state, some transfer⟩) :
    Transferring.Sound
      ⟨(transfer.follow state next).1,
        some (transfer.follow state next).2⟩ := by
  rcases sound transfer rfl with ⟨completions, reports, stands⟩
  cases stands with
  | underway untold underway leaves =>
      have opened := accounts.jobs.underway _ _ underway
      cases (step_transition stepped).fate opened.1 with
      | same history kept =>
          rw [follow_of_same history]
          rintro same isSame
          cases isSame
          exact
            ⟨completions, reports,
              .underway untold (kept _ underway) leaves⟩
      | reports closure e byteCount other ends history =>
          cases List.inj_on_of_nodup_map accounts.jobs.distinct other underway
            rfl
          have empty : state.history transfer.index = [] := opened.2
          rw [empty] at history
          rw [follow_of_callback empty history]
          exact callback_stands untold reports leaves ends history
  | ended settled leaves reported ends told =>
      rcases settled with ⟨e', byteCount, history⟩
      have below : transfer.index < state.operations := by
        apply Nat.lt_of_not_le
        intro above
        rw [accounts.jobs.unborn _ above] at history
        cases history
      cases (step_transition stepped).fate below with
      | same history' kept =>
          rw [follow_of_same history']
          rintro same isSame
          cases isSame
          refine ⟨_, reports, .ended ?_ leaves reported ends told⟩
          exact ⟨e', byteCount, history'.trans history⟩
      | reports closure e byteCount underway ends history' =>
          have begun := (accounts.jobs.underway _ _ underway).2
          rw [history] at begun
          cases closure with
          | connect => cases begun
          | accept h target => cases begun
          | transfer message => cases begun

/-! ## Whole runs -/

/-- The steps before the call, those after it, and the call. -/
inductive Transferring.Steps (state : Transferring Time Target) :
    Transferring Time Target → Prop where
  | before {action : Action Time Target} {executor : State Time Target}
      (uncalled : state.transfer = none)
      (stepped : state.executor.step action = some executor) :
      Steps state ⟨executor, none⟩
  | follows {action : Action Time Target} {executor : State Time Target}
      {transfer : Transfer Target} (called : state.transfer = some transfer)
      (stepped : state.executor.step action = some executor) :
      Steps state
        ⟨(transfer.follow state.executor executor).1,
          some (transfer.follow state.executor executor).2⟩
  | calls (self : Target) (direction : Direction) (count : UInt64) :
      Steps state
        ⟨state.executor.start self direction.operation,
          some
            ⟨self, direction, count, count, state.executor.operations, [],
              []⟩⟩

theorem Transferring.step_steps {state next : Transferring Time Target}
    {action : TransferAction Time Target}
    (stepped : state.step action = some next) : state.Steps next := by
  cases action with
  | act action =>
      obtain ⟨executor, taken, rfl⟩ := Option.map_eq_some_iff.mp stepped
      cases called : state.transfer with
      | none => exact .before called taken
      | some transfer => exact .follows called taken
  | call self direction count =>
      cases called : state.transfer with
      | none =>
          simp only [Transferring.step, called, Option.some.injEq] at stepped
          cases stepped
          exact .calls self direction count
      | some transfer => simp [Transferring.step, called] at stepped

/-- What the executor does is a run of the executor. -/
theorem reachable_executor {clock : Time} {sockets : Target → Socket}
    {state : Transferring Time Target}
    (reachable : (transferring clock sockets).Reachable state) :
    (system clock sockets).Reachable state.executor := by
  apply TransitionSystem.Reachable.induction _ _ _ reachable
  · exact TransitionSystem.Reachable.init _
  · intro state action next _ reached stepped
    have goesOn (state : State Time Target) action next :=
      @TransitionSystem.Reachable.step _ _ (system clock sockets) state next
        action
    cases Transferring.step_steps stepped with
    | before uncalled taken => exact goesOn _ _ _ reached taken
    | @follows action executor transfer called taken =>
        have taken := goesOn _ _ _ reached taken
        show (system clock sockets).Reachable
          (transfer.follow state.executor executor).1
        rcases follow_executor transfer state.executor executor with
          still | started
        · rw [still]
          exact taken
        · rw [started]
          exact
            goesOn _ (.start transfer.self transfer.direction.operation) _
              taken rfl
    | calls self direction count =>
        exact goesOn _ (.start self direction.operation) _ reached rfl

theorem reachable_sound {clock : Time} {sockets : Target → Socket}
    {state : Transferring Time Target}
    (reachable : (transferring clock sockets).Reachable state) :
    state.Sound := by
  apply TransitionSystem.Reachable.induction _ _ _ reachable
  · rintro transfer isTransfer
    cases isTransfer
  · intro state action next reached sound stepped
    cases Transferring.step_steps stepped with
    | before uncalled taken =>
        rintro transfer isTransfer
        cases isTransfer
    | follows called taken =>
        refine follow_sound (reachable_accounts (reachable_executor reached))
          taken ?_
        rw [← called]
        exact sound
    | calls self direction count =>
        rintro transfer isTransfer
        cases isTransfer
        exact
          ⟨[], rfl, .underway rfl
            (impl_underway ⟨self, direction, count, count, 0, [], []⟩ _ _)
            (.all count)⟩

/-- While the chain goes on nobody is told, and its end is what is told. -/
structure Tells {World : Type*} (channel : Channel World)
    (transfer : Transfer Target) (completions : List OverlappedReply)
    (attempt : Attempt World) (buffer : Nat) (world : World) : Prop where
  told : transfer.told = attempt.finished.toList
  used : attempt.used = completions.length
  moved : CompletionsAdmissible transfer.count completions →
    ∀ value, transfer.told = [(value, none)] →
      value = transfer.count ∧
        attempt.world = channel.effect buffer transfer.count.toNat world

omit [Ring Time] [FloorRing Time] [DecidableEq Target] in
theorem Stands.tells {World : Type*} {channel : Channel World}
    (composes : channel.Composes)
    {executor : State Time Target} {transfer : Transfer Target}
    {completions : List OverlappedReply}
    (isMessage : channel.operationFailed = transfer.direction.rejection)
    (stands : Stands executor transfer completions)
    (buffer : Nat) (world : World) :
    Tells channel transfer completions
      (channel.chain transfer.count buffer transfer.count world completions)
      buffer world := by
  have chained :
      transfer.told =
          (channel.chain transfer.count buffer transfer.count world
            completions).finished.toList ∧
        (channel.chain transfer.count buffer transfer.count world
          completions).used = completions.length := by
    cases stands with
    | underway untold underway leaves =>
        rcases leaves.chain channel transfer.count buffer world [] with
          ⟨buffer', world', finished, used⟩
        rw [List.append_nil] at finished used
        rw [finished, used]
        exact ⟨untold, rfl⟩
    | @ended _ last _ _ _ settled leaves reported ends told =>
        rcases leaves.chain channel transfer.count buffer world [last] with
          ⟨buffer', world', finished, used⟩
        have same := operation_report isMessage buffer' world' last
        rw [reported] at same
        rw [finished, used, told, Channel.chain]
        rw [← (Prod.mk.inj same).1, ← (Prod.mk.inj same).2, if_pos ends,
          List.length_append]
        exact ⟨rfl, rfl⟩
  refine ⟨chained.1, chained.2, ?_⟩
  intro admissible value told
  apply (channel.chain_moved composes _ _ _ _ completions admissible).wholly
  rw [told] at chained
  cases finished : (channel.chain transfer.count buffer transfer.count world
      completions).finished with
  | none =>
      rw [finished] at chained
      cases chained.1
  | some pair =>
      rw [finished] at chained
      cases chained.1
      rfl

/--
A call of the callback form of `readAll` or `writeAll` that is made in any run
of the executor, among operations, timers, workers and transfers of all kinds:
what its operations have reported are completions or rejections, and its
callback has been called exactly as the chain over these says.  So it is never
called twice, an error is passed on, without an error all bytes have been moved,
and when `run` returns it has been called.
-/
theorem transfer_tells
    {clock : Time}
    {sockets : Target → Socket}
    {state : Transferring Time Target}
    {transfer : Transfer Target}
    (reachable : (transferring clock sockets).Reachable state)
    (called : state.transfer = some transfer) :
    ∃ completions,
      completions.map (report transfer.direction.rejection) =
          transfer.reports ∧
        (transfer.direction = .read →
          ∀ stream buffer inbound,
            Tells (reading stream) transfer completions
              (Socket.readAllCallback stream buffer transfer.count inbound
                completions)
              buffer inbound) ∧
        (transfer.direction = .write →
          ∀ memory buffer handed,
            Tells (writing memory) transfer completions
              (Socket.writeAllCallback memory buffer transfer.count handed
                completions)
              buffer handed) ∧
        ∀ next,
          state.executor.step (.run .loopTest) = some next →
            next.thread = .outside → transfer.told.length = 1 := by
  rcases reachable_sound reachable transfer called with
    ⟨completions, reports, stands⟩
  refine ⟨completions, reports, ?_, ?_, ?_⟩
  · intro reads stream buffer inbound
    refine stands.tells (reading_composes stream) ?_ buffer inbound
    rw [reads]
    rfl
  · intro writes memory buffer handed
    refine stands.tells (writing_composes memory) ?_ buffer handed
    rw [writes]
    rfl
  · intro next stepped outside
    cases stands with
    | underway untold underway leaves =>
        have idle :=
          live_of_returns (reachable_executor reachable) stepped outside
        cases step_transition stepped with
        | goesOn at_ hasWork => cases outside
        | returns at_ hasNoWork =>
            have nothing : state.executor.awaiting = [] :=
              (List.append_eq_nil_iff.mp idle).2
            rw [State.underway, nothing] at underway
            cases underway
    | ended settled leaves reported ends told =>
        rw [told]
        rfl

end Runs

/-- Five bytes are read in two operations, of which the second is started in the
callback of the first. -/
def readInTwo : List (TransferAction Int Bool) :=
  let pass : List (TransferAction Int Bool) :=
    [.act (.run .loopTest), .act (.run .readClock), .act (.run .sweep),
      .act (.run .countTest), .act (.run (.dequeue 0 true)),
      .act (.run .returnFromDispatch)]
  [.call true .read 5, .act (.advance 0 true), .act (.complete 0 true 3),
      .act (.run .enter)] ++
    (pass ++ [.act (.advance 0 true), .act (.complete 0 true 2)] ++ pass)

theorem transfer_tells_readInTwo :
    ∃ state transfer next,
      (transferring 0 fun _ => { executor := true }).run readInTwo =
          some state ∧
        state.transfer = some transfer ∧
        transfer.told = [(5, none)] ∧
        state.executor.step (.run .loopTest) = some next ∧
        next.thread = .outside ∧
        transfer.told.length = 1 := by
  have seen :
      ((transferring 0 fun _ => { executor := true }).run readInTwo).map
          (fun state : Transferring Int Bool =>
            (state.transfer.map Transfer.told,
              (state.executor.step (.run .loopTest)).map State.thread)) =
        some (some [(5, none)], some .outside) := by
    decide +kernel
  rcases Option.map_eq_some_iff.mp seen with ⟨state, reached, facts⟩
  rw [Prod.mk.injEq, Option.map_eq_some_iff, Option.map_eq_some_iff] at facts
  rcases facts with ⟨⟨transfer, called, told⟩, next, returned, outside⟩
  rcases transfer_tells ⟨readInTwo, reached⟩ called with
    ⟨completions, reports, read, write, once⟩
  exact
    ⟨state, transfer, next, reached, called, told, returned, outside,
      once next returned outside⟩

end Netycat.Executor
