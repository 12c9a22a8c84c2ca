import Netycat.Executor.Operations

/-!
# What is posted is called once

A function given to `execute`, by the user or by a worker of the resolver, waits
in an `Overlapped` for `::PostQueuedCompletionStatus` and then for the thread of
`run`.  The life of an `Overlapped` is what the events say of it: made, called,
destroyed.

`Effect` lists what a step can do to the `Overlapped` objects.  From it follow
what the life of each is while it is awaited and while its callback runs, and
that nothing happens to it afterwards.  So the outcome of the post decides: the
function is called exactly once, or never.
-/

namespace Netycat.Executor

open Netycat.Corecat Netycat.Impl

/-- What happens to an `Overlapped`; only `execute` is said to be called. -/
inductive Stage where
  | created
  | called
  | destroyed
deriving DecidableEq, Repr

/-- What the event says of one `Overlapped`. -/
def Event.stage {Time Target : Type*} (id : Nat) :
    Event Time Target → Option Stage
  | .created other => if other = id then some .created else none
  | .executed other => if other = id then some .called else none
  | .destroyed other => if other = id then some .destroyed else none
  | _ => none

@[simp]
theorem Event.filterMap_stage_operation {Time Target : Type*}
    (id index : Nat) (events : List (OperationEvent Target)) :
    (events.map (@Event.operation Time Target index)).filterMap
        (Event.stage id) = [] := by
  simp [List.filterMap_eq_nil_iff, stage]

/-- What is said of an `Overlapped` when its callback is called. -/
def Work.called {Target : Type*} : Work Target → List Stage
  | .execute => [.called]
  | .operation _ _ => []

section Stages

variable {Time Target : Type*}

theorem Event.stages_created (own id : Nat) :
    [(.created own : Event Time Target)].filterMap
        (Event.stage id) =
      if own = id then [.created] else [] := by
  by_cases same : own = id
  · simp [Event.stage, same]
  · simp [Event.stage, same]

theorem Event.stages_destroyed (own id : Nat) :
    [(.destroyed own : Event Time Target)].filterMap
        (Event.stage id) =
      if own = id then [.destroyed] else [] := by
  by_cases same : own = id
  · simp [Event.stage, same]
  · simp [Event.stage, same]

/-- Only the call of an `execute` is said of its `Overlapped`. -/
theorem Overlapped.stages_outcome
    (overlapped : Overlapped Target) (e : ExceptionPtr)
    (byteCount id : Nat) :
    (overlapped.outcome e byteCount : List (Event Time Target)).filterMap
        (Event.stage id) =
      if overlapped.id = id then overlapped.work.called else [] := by
  rw [Overlapped.outcome]
  cases overlapped.work with
  | execute =>
      by_cases same : overlapped.id = id
      · simp [Event.stage, Work.called, same]
      · simp [Event.stage, same]
  | operation job closure =>
      rw [Event.filterMap_stage_operation]
      exact (ite_self _).symm

end Stages

namespace State

variable {Time Target : Type*} [LinearOrder Time]

/-- What has happened to an `Overlapped`. -/
def life (state : State Time Target) (id : Nat) : List Stage :=
  state.events.filterMap (Event.stage id)

/-- The `Overlapped` objects that have been handed to the system. -/
def handedOver (state : State Time Target) : List (Overlapped Target) :=
  state.pending ++ state.port.map Packet.overlapped

theorem awaiting_of_handedOver
    {state : State Time Target} {overlapped : Overlapped Target}
    (isQueued : overlapped ∈ state.handedOver) :
    overlapped ∈ state.awaiting := by
  rw [awaiting, List.append_assoc]
  exact List.mem_append_right _ isQueued

end State

section Lives

variable {Time Target : Type*} [LinearOrder Time]

/-- A step adds to one life only. -/
structure Adds (state next : State Time Target) (id : Nat)
    (stages : List Stage) : Prop where
  own : next.life id = state.life id ++ stages
  others : ∀ other, other ≠ id → next.life other = state.life other

/-- What a step does to the `Overlapped` objects. -/
inductive Effect (state next : State Time Target) : Prop where
  | moves
      (overlappeds : next.overlappeds = state.overlappeds)
      (dispatched : next.thread.dispatched = state.thread.dispatched)
      (awaiting : next.awaiting.Perm state.awaiting)
      (queued : ∀ overlapped ∈ state.handedOver, overlapped ∈ next.handedOver)
      (life : ∀ id, next.life id = state.life id)
  | creates (overlapped : Overlapped Target)
      (isNew : overlapped.id = state.overlappeds)
      (overlappeds : next.overlappeds = state.overlappeds + 1)
      (dispatched : next.thread.dispatched = state.thread.dispatched)
      (awaiting : next.awaiting.Perm (overlapped :: state.awaiting))
      (queued : next.handedOver = state.handedOver)
      (adds : Adds state next overlapped.id [.created])
  | drops (overlapped : Overlapped Target)
      (overlappeds : next.overlappeds = state.overlappeds)
      (dispatched : next.thread.dispatched = state.thread.dispatched)
      (awaiting : state.awaiting.Perm (overlapped :: next.awaiting))
      (queued : next.handedOver = state.handedOver)
      (adds : Adds state next overlapped.id [.destroyed])
  | calls (overlapped : Overlapped Target)
      (overlappeds : next.overlappeds = state.overlappeds)
      (idle : state.thread.dispatched = [])
      (dispatched : next.thread.dispatched = [overlapped])
      (awaiting : state.awaiting.Perm (overlapped :: next.awaiting))
      (queued : state.handedOver.Perm (overlapped :: next.handedOver))
      (adds : Adds state next overlapped.id overlapped.work.called)
  | frees (overlapped : Overlapped Target)
      (overlappeds : next.overlappeds = state.overlappeds)
      (running : state.thread.dispatched = [overlapped])
      (dispatched : next.thread.dispatched = [])
      (awaiting : next.awaiting = state.awaiting)
      (queued : next.handedOver = state.handedOver)
      (adds : Adds state next overlapped.id [.destroyed])

/-- The life of every `Overlapped` that is not destroyed yet. -/
structure Lives (state : State Time Target) : Prop where
  awaiting : ∀ overlapped ∈ state.awaiting,
    state.life overlapped.id = [.created]
  dispatched : ∀ overlapped ∈ state.thread.dispatched,
    state.life overlapped.id = .created :: overlapped.work.called
  unborn : ∀ id, state.overlappeds ≤ id → state.life id = []

/-! ## The numbers of live objects -/

/-- No two live objects have one number, and each number has been given. -/
structure Numbered (state : State Time Target) : Prop where
  below : ∀ overlapped ∈ state.live, overlapped.id < state.overlappeds
  distinct : (state.live.map Overlapped.id).Nodup

theorem Objects.numbered
    {state : State Time Target} (objects : Objects state) :
    Numbered state where
  below overlapped isLive := by
    have created : overlapped.id ∈ state.created := by
      refine objects.balanced.mem_iff.mpr (List.mem_append_right _ ?_)
      exact List.mem_map.mpr ⟨overlapped, isLive, rfl⟩
    rw [ObjectAccount.numbered objects] at created
    exact List.mem_range.mp created
  distinct := by
    have distinct :
        (state.destroyed ++ state.live.map Overlapped.id).Nodup := by
      rw [← objects.balanced.nodup_iff, ObjectAccount.numbered objects]
      exact List.nodup_range
    exact List.Nodup.of_append_right distinct

namespace Numbered

variable {state : State Time Target}

theorem of_awaiting (numbered : Numbered state)
    {overlapped : Overlapped Target}
    (awaits : overlapped ∈ state.awaiting) :
    overlapped.id < state.overlappeds :=
  numbered.below overlapped (List.mem_append_right _ awaits)

theorem of_dispatched (numbered : Numbered state)
    {overlapped : Overlapped Target}
    (running : overlapped ∈ state.thread.dispatched) :
    overlapped.id < state.overlappeds :=
  numbered.below overlapped (List.mem_append_left _ running)

/-- What runs and what waits are different. -/
theorem apart (numbered : Numbered state)
    {running waiting : Overlapped Target}
    (runs : running ∈ state.thread.dispatched)
    (waits : waiting ∈ state.awaiting) :
    running.id ≠ waiting.id := by
  have distinct := numbered.distinct
  rw [State.live, List.map_append] at distinct
  exact
    (List.nodup_append.mp distinct).2.2 _ (List.mem_map_of_mem runs) _
      (List.mem_map_of_mem waits)

/-- What is taken from those that wait is different from the rest. -/
theorem apart_of_taken (numbered : Numbered state)
    {overlapped : Overlapped Target} {others : List (Overlapped Target)}
    (taken : state.awaiting.Perm (overlapped :: others)) :
    ∀ other ∈ others, other.id ≠ overlapped.id := by
  intro other among same
  have distinct := numbered.distinct
  rw [State.live, List.map_append] at distinct
  have waiting := (List.nodup_append.mp distinct).2.1
  rw [(taken.map Overlapped.id).nodup_iff, List.map_cons,
    List.nodup_cons] at waiting
  exact waiting.1 (same ▸ List.mem_map_of_mem among)

end Numbered

/-! ## What a step does to a life -/

namespace Lives

variable {state next : State Time Target}

/-- What happens to an object that is there begins no other life. -/
theorem unborn_of_adds (lives : Lives state) {own id : Nat}
    {stages : List Stage} (adds : Adds state next own stages)
    (below : own < state.overlappeds) (above : state.overlappeds ≤ id) :
    next.life id = [] := by
  rw [adds.others _ (Nat.lt_of_lt_of_le below above).ne']
  exact lives.unborn id above

/-- The others that wait live on when one of them is taken. -/
theorem others_of_taken (lives : Lives state) (numbered : Numbered state)
    {overlapped : Overlapped Target} {stages : List Stage}
    {others : List (Overlapped Target)}
    (taken : state.awaiting.Perm (overlapped :: others))
    (adds : Adds state next overlapped.id stages) :
    ∀ other ∈ others, next.life other.id = [.created] := by
  intro other remains
  rw [adds.others _ (numbered.apart_of_taken taken other remains)]
  exact
    lives.awaiting other
      (taken.mem_iff.mpr (List.mem_cons_of_mem _ remains))

theorem effect (lives : Lives state) (numbered : Numbered state)
    (effect : Effect state next) : Lives next := by
  cases effect with
  | moves overlappeds dispatched awaiting queued life =>
      constructor
      · intro overlapped awaits
        rw [life]
        exact lives.awaiting overlapped (awaiting.mem_iff.mp awaits)
      · intro overlapped runs
        rw [life]
        exact lives.dispatched overlapped (dispatched ▸ runs)
      · intro id above
        rw [life]
        exact lives.unborn id (overlappeds ▸ above)
  | creates overlapped isNew overlappeds dispatched awaiting queued adds =>
      constructor
      · intro other awaits
        rcases List.mem_cons.mp (awaiting.mem_iff.mp awaits) with rfl | old
        · rw [adds.own, lives.unborn _ isNew.ge]
          rfl
        · rw [adds.others _ (isNew ▸ (numbered.of_awaiting old).ne)]
          exact lives.awaiting other old
      · intro other runs
        rw [dispatched] at runs
        rw [adds.others _ (isNew ▸ (numbered.of_dispatched runs).ne)]
        exact lives.dispatched other runs
      · intro id above
        rw [overlappeds] at above
        rw [adds.others _ (isNew ▸ (Nat.lt_of_succ_le above).ne')]
        exact lives.unborn id (Nat.le_of_succ_le above)
  | drops overlapped overlappeds dispatched awaiting queued adds =>
      have waits : overlapped ∈ state.awaiting :=
        awaiting.mem_iff.mpr List.mem_cons_self
      constructor
      · exact lives.others_of_taken numbered awaiting adds
      · intro other runs
        rw [dispatched] at runs
        rw [adds.others _ (numbered.apart runs waits)]
        exact lives.dispatched other runs
      · intro id above
        exact lives.unborn_of_adds adds (numbered.of_awaiting waits)
          (overlappeds ▸ above)
  | calls overlapped overlappeds idle dispatched awaiting queued adds =>
      have waits : overlapped ∈ state.awaiting :=
        awaiting.mem_iff.mpr List.mem_cons_self
      constructor
      · exact lives.others_of_taken numbered awaiting adds
      · intro other runs
        rw [dispatched, List.mem_singleton] at runs
        rw [runs, adds.own, lives.awaiting overlapped waits]
        rfl
      · intro id above
        exact lives.unborn_of_adds adds (numbered.of_awaiting waits)
          (overlappeds ▸ above)
  | frees overlapped overlappeds running dispatched awaiting queued adds =>
      have runs : overlapped ∈ state.thread.dispatched := by
        rw [running]
        exact List.mem_cons_self
      constructor
      · intro other waits
        rw [awaiting] at waits
        rw [adds.others _ (numbered.apart runs waits).symm]
        exact lives.awaiting other waits
      · intro other left
        rw [dispatched] at left
        cases left
      · intro id above
        exact lives.unborn_of_adds adds (numbered.of_dispatched runs)
          (overlappeds ▸ above)

/-- A life that has ended goes on no more. -/
theorem ended (lives : Lives state) {id : Nat}
    (effect : Effect state next)
    (gone : .destroyed ∈ state.life id) :
    next.life id = state.life id := by
  have notWaiting : ∀ overlapped ∈ state.awaiting, id ≠ overlapped.id := by
    rintro overlapped waits rfl
    rw [lives.awaiting overlapped waits] at gone
    simp at gone
  have notRunning : ∀ overlapped ∈ state.thread.dispatched,
      id ≠ overlapped.id := by
    rintro overlapped runs rfl
    rw [lives.dispatched overlapped runs] at gone
    cases work : overlapped.work with
    | execute => simp [work, Work.called] at gone
    | operation index closure => simp [work, Work.called] at gone
  cases effect with
  | moves overlappeds dispatched awaiting queued life => exact life id
  | creates overlapped isNew overlappeds dispatched awaiting queued adds =>
      apply adds.others
      rintro rfl
      rw [lives.unborn _ isNew.ge] at gone
      cases gone
  | drops overlapped overlappeds dispatched awaiting queued adds =>
      exact adds.others id
        (notWaiting overlapped (awaiting.mem_iff.mpr List.mem_cons_self))
  | calls overlapped overlappeds idle dispatched awaiting queued adds =>
      exact adds.others id
        (notWaiting overlapped (awaiting.mem_iff.mpr List.mem_cons_self))
  | frees overlapped overlappeds running dispatched awaiting queued adds =>
      apply adds.others
      apply notRunning
      rw [running]
      exact List.mem_cons_self

end Lives

/-- Something has been handed to the system, and has gone on from there. -/
def HandedOver (overlapped : Overlapped Target) (state : State Time Target) :
    Prop :=
  overlapped ∈ state.handedOver ∨ state.thread.dispatched = [overlapped] ∨
    state.life overlapped.id =
      .created :: (overlapped.work.called ++ [.destroyed])

/-- What has been posted cannot be lost. -/
theorem HandedOver.effect {state next : State Time Target}
    {overlapped : Overlapped Target}
    (posted : HandedOver overlapped state) (lives : Lives state)
    (effect : Effect state next) : HandedOver overlapped next := by
  rcases posted with isQueued | runs | ended
  · cases effect with
    | moves overlappeds dispatched awaiting queued life =>
        exact .inl (queued overlapped isQueued)
    | creates other isNew overlappeds dispatched awaiting queued adds =>
        exact .inl (queued ▸ isQueued)
    | drops other overlappeds dispatched awaiting queued adds =>
        exact .inl (queued ▸ isQueued)
    | calls other overlappeds idle dispatched awaiting queued adds =>
        rcases List.mem_cons.mp (queued.mem_iff.mp isQueued) with rfl | remains
        · exact .inr (.inl dispatched)
        · exact .inl remains
    | frees other overlappeds running dispatched awaiting queued adds =>
        exact .inl (queued ▸ isQueued)
  · cases effect with
    | moves overlappeds dispatched awaiting queued life =>
        exact .inr (.inl (dispatched.trans runs))
    | creates other isNew overlappeds dispatched awaiting queued adds =>
        exact .inr (.inl (dispatched.trans runs))
    | drops other overlappeds dispatched awaiting queued adds =>
        exact .inr (.inl (dispatched.trans runs))
    | calls other overlappeds idle dispatched awaiting queued adds =>
        rw [idle] at runs
        cases runs
    | frees other overlappeds running dispatched awaiting queued adds =>
        rw [running] at runs
        cases runs
        have before := lives.dispatched overlapped (by
          rw [running]
          exact List.mem_cons_self)
        refine .inr (.inr ?_)
        rw [adds.own, before]
        rfl
  · refine .inr (.inr ?_)
    rw [lives.ended effect, ended]
    rw [ended]
    simp

/-! ## The effect of each step -/

theorem life_of_events
    {state next : State Time Target} {events : List (Event Time Target)}
    (emitted : next.events = state.events ++ events) (id : Nat) :
    next.life id = state.life id ++ events.filterMap (Event.stage id) :=
  State.filterMap_of_events emitted (Event.stage id)

/-- The events of a step that concern one `Overlapped`. -/
theorem adds_of_events
    {state next : State Time Target} {events : List (Event Time Target)}
    {own : Nat} {stages : List Stage}
    (emitted : next.events = state.events ++ events)
    (tells : ∀ id, events.filterMap (Event.stage id) =
      if own = id then stages else []) :
    Adds state next own stages where
  own := by rw [life_of_events emitted, tells, if_pos rfl]
  others id other := by
    rw [life_of_events emitted, tells, if_neg other.symm, List.append_nil]

/-- A step whose events say nothing of any `Overlapped`. -/
theorem Effect.silent
    {state next : State Time Target} {events : List (Event Time Target)}
    (overlappeds : next.overlappeds = state.overlappeds)
    (dispatched : next.thread.dispatched = state.thread.dispatched)
    (awaiting : next.awaiting.Perm state.awaiting)
    (queued : ∀ overlapped ∈ state.handedOver, overlapped ∈ next.handedOver)
    (emitted : next.events = state.events ++ events)
    (silent : ∀ id, events.filterMap (Event.stage id) = []) :
    Effect state next :=
  .moves overlappeds dispatched awaiting queued fun id => by
    rw [life_of_events emitted, silent, List.append_nil]

/-- A step without events. -/
theorem Effect.still
    {state next : State Time Target}
    (overlappeds : next.overlappeds = state.overlappeds)
    (dispatched : next.thread.dispatched = state.thread.dispatched)
    (awaiting : next.awaiting.Perm state.awaiting)
    (queued : ∀ overlapped ∈ state.handedOver, overlapped ∈ next.handedOver)
    (emitted : next.events = state.events) :
    Effect state next :=
  .silent overlappeds dispatched awaiting queued
    (emitted.trans (List.append_nil _).symm) fun _ => rfl

/-- What has been posted is on the port. -/
theorem awaiting_posted
    {state : State Time Target} {id : Nat} {worker : Bool}
    {others : List (Task Target)}
    (taken : state.tasks.Perm (.posting id worker :: others)) :
    (state.advance others true (.posting id worker)).awaiting.Perm
      state.awaiting := by
  have awaiting := awaiting_of_tasks taken
  cases worker with
  | true => exact List.perm_middle.trans awaiting.symm
  | false => exact List.perm_middle.trans awaiting.symm

/-- What has been submitted is pending. -/
theorem awaiting_submitted
    {state : State Time Target} {id index : Nat} {closure : Closure Target}
    {others : List (Task Target)}
    (taken : state.tasks.Perm (.submitting id index closure :: others)) :
    (state.advance others true (.submitting id index closure)).awaiting.Perm
      state.awaiting := by
  have moved :
      (others.flatMap Task.overlapped ++
            ⟨id, .operation index closure⟩ :: state.pending ++
          state.port.map Packet.overlapped).Perm
        (⟨id, .operation index closure⟩ ::
            (others.flatMap Task.overlapped ++ state.pending) ++
          state.port.map Packet.overlapped) :=
    List.perm_middle.append_right _
  exact moved.trans (awaiting_of_tasks taken).symm

/-- The step of a party, whatever its outcome. -/
theorem effect_advance
    {state : State Time Target} {task : Task Target}
    {others : List (Task Target)} (succeeds : Bool)
    (taken : state.tasks.Perm (task :: others)) :
    Effect state (state.advance others succeeds task) := by
  have awaiting := awaiting_of_tasks taken
  cases task with
  | lookingUp =>
      exact
        .creates ⟨state.overlappeds, .execute⟩ rfl rfl rfl
          (awaiting.symm.cons _) rfl
          (adds_of_events rfl (Event.stages_created _))
  | posting id worker =>
      cases succeeds with
      | true =>
          refine .still rfl rfl (awaiting_posted taken) ?_ rfl
          intro overlapped isQueued
          rcases List.mem_append.mp isQueued with pending | port
          · exact List.mem_append_left _ pending
          · exact List.mem_append_right _ (List.mem_cons_of_mem _ port)
      | false =>
          exact
            .drops ⟨id, .execute⟩ rfl rfl awaiting rfl
              (adds_of_events rfl (Event.stages_destroyed id))
  | endingWork =>
      exact .still rfl rfl awaiting.symm (fun _ => id) rfl
  | submitting id index closure =>
      cases succeeds with
      | true =>
          exact .still rfl rfl (awaiting_submitted taken)
            (fun _ => List.mem_cons_of_mem _) rfl
      | false =>
          refine .drops ⟨id, .operation index closure⟩ rfl rfl awaiting rfl
            (adds_of_events (state.reject_events id index closure) ?_)
          intro other
          have reported := @Event.filterMap_stage_operation Time Target
            other index
            (closure.report (some (IOException closure.rejection)) 0)
          rw [List.filterMap_append, Event.filterMap_stage_operation,
            List.nil_append, ← Event.stages_destroyed, List.filterMap_cons,
            List.filterMap_cons, reported]
          rfl

variable [Ring Time] [FloorRing Time] [DecidableEq Target]

/-- Every step does one of these things. -/
theorem Transition.effect
    {state next : State Time Target} {action : Action Time Target}
    (transition : Transition state action next) :
    Effect state next := by
  cases transition with
  | tick _ _ | beginWork | endWork _ | resolve | useSocket _ _ | wait _ _ =>
      exact .still rfl rfl (.refl _) (fun _ => id) rfl
  | execute =>
      exact
        .creates ⟨state.overlappeds, .execute⟩ rfl rfl rfl (.refl _) rfl
          (adds_of_events rfl (Event.stages_created _))
  | startEnds self operation socket e started =>
      exact .silent rfl rfl (.refl _) (fun _ => id) rfl fun _ => rfl
  | startSubmits self operation socket closure started =>
      refine .creates ⟨state.overlappeds, .operation state.operations closure⟩
        rfl rfl rfl (.refl _) rfl
        (adds_of_events (List.append_assoc _ _ _) ?_)
      intro id
      rw [List.filterMap_append, Event.filterMap_stage_operation,
        List.nil_append]
      exact Event.stages_created _ id
  | advance index succeeds task others taken =>
      exact effect_advance succeeds (Pool.take?_perm taken)
  | complete index success byteCount overlapped others taken =>
      have pool := Pool.take?_perm taken
      have awaiting := awaiting_of_pending pool
      refine .still rfl rfl (List.perm_middle.trans awaiting.symm) ?_ rfl
      intro other isQueued
      rcases List.mem_append.mp isQueued with pending | port
      · rcases List.mem_cons.mp (pool.mem_iff.mp pending) with rfl | remains
        · exact List.mem_append_right _ List.mem_cons_self
        · exact List.mem_append_left _ remains
      · exact List.mem_append_right _ (List.mem_cons_of_mem _ port)
  | enter at_ | goesOn at_ _ | returns at_ _ | readClock at_
  | swept _ at_ _ | waits _ at_ _ | sleeps _ at_ _ _ | skips _ at_ _ _
  | timesOut _ at_ _ | wakes _ at_ =>
      exact .still rfl (by rw [at_]; rfl) (.refl _) (fun _ => id) rfl
  | fires _ _ at_ _ _ | pops _ _ _ at_ _ =>
      exact
        .silent rfl (by rw [at_]; rfl) (.refl _) (fun _ => id) rfl
          fun _ => rfl
  | dispatches index attached time packet others sockets at_ taken _ =>
      have pool := Pool.take?_perm taken
      have port := (pool.map Packet.overlapped).append_left state.pending
      exact
        .calls packet.overlapped rfl (by rw [at_]; rfl) rfl
          (awaiting_of_port pool) (port.trans List.perm_middle)
          (adds_of_events rfl (packet.overlapped.stages_outcome _ _))
  | returnsFromDispatch overlapped at_ =>
      exact
        .frees overlapped rfl (by rw [at_]; rfl) rfl rfl rfl
          (adds_of_events rfl (Event.stages_destroyed _))

/-! ## Whole runs -/

/-- What holds of the `Overlapped` objects in every reachable state. -/
structure Tracked (state : State Time Target) : Prop where
  accounts : Accounts state
  lives : Lives state

theorem Tracked.step
    {state next : State Time Target} {action : Action Time Target}
    (tracked : Tracked state)
    (stepped : state.step action = some next) :
    Tracked next where
  accounts := (step_transition stepped).accounts tracked.accounts
  lives :=
    tracked.lives.effect tracked.accounts.objects.numbered
      (step_transition stepped).effect

theorem reachable_tracked
    {clock : Time} {sockets : Target → Socket} {state : State Time Target}
    (reachable : (system clock sockets).Reachable state) :
    Tracked state := by
  apply TransitionSystem.Reachable.induction _ _ _ reachable
  · refine ⟨⟨ObjectAccount.empty, JobAccount.empty⟩, ?_⟩
    constructor
    · intro overlapped awaits
      cases awaits
    · intro overlapped runs
      cases runs
    · intro id above
      rfl
  · intro state action next _ tracked stepped
    exact tracked.step stepped

/-- When `run` returns, no `Overlapped` is left. -/
theorem live_of_returns
    {clock : Time} {sockets : Target → Socket} {state next : State Time Target}
    (reachable : (system clock sockets).Reachable state)
    (stepped : state.step (.run .loopTest) = some next)
    (outside : next.thread = .outside) :
    next.live = [] := by
  cases step_transition stepped with
  | goesOn at_ hasWork => cases outside
  | returns at_ hasNoWork =>
      have idle := ((reachable_counted reachable).idle hasNoWork).1
      rw [State.live, at_] at idle
      exact idle

/-- What a post that succeeded has come to. -/
inductive Progress (id : Nat) (state : State Time Target) : Prop where
  | waiting (awaits : ⟨id, .execute⟩ ∈ state.awaiting)
      (life : state.life id = [.created])
  | running (runs : state.thread.dispatched = [⟨id, .execute⟩])
      (life : state.life id = [.created, .called])
  | finished (life : state.life id = [.created, .called, .destroyed])

omit [Ring Time] [FloorRing Time] [DecidableEq Target] in
theorem HandedOver.progress
    {state : State Time Target} {id : Nat}
    (posted : HandedOver ⟨id, .execute⟩ state) (lives : Lives state) :
    Progress id state := by
  rcases posted with isQueued | runs | finished
  · have awaits := State.awaiting_of_handedOver isQueued
    exact .waiting awaits (lives.awaiting _ awaits)
  · have isRunning : ⟨id, .execute⟩ ∈ state.thread.dispatched := by
      rw [runs]
      exact List.mem_cons_self
    exact .running runs (lives.dispatched _ isRunning)
  · exact .finished finished

/--
The outcome of `::PostQueuedCompletionStatus` decides about a function given to
`execute`, by the user or by a worker of the resolver.  If it is a failure, the
function is never called.  If it is a success, then whatever all parties do
afterwards, the function is waiting, or runs for the first time, or has run
once; and when `run` returns, it has run once.
-/
theorem post_decides
    {clock : Time}
    {sockets : Target → Socket}
    {state next last : State Time Target}
    {index id : Nat}
    {worker succeeds : Bool}
    {others : List (Task Target)}
    {actions : List (Action Time Target)}
    (reachable : (system clock sockets).Reachable state)
    (posting :
      Pool.take? state.tasks index = some (.posting id worker, others))
    (posted : state.step (.advance index succeeds) = some next)
    (taken : (system clock sockets).runFrom next actions = some last) :
    if succeeds then
      Progress id last ∧
        ∀ final,
          last.step (.run .loopTest) = some final →
            final.thread = .outside →
              final.life id = [.created, .called, .destroyed]
    else last.life id = [.created, .destroyed] := by
  have tracked := reachable_tracked reachable
  have stepped := posted
  rw [State.step, posting, Option.map_some, Option.some.injEq] at stepped
  have pool := Pool.take?_perm posting
  have awaits : ⟨id, .execute⟩ ∈ state.awaiting :=
    (awaiting_of_tasks pool).mem_iff.mpr List.mem_cons_self
  have unposted : state.life id = [.created] :=
    tracked.lives.awaiting _ awaits
  cases succeeds with
  | false =>
      have dropped : next.life id = [.created, .destroyed] := by
        have adds : Adds state next id [.destroyed] :=
          adds_of_events (by rw [← stepped]; rfl) (Event.stages_destroyed id)
        rw [adds.own, unposted]
        rfl
      have keeps :
          ∀ (state : State Time Target) action next,
            (Tracked state ∧ state.life id = [.created, .destroyed]) →
              state.step action = some next →
                Tracked next ∧ next.life id = [.created, .destroyed] := by
        rintro state action next ⟨tracked, ended⟩ stepped
        have gone : .destroyed ∈ state.life id := by
          rw [ended]
          exact List.mem_cons_of_mem _ List.mem_cons_self
        refine ⟨tracked.step stepped, ?_⟩
        rw [tracked.lives.ended (step_transition stepped).effect gone, ended]
      exact
        ((system clock sockets).runFrom_keeps keeps
          ⟨tracked.step posted, dropped⟩ taken).2
  | true =>
      have isQueued : HandedOver ⟨id, .execute⟩ next := by
        refine .inl (List.mem_append_right _ ?_)
        rw [← stepped]
        exact List.mem_cons_self
      have keeps :
          ∀ (state : State Time Target) action next,
            (Tracked state ∧ HandedOver ⟨id, .execute⟩ state) →
              state.step action = some next →
                Tracked next ∧ HandedOver ⟨id, .execute⟩ next := by
        rintro state action next ⟨tracked, isPosted⟩ stepped
        exact
          ⟨tracked.step stepped,
            isPosted.effect tracked.lives (step_transition stepped).effect⟩
      rcases (system clock sockets).runFrom_keeps keeps
          ⟨tracked.step posted, isQueued⟩ taken with
        ⟨tracked, isPosted⟩
      refine ⟨isPosted.progress tracked.lives, ?_⟩
      intro final returned outside
      have first : (system clock sockets).Reachable next :=
        @TransitionSystem.Reachable.step _ _ (system clock sockets) _ _
          (.advance index true) reachable posted
      have reaches : (system clock sockets).Reachable last :=
        (system clock sockets).runFrom_keeps
          (fun _ _ _ => TransitionSystem.Reachable.step _) first taken
      have idle := live_of_returns reaches returned outside
      have final_ := keeps last _ final ⟨tracked, isPosted⟩ returned
      cases final_.2.progress final_.1.lives with
      | waiting awaits life =>
          rw [(List.append_eq_nil_iff.mp idle).2] at awaits
          cases awaits
      | running runs life =>
          rw [(List.append_eq_nil_iff.mp idle).1] at runs
          cases runs
      | finished life => exact life

end Lives

/-- A function is given to `execute` while the thread of `run` waits. -/
def executedLate : List (Action Int Bool) :=
  [.beginWork, .run .enter, .run .loopTest, .run .readClock, .run .sweep,
    .run .countTest, .execute]

theorem post_decides_executedLate :
    ∃ state next last final,
      (system 0 fun _ => { executor := true }).run executedLate =
          some state ∧
        state.step (.advance 0 true) = some next ∧
        (system 0 fun _ => { executor := true }).runFrom next
            [.endWork, .run (.dequeue 0 true), .run .returnFromDispatch] =
          some last ∧
        last.step (.run .loopTest) = some final ∧
        final.life 0 = [.created, .called, .destroyed] := by
  let executor : TransitionSystem (State Int Bool) (Action Int Bool) :=
    system 0 fun _ => { executor := true }
  let afterwards : List (Action Int Bool) :=
    [.endWork, .run (.dequeue 0 true), .run .returnFromDispatch]
  let state := (executor.run executedLate).get rfl
  let next := (state.step (.advance 0 true)).get rfl
  let last := (executor.runFrom next afterwards).get rfl
  let final := (last.step (.run .loopTest)).get rfl
  have reached : executor.run executedLate = some state := rfl
  have posting : Pool.take? state.tasks 0 = some (.posting 0 false, []) :=
    rfl
  have posted : state.step (.advance 0 true) = some next := rfl
  have taken : executor.runFrom next afterwards = some last := rfl
  have decided := post_decides ⟨executedLate, reached⟩ posting posted taken
  exact
    ⟨state, next, last, final, reached, posted, taken, rfl,
      decided.2 final rfl rfl⟩

end Netycat.Executor
