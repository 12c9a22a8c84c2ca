import Mathlib.Data.List.Nodup
import Netycat.Executor.Transition

/-!
# Timers run once

The inner loop of `run` calls the callback of the timer on top and pops
afterwards, so what is popped is what has run only if the callback leaves the
top alone.  A callback that registers a timer for an earlier time than its own
puts it on top: the new timer is then popped without ever running, and the
running one stays and runs again.

A use of `wait` is patient when it does not do that.  Along patient runs no
timer runs twice, none is popped without having run, and all have run when
`run` returns; and a run that has returned from its callbacks has these
properties throughout only if it was patient.
-/

namespace Netycat.Executor

open Netycat.Corecat Netycat.Impl

namespace Event

variable {Time Target : Type*}

/-- The timer whose callback the event is. -/
def firedTimer : Event Time Target → Option Nat
  | .fired timer _ => some timer.id
  | _ => none

/-- The timer whose removal the event is. -/
def poppedTimer : Event Time Target → Option Nat
  | .popped timer => some timer.id
  | _ => none

/-- The event is about a timer. -/
def isTimer : Event Time Target → Bool
  | .fired _ _ => true
  | .popped _ => true
  | _ => false

theorem isTimer_operation
    {index : Nat} {events : List (OperationEvent Target)}
    {event : Event Time Target}
    (member : event ∈ events.map (.operation index)) :
    event.isTimer = false := by
  rcases List.mem_map.mp member with ⟨_, _, rfl⟩
  rfl

theorem firedTimer_eq_none
    (event : Event Time Target) (quiet : event.isTimer = false) :
    event.firedTimer = none := by
  cases event with
  | fired _ _ => cases quiet
  | _ => rfl

theorem poppedTimer_eq_none
    (event : Event Time Target) (quiet : event.isTimer = false) :
    event.poppedTimer = none := by
  cases event with
  | popped _ => cases quiet
  | _ => rfl

end Event

namespace State

variable {Time Target : Type*} [LinearOrder Time]

/-- The timers whose callback has been called, in order. -/
def fired (state : State Time Target) : List Nat :=
  state.events.filterMap Event.firedTimer

/-- The timers that have been removed from the queue, in order. -/
def popped (state : State Time Target) : List Nat :=
  state.events.filterMap Event.poppedTimer

theorem popped_afterPop
    (state : State Time Target) (top : Timer Time) (now : Time) :
    (state.afterPop top now).popped = state.popped ++ [top.id] := by
  simp [popped, afterPop, Event.poppedTimer]

theorem fired_afterPop
    (state : State Time Target) (top : Timer Time) (now : Time) :
    (state.afterPop top now).fired = state.fired := by
  simp [fired, afterPop, Event.firedTimer]

/-- The timers in the queue. -/
def queued (state : State Time Target) : List Nat :=
  state.timerQueue.toList.map Timer.id

end State

section States

variable {Time Target : Type*} [LinearOrder Time]

/-- Each timer registered is in the queue or has been popped, once. -/
def Registered (state : State Time Target) : Prop :=
  (state.queued ++ state.popped).Perm (List.range state.timers)

/-- No timer has run twice, none was lost, and all have run at the end. -/
structure FiredOnce (state : State Time Target) : Prop where
  noneTwice : state.fired.Nodup
  noneLost : ∀ timer ∈ state.popped, timer ∈ state.fired
  allFired :
    state.thread = .loopTest → state.hasWork = false →
      state.fired.Perm (List.range state.timers)

/-- What is popped is what has run, and the running timer is on top. -/
structure Timely (state : State Time Target) : Prop where
  registered : Registered state
  running :
    ∀ now timer, state.thread = .firing now timer →
      state.timerQueue.top? = some timer ∧
        state.fired = state.popped ++ [timer.id]
  resting :
    (∀ now timer, state.thread ≠ .firing now timer) →
      state.fired = state.popped

/-- A timer has been put before the running one. -/
structure Overtaken (state : State Time Target) : Prop where
  registered : Registered state
  overtaken :
    ∃ now timer earlier,
      state.thread = .firing now timer ∧
        state.fired = state.popped ++ [timer.id] ∧
        timer ∈ state.timerQueue.toList ∧
        earlier ∈ state.timerQueue.toList ∧
        earlier.timePoint < timer.timePoint

theorem Registered.nodup
    {state : State Time Target} (registered : Registered state) :
    (state.queued ++ state.popped).Nodup :=
  registered.nodup_iff.mpr List.nodup_range

/-- Entries of the queue with the same number are the same timer. -/
theorem Registered.queued_injective
    {state : State Time Target} (registered : Registered state)
    {first second : Timer Time}
    (firstQueued : first ∈ state.timerQueue.toList)
    (secondQueued : second ∈ state.timerQueue.toList)
    (same : first.id = second.id) :
    first = second :=
  List.inj_on_of_nodup_map (List.Nodup.of_append_left registered.nodup)
    firstQueued secondQueued same

/-- Two states with the same timers. -/
structure SameTimers (state next : State Time Target) : Prop where
  timerQueue : next.timerQueue = state.timerQueue
  timers : next.timers = state.timers
  fired : next.fired = state.fired
  popped : next.popped = state.popped

theorem SameTimers.registered
    {state next : State Time Target} (same : SameTimers state next)
    (registered : Registered state) :
    Registered next := by
  rw [Registered, State.queued, same.timerQueue, same.popped, same.timers]
  exact registered

theorem Timely.same
    {state next : State Time Target} (timely : Timely state)
    (thread : next.thread = state.thread) (same : SameTimers state next) :
    Timely next where
  registered := same.registered timely.registered
  running := by
    rw [thread, same.timerQueue, same.fired, same.popped]
    exact timely.running
  resting := by
    rw [thread, same.fired, same.popped]
    exact timely.resting

/-- The thread moves from one place outside of timer callbacks to another. -/
theorem Timely.move
    {state next : State Time Target} (timely : Timely state)
    (resting : ∀ now timer, state.thread ≠ .firing now timer)
    (rests : ∀ now timer, next.thread ≠ .firing now timer)
    (same : SameTimers state next) :
    Timely next where
  registered := same.registered timely.registered
  running := fun now timer at_ => absurd at_ (rests now timer)
  resting := by
    intro _
    rw [same.fired, same.popped]
    exact timely.resting resting

theorem Overtaken.same
    {state next : State Time Target} (overtaken : Overtaken state)
    (thread : next.thread = state.thread) (same : SameTimers state next) :
    Overtaken next where
  registered := same.registered overtaken.registered
  overtaken := by
    rw [thread, same.timerQueue, same.fired, same.popped]
    exact overtaken.overtaken

theorem Timely.firedOnce
    {state : State Time Target} (timely : Timely state) :
    FiredOnce state := by
  have nodup := timely.registered.nodup
  by_cases resting : ∀ now timer, state.thread ≠ .firing now timer
  · have fired := timely.resting resting
    constructor
    · rw [fired]
      exact List.Nodup.of_append_right nodup
    · intro timer member
      rw [fired]
      exact member
    · intro _ hasNoWork
      have registered := timely.registered
      have empty : state.timerQueue.toList = [] := by
        simp only [State.hasWork, Bool.or_eq_false_iff,
          Bool.not_eq_false'] at hasNoWork
        exact (MinHeap.isEmpty_iff _).mp hasNoWork.2
      rw [Registered, State.queued, empty] at registered
      rw [fired]
      exact registered
  · push Not at resting
    rcases resting with ⟨now, timer, at_⟩
    rcases timely.running now timer at_ with ⟨isTop, fired⟩
    have queued : timer.id ∈ state.queued :=
      List.mem_map_of_mem (MinHeap.top?_mem isTop)
    constructor
    · rw [fired, List.nodup_append_comm]
      apply List.nodup_cons.mpr
      constructor
      · intro popped
        exact List.disjoint_of_nodup_append nodup queued popped
      · exact List.Nodup.of_append_right nodup
    · intro other member
      rw [fired]
      exact List.mem_append_left _ member
    · intro atTest
      rw [at_] at atTest
      cases atTest

/-- A push registers one more timer. -/
theorem Registered.wait [Add Time]
    {state : State Time Target} (registered : Registered state)
    (time : Time) :
    Registered (state.wait time) := by
  have pushed :
      (state.wait time).queued.Perm (state.timers :: state.queued) :=
    (MinHeap.push_perm state.timerQueue
      ⟨state.clock + time, state.timers⟩).map Timer.id
  have popped : (state.wait time).popped = state.popped := rfl
  have timers : (state.wait time).timers = state.timers + 1 := rfl
  rw [Registered, popped, timers, List.range_succ]
  have together :
      ((state.wait time).queued ++ state.popped).Perm
        (state.timers :: (state.queued ++ state.popped)) :=
    pushed.append_right state.popped
  have last :
      (List.range state.timers ++ [state.timers]).Perm
        (state.timers :: List.range state.timers) :=
    List.perm_append_singleton _ _
  exact
    together.trans ((registered.cons state.timers).trans last.symm)

/-- A pop moves the timer on top from the queue to those popped. -/
theorem Registered.pop
    {state : State Time Target} {top : Timer Time}
    (registered : Registered state)
    (isTop : state.timerQueue.top? = some top) (now : Time) :
    Registered (state.afterPop top now) := by
  have queued :
      state.queued.Perm (top.id :: (state.afterPop top now).queued) :=
    (MinHeap.pop_perm isTop).map Timer.id
  have moved :
      (state.queued ++ state.popped).Perm
        (top.id :: ((state.afterPop top now).queued ++ state.popped)) :=
    queued.append_right state.popped
  have last :
      (top.id :: ((state.afterPop top now).queued ++ state.popped)).Perm
        ((state.afterPop top now).queued ++ state.popped ++ [top.id]) :=
    (List.perm_append_singleton _ _).symm
  rw [Registered, State.popped_afterPop, ← List.append_assoc]
  exact (moved.trans last).symm.trans registered

end States

/-! ## One step -/

section Steps

variable {Time Target : Type*} [LinearOrder Time]

/-- Only events that are about no timer have been added. -/
def NoTimerEvents (state next : State Time Target) : Prop :=
  ∃ events,
    next.events = state.events ++ events ∧
      ∀ event ∈ events, event.isTimer = false

theorem NoTimerEvents.none
    {state next : State Time Target} (same : next.events = state.events) :
    NoTimerEvents state next := by
  refine ⟨[], ?_, ?_⟩
  · rw [same, List.append_nil]
  · intro event member
    cases member

/-- What is read off the events of timers stays as it is. -/
theorem NoTimerEvents.filterMap {Value : Type*}
    {state next : State Time Target} (added : NoTimerEvents state next)
    {read : Event Time Target → Option Value}
    (onlyTimers : ∀ event, event.isTimer = false → read event = .none) :
    next.events.filterMap read = state.events.filterMap read := by
  rcases added with ⟨events, emitted, quiet⟩
  have nothing : events.filterMap read = [] := by
    rw [List.filterMap_eq_nil_iff]
    exact fun event member => onlyTimers event (quiet event member)
  rw [State.filterMap_of_events emitted, nothing, List.append_nil]

/-- The callback of an `Overlapped` is no timer's callback. -/
theorem NoTimerEvents.outcome
    {state next : State Time Target} {overlapped : Overlapped Target}
    {e : ExceptionPtr} {byteCount : Nat}
    (emitted :
      next.events = state.events ++ overlapped.outcome e byteCount) :
    NoTimerEvents state next := by
  refine ⟨_, emitted, ?_⟩
  rw [Overlapped.outcome]
  split
  · simp [Event.isTimer]
  · exact fun _ member => Event.isTimer_operation member

theorem NoTimerEvents.advance
    (state : State Time Target) (others : List (Task Target))
    (succeeds : Bool) (task : Task Target) :
    NoTimerEvents state (state.advance others succeeds task) := by
  cases task with
  | lookingUp => exact ⟨_, rfl, by simp [Event.isTimer]⟩
  | posting id worker =>
      cases succeeds with
      | true => exact .none rfl
      | false => exact ⟨_, rfl, by simp [Event.isTimer]⟩
  | endingWork => exact .none rfl
  | submitting id index closure =>
      cases succeeds with
      | true => exact .none rfl
      | false =>
          refine ⟨_, state.reject_events id index closure, ?_⟩
          intro event member
          rcases List.mem_append.mp member with released | other
          · exact Event.isTimer_operation released
          · rcases List.mem_cons.mp other with rfl | reported
            · rfl
            · exact Event.isTimer_operation reported

/-- Events of other kinds leave the timers as they are. -/
theorem SameTimers.emit
    {state next : State Time Target}
    (timerQueue : next.timerQueue = state.timerQueue)
    (timers : next.timers = state.timers)
    (added : NoTimerEvents state next) :
    SameTimers state next where
  timerQueue := timerQueue
  timers := timers
  fired := added.filterMap Event.firedTimer_eq_none
  popped := added.filterMap Event.poppedTimer_eq_none

variable [Ring Time] [FloorRing Time] [DecidableEq Target]

/-- A step of somebody else than the thread of `run`, without `wait`. -/
def Action.isForeign : Action Time Target → Bool
  | .wait _ => false
  | .run _ => false
  | _ => true

theorem Transition.foreign_noTimerEvents
    {state next : State Time Target} {action : Action Time Target}
    (transition : Transition state action next)
    (foreign : action.isForeign = true) :
    NoTimerEvents state next := by
  cases transition with
  | tick _ _ | beginWork | endWork _ | resolve | useSocket _ _
  | complete _ _ _ _ _ _ => exact .none rfl
  | execute | startEnds _ _ _ _ _ =>
      exact ⟨_, rfl, by simp [Event.isTimer]⟩
  | startSubmits self operation socket closure started =>
      refine ⟨_, List.append_assoc _ _ _, ?_⟩
      intro event member
      rcases List.mem_append.mp member with begun | created
      · exact Event.isTimer_operation begun
      · rw [List.mem_singleton.mp created]
        rfl
  | advance index succeeds task others taken =>
      exact .advance state others succeeds task
  | _ => cases foreign

theorem Transition.foreign_sameTimers
    {state next : State Time Target} {action : Action Time Target}
    (transition : Transition state action next)
    (foreign : action.isForeign = true) :
    next.thread = state.thread ∧ SameTimers state next := by
  have added := transition.foreign_noTimerEvents foreign
  cases transition with
  | tick _ _ | beginWork | endWork _ | resolve | useSocket _ _
  | complete _ _ _ _ _ _ | execute | startEnds _ _ _ _ _
  | startSubmits _ _ _ _ _ =>
      exact ⟨rfl, .emit rfl rfl added⟩
  | advance index succeeds task others taken =>
      cases task with
      | lookingUp | endingWork => exact ⟨rfl, .emit rfl rfl added⟩
      | posting _ _ | submitting _ _ _ =>
          cases succeeds with
          | true => exact ⟨rfl, .emit rfl rfl added⟩
          | false => exact ⟨rfl, .emit rfl rfl added⟩
  | _ => cases foreign

/--
A use of `wait` inside a timer callback does not ask for an earlier time than
that of the running timer.
-/
def Patient (state : State Time Target) : Action Time Target → Prop
  | .wait time =>
      ∀ now timer, state.thread = .firing now timer →
        timer.timePoint ≤ state.clock + time
  | _ => True

/-- A patient step keeps the running timer on top. -/
theorem Timely.step
    {state next : State Time Target} {action : Action Time Target}
    (patient : Patient state action) (timely : Timely state)
    (transition : Transition state action next) :
    Timely next := by
  by_cases foreign : action.isForeign = true
  · have same := transition.foreign_sameTimers foreign
    exact timely.same same.1 same.2
  cases transition with
  | wait time inUserCode =>
      constructor
      · exact timely.registered.wait time
      · intro now timer at_
        have running := timely.running now timer at_
        exact
          ⟨MinHeap.push_top? _ running.1 (patient now timer at_), running.2⟩
      · exact timely.resting
  | enter at_ | goesOn at_ _ | returns at_ _ | readClock at_
  | swept _ at_ _ | waits _ at_ _ | sleeps _ at_ _ _ | skips _ at_ _ _
  | timesOut _ at_ _ | wakes _ at_ =>
      exact timely.move (by simp [at_]) (by simp) ⟨rfl, rfl, rfl, rfl⟩
  | fires now timer at_ isTop due =>
      have popped :
          (state.events ++ [Event.fired timer now]).filterMap
              Event.poppedTimer = state.popped := by
        simp [State.popped, Event.poppedTimer]
      constructor
      · rw [Registered, State.popped, popped]
        exact timely.registered
      · intro other otherTimer running
        cases running
        refine ⟨isTop, ?_⟩
        rw [State.popped, popped, ← timely.resting (by simp [at_])]
        simp [State.fired, Event.firedTimer]
      · intro resting
        exact absurd rfl (resting now timer)
  | pops now running top at_ isTop =>
      rcases timely.running now running at_ with ⟨runningTop, fired⟩
      rw [isTop, Option.some.injEq] at runningTop
      subst runningTop
      constructor
      · exact timely.registered.pop isTop now
      · intro other timer firing
        cases firing
      · intro _
        exact
          (state.fired_afterPop top now).trans
            (fired.trans (state.popped_afterPop top now).symm)
  | dispatches index attached time packet others sockets at_ taken _ =>
      exact
        timely.move (by simp [at_]) (by simp)
          (.emit rfl rfl (.outcome rfl))
  | returnsFromDispatch overlapped at_ =>
      exact
        timely.move (by simp [at_]) (by simp)
          (.emit rfl rfl ⟨_, rfl, by simp [Event.isTimer]⟩)
  | _ => exact absurd rfl foreign

/-- While a timer's callback runs, the thread of `run` waits for it. -/
theorem Transition.firing_cases
    {state next : State Time Target} {action : Action Time Target}
    {now : Time} {timer : Timer Time}
    (transition : Transition state action next)
    (firing : state.thread = .firing now timer) :
    (next.thread = state.thread ∧ SameTimers state next) ∨
      (∃ time, next = state.wait time) ∨
        ∃ top,
          state.timerQueue.top? = some top ∧
            next = state.afterPop top now := by
  by_cases foreign : action.isForeign = true
  · exact Or.inl (transition.foreign_sameTimers foreign)
  · cases transition with
    | wait time inUserCode => exact Or.inr (Or.inl ⟨time, rfl⟩)
    | pops nowAgain running top at_ isTop =>
        rw [firing] at at_
        cases at_
        exact Or.inr (Or.inr ⟨top, isTop, rfl⟩)
    | _ => simp_all [Action.isForeign]

/-- An impatient step puts a timer before the running one. -/
theorem Timely.overtaken
    {state next : State Time Target} {action : Action Time Target}
    (impatient : ¬ Patient state action) (timely : Timely state)
    (transition : Transition state action next) :
    Overtaken next := by
  cases transition with
  | wait time inUserCode =>
      simp only [Patient, not_forall, not_le] at impatient
      rcases impatient with ⟨now, timer, at_, sooner⟩
      have running := timely.running now timer at_
      have pushed :=
        MinHeap.push_perm state.timerQueue
          ⟨state.clock + time, state.timers⟩
      constructor
      · exact timely.registered.wait time
      · refine
          ⟨now, timer, ⟨state.clock + time, state.timers⟩, at_, running.2,
            ?_, ?_, sooner⟩
        · apply pushed.mem_iff.mpr
          exact List.mem_cons_of_mem _ (MinHeap.top?_mem running.1)
        · apply pushed.mem_iff.mpr
          exact List.mem_cons_self
  | _ => exact absurd trivial impatient

/-- Once overtaken, the pop after the callback loses a timer. -/
theorem Overtaken.step
    {state next : State Time Target} {action : Action Time Target}
    (overtaken : Overtaken state) (firedOnce : FiredOnce next)
    (transition : Transition state action next) :
    Overtaken next := by
  rcases overtaken.overtaken with
    ⟨now, timer, earlier, firing, fired, running, waiting, sooner⟩
  rcases transition.firing_cases firing with
    ⟨thread, same⟩ | ⟨time, rfl⟩ | ⟨top, isTop, rfl⟩
  · exact overtaken.same thread same
  · have pushed :=
      MinHeap.push_perm state.timerQueue ⟨state.clock + time, state.timers⟩
    constructor
    · exact overtaken.registered.wait time
    · refine ⟨now, timer, earlier, firing, fired, ?_, ?_, sooner⟩
      · exact pushed.mem_iff.mpr (List.mem_cons_of_mem _ running)
      · exact pushed.mem_iff.mpr (List.mem_cons_of_mem _ waiting)
  · exfalso
    have queued := MinHeap.top?_mem isTop
    have least : top.timePoint ≤ earlier.timePoint :=
      MinHeap.top?_le isTop waiting
    have lost : top.id ∈ state.fired := by
      rw [← state.fired_afterPop top now]
      apply firedOnce.noneLost
      rw [state.popped_afterPop top now]
      exact List.mem_append_right _ (List.mem_singleton_self _)
    rw [fired, List.mem_append, List.mem_singleton] at lost
    rcases lost with popped | same
    · exact
        List.disjoint_of_nodup_append overtaken.registered.nodup
          (List.mem_map_of_mem queued) popped
    · have isRunning : top = timer :=
        overtaken.registered.queued_injective queued running same
      rw [isRunning] at least
      exact absurd sooner (not_lt.mpr least)

/-! ## Whole runs -/

theorem Timely.init (clock : Time) (sockets : Target → Socket) :
    Timely (system clock sockets).init where
  registered := List.Perm.refl _
  running := fun _ _ at_ => by cases at_
  resting := fun _ => rfl

/--
Along a run of patient steps no timer runs twice, none is popped without having
run, and all registered have run once when `run` returns.  A run that ends
outside of timer callbacks has these properties throughout only if all its
steps are patient.
-/
theorem timers_fire_once
    {clock : Time} {sockets : Target → Socket}
    {actions : List (Action Time Target)} {last : State Time Target}
    (taken : (system clock sockets).run actions = some last) :
    ((system clock sockets).Along Patient actions →
        (system clock sockets).Throughout FiredOnce actions) ∧
      ((∀ now timer, last.thread ≠ .firing now timer) →
        (system clock sockets).Throughout FiredOnce actions →
          (system clock sockets).Along Patient actions) := by
  have initial := Timely.init clock sockets
  have kept :
      ∀ state action next,
        Patient state action → Timely state →
          (system clock sockets).step state action = some next →
            Timely next :=
    fun _ _ _ patient timely stepped =>
      timely.step patient (step_transition stepped)
  have sound :
      ∀ state : State Time Target, Timely state → FiredOnce state :=
    fun _ timely => timely.firedOnce
  constructor
  · intro along
    exact
      (TransitionSystem.Along.throughout (system clock sockets) initial kept
        along).mono (system clock sockets) sound
  · intro outside
    have detected :
        ∀ state action next,
          ¬ Patient state action → Timely state →
            (system clock sockets).step state action = some next →
              Overtaken next :=
      fun _ _ _ impatient timely stepped =>
        timely.overtaken impatient (step_transition stepped)
    have persists :
        ∀ state action next,
          Overtaken state → FiredOnce state → FiredOnce next →
            (system clock sockets).step state action = some next →
              Overtaken next :=
      fun _ _ _ overtaken _ firedOnce stepped =>
        overtaken.step firedOnce (step_transition stepped)
    have ended : FiredOnce last → ¬ Overtaken last := by
      intro _ overtaken
      rcases overtaken.overtaken with ⟨now, timer, _, firing, _⟩
      exact outside now timer firing
    exact
      (TransitionSystem.throughout_iff_along_of_doomed (system clock sockets)
        initial kept sound detected persists ended taken).mp

end Steps

/-- A timer whose callback registers another one for the same instant. -/
def rearming : List (Action Int Unit) :=
  [.wait 0, .run .enter, .run .loopTest, .run .readClock, .run .sweep, .wait 0,
    .run .returnFromTimer, .run .sweep, .run .returnFromTimer, .run .sweep,
    .run .countTest, .run .loopTest]

theorem timers_fire_once_rearming :
    ∃ last,
      (system 0 fun _ => { executor := true }).run rearming = some last ∧
        last.thread = .outside ∧ last.fired = [0, 1] ∧
        ((system 0 fun _ => { executor := true }).Along Patient rearming →
          (system 0 fun _ => { executor := true }).Throughout FiredOnce
            rearming) :=
  ⟨_, rfl, rfl, rfl, (timers_fire_once rfl).1⟩

/-- A timer whose callback asks for a moment in the past. -/
def backdating : List (Action Int Unit) :=
  [.wait 0, .run .enter, .run .loopTest, .run .readClock, .run .sweep,
    .wait (-1), .run .returnFromTimer, .run .sweep]

/-- The new timer is popped without having run, and the first one runs again. -/
theorem backdating_not_firedOnce :
    ¬ ∀ actions last,
        (system 0 fun _ : Unit => { executor := true }).run actions =
            some last →
          (system (0 : Int) fun _ : Unit => { executor := true }).Throughout
            FiredOnce actions := by
  intro always
  have firedOnce :=
    (always backdating _ rfl).last
      (system 0 fun _ : Unit => { executor := true }) rfl
  exact absurd firedOnce.noneTwice (by decide)

end Netycat.Executor
