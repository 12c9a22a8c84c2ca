import Netycat.Executor.Timers

/-!
# Deadlines

The sweep of `run` fires the timer on top as long as it is due at a clock
reading that is taken once, before the sweep.  A timer that is added later with
a delay that is not negative lies after that reading, so over a whole run the
timers fire in the order of their deadlines, and none before its own.

The wait at the end of the pass is measured from the same reading.  The time
that callbacks have taken since then is added to it, so that the wait is asked
to last beyond the next deadline unless the callbacks took no longer than what
rounding to milliseconds cuts off.
-/

namespace Netycat.Executor

open Netycat.Corecat Netycat.Impl

/-! ## What has been fired -/

/-- The timer that fires and the reading at which it was due. -/
def Event.firing {Time Target : Type*} :
    Event Time Target → Option (Timer Time × Time)
  | .fired timer now => some (timer, now)
  | _ => none

/-- The timers whose callback has been called, in order, with the readings. -/
def State.firings {Time Target : Type*} [LinearOrder Time]
    (state : State Time Target) : List (Timer Time × Time) :=
  state.events.filterMap Event.firing

/-- The reading that the sweep goes by. -/
def Thread.reading {Time Target : Type*} :
    Thread Time Target → Option Time
  | .sweeping now => some now
  | .firing now _ => some now
  | _ => none

section States

variable {Time Target : Type*} [LinearOrder Time]

/-- Deadlines are met in order, and none is met early. -/
structure InOrder (state : State Time Target) : Prop where
  ordered :
    state.firings.Pairwise fun earlier later =>
      earlier.1.timePoint ≤ later.1.timePoint
  due :
    ∀ firing ∈ state.firings,
      firing.1.timePoint ≤ firing.2 ∧ firing.2 ≤ state.clock

/-- What has fired comes before what waits, and the reading is not ahead of the
clock. -/
structure Sequenced (state : State Time Target) : Prop where
  inOrder : InOrder state
  before :
    ∀ firing ∈ state.firings, ∀ timer ∈ state.timerQueue.toList,
      firing.1.timePoint ≤ timer.timePoint
  reading :
    ∀ now, state.thread.reading = some now → now ≤ state.clock

/-- Only the clock has moved, or the thread. -/
theorem Sequenced.congr
    {state next : State Time Target} (sequenced : Sequenced state)
    (firings : next.firings = state.firings)
    (timerQueue :
      ∀ timer ∈ next.timerQueue.toList, timer ∈ state.timerQueue.toList)
    (clock : state.clock ≤ next.clock)
    (reading :
      ∀ now, next.thread.reading = some now → now ≤ next.clock) :
    Sequenced next := by
  refine ⟨⟨?_, ?_⟩, ?_, reading⟩
  · rw [firings]
    exact sequenced.inOrder.ordered
  · rw [firings]
    intro firing member
    have due := sequenced.inOrder.due firing member
    exact ⟨due.1, due.2.trans clock⟩
  · rw [firings]
    intro firing member timer queued
    exact sequenced.before firing member timer (timerQueue timer queued)

theorem Event.firing_eq_none
    {Time Target : Type*} (event : Event Time Target)
    (quiet : event.isTimer = false) :
    event.firing = none := by
  cases event with
  | fired _ _ => cases quiet
  | _ => rfl

theorem NoTimerEvents.firings
    {state next : State Time Target} (added : NoTimerEvents state next) :
    next.firings = state.firings :=
  added.filterMap Event.firing_eq_none

/-- The timer on top is the next in order. -/
theorem Sequenced.fires
    {state : State Time Target} (sequenced : Sequenced state)
    {now : Time} {timer : Timer Time}
    (at_ : state.thread = .sweeping now)
    (isTop : state.timerQueue.top? = some timer)
    (due : timer.timePoint ≤ now) :
    Sequenced
      { state with
          thread := .firing now timer
          events := state.events ++ [.fired timer now] } := by
  have reading : now ≤ state.clock :=
    sequenced.reading now (by rw [at_]; rfl)
  have firings :
      (state.events ++ [Event.fired timer now]).filterMap Event.firing =
        state.firings ++ [(timer, now)] := by
    rw [List.filterMap_append]
    rfl
  refine ⟨⟨?_, ?_⟩, ?_, ?_⟩
  · rw [State.firings, firings, List.pairwise_append]
    refine ⟨sequenced.inOrder.ordered, List.pairwise_singleton _ _, ?_⟩
    intro earlier member later isLast
    rw [List.mem_singleton.mp isLast]
    exact
      sequenced.before earlier member timer (MinHeap.top?_mem isTop)
  · rw [State.firings, firings]
    intro firing member
    rcases List.mem_append.mp member with old | isLast
    · exact sequenced.inOrder.due firing old
    · rw [List.mem_singleton.mp isLast]
      exact ⟨due, reading⟩
  · rw [State.firings, firings]
    intro firing member other queued
    rcases List.mem_append.mp member with old | isLast
    · exact sequenced.before firing old other queued
    · rw [List.mem_singleton.mp isLast]
      exact MinHeap.top?_le isTop queued
  · intro reading_ same
    cases same
    exact reading

end States

section Steps

variable {Time Target : Type*}
variable [Ring Time] [LinearOrder Time] [FloorRing Time] [DecidableEq Target]

/-- Among the steps of somebody else only a tick moves the clock. -/
theorem Transition.foreign_clock_cases
    {state next : State Time Target} {action : Action Time Target}
    (transition : Transition state action next)
    (foreign : action.isForeign = true) :
    next.clock = state.clock ∨
      ∃ elapsed,
        action = .tick elapsed ∧ 0 ≤ elapsed ∧
          next.clock = state.clock + elapsed := by
  cases transition with
  | tick elapsed forward => exact Or.inr ⟨elapsed, rfl, forward, rfl⟩
  | beginWork | endWork _ | resolve | useSocket _ _ | complete _ _ _ _ _ _
  | execute | startEnds _ _ _ _ _ | startSubmits _ _ _ _ _ =>
      exact Or.inl rfl
  | advance index succeeds task others taken =>
      cases task with
      | lookingUp | endingWork => exact Or.inl rfl
      | posting _ _ | submitting _ _ _ =>
          cases succeeds with
          | true => exact Or.inl rfl
          | false => exact Or.inl rfl
  | _ => cases foreign

/-- The delay of a timer is not negative. -/
def Action.delays : Action Time Target → Bool
  | .wait time => decide (0 ≤ time)
  | _ => true

variable [IsStrictOrderedRing Time]

theorem Transition.foreign_clock
    {state next : State Time Target} {action : Action Time Target}
    (transition : Transition state action next)
    (foreign : action.isForeign = true) :
    state.clock ≤ next.clock := by
  rcases transition.foreign_clock_cases foreign with
    same | ⟨elapsed, _, forward, moved⟩
  · exact same.ge
  · rw [moved]
    exact le_add_of_nonneg_right forward

omit [FloorRing Time] [DecidableEq Target] in
/-- A new timer lies after all that has fired. -/
theorem Sequenced.wait
    {state : State Time Target} (sequenced : Sequenced state)
    {time : Time} (later : 0 ≤ time) :
    Sequenced (state.wait time) := by
  refine ⟨⟨sequenced.inOrder.ordered, sequenced.inOrder.due⟩, ?_,
    sequenced.reading⟩
  intro firing member timer queued
  have pushed :=
    (MinHeap.push_perm state.timerQueue
      ⟨state.clock + time, state.timers⟩).mem_iff.mp queued
  rcases List.mem_cons.mp pushed with rfl | old
  · have due := sequenced.inOrder.due firing member
    exact (due.1.trans due.2).trans (le_add_of_nonneg_right later)
  · exact sequenced.before firing member timer old

theorem Sequenced.step
    {state next : State Time Target} {action : Action Time Target}
    (delays : action.delays = true) (sequenced : Sequenced state)
    (transition : Transition state action next) :
    Sequenced next := by
  by_cases foreign : action.isForeign = true
  · have same := transition.foreign_sameTimers foreign
    have clock := transition.foreign_clock foreign
    have firings := (transition.foreign_noTimerEvents foreign).firings
    refine sequenced.congr firings ?_ clock ?_
    · rw [same.2.timerQueue]
      exact fun _ queued => queued
    · rw [same.1]
      exact fun now at_ => (sequenced.reading now at_).trans clock
  cases transition with
  | wait time inUserCode =>
      exact sequenced.wait (of_decide_eq_true delays)
  | fires now timer at_ isTop due => exact sequenced.fires at_ isTop due
  | pops now running top at_ isTop =>
      have reading : now ≤ state.clock :=
        sequenced.reading now (by rw [at_]; rfl)
      have firings : (state.afterPop top now).firings = state.firings := by
        simp [State.firings, State.afterPop, Event.firing]
      refine sequenced.congr firings ?_ le_rfl ?_
      · intro timer queued
        exact
          (MinHeap.pop_perm isTop).mem_iff.mpr
            (List.mem_cons_of_mem _ queued)
      · intro reading_ same
        cases same
        exact reading
  | readClock at_ =>
      refine sequenced.congr rfl (fun _ queued => queued) ?_ ?_
      · exact le_refl state.clock
      · intro now same
        cases same
        exact le_refl state.clock
  | dispatches index attached time packet others sockets at_ taken _ =>
      refine sequenced.congr ?_ (fun _ queued => queued) ?_ ?_
      · exact (NoTimerEvents.outcome rfl).firings
      · exact le_refl state.clock
      · intro now same
        cases same
  | returnsFromDispatch overlapped at_ =>
      refine sequenced.congr ?_ (fun _ queued => queued) ?_ ?_
      · apply NoTimerEvents.firings
        exact ⟨_, rfl, by simp [Event.isTimer]⟩
      · exact le_refl state.clock
      · intro now same
        cases same
  | goesOn at_ _ | enter at_ | returns at_ _ | swept _ at_ _ | waits _ at_ _
  | sleeps _ at_ _ _ | skips _ at_ _ _ | timesOut _ at_ _ | wakes _ at_ =>
      refine sequenced.congr rfl (fun _ queued => queued) ?_ ?_
      · exact le_refl state.clock
      · intro now same
        cases same
  | _ => exact absurd rfl foreign

/-! ## Order over a whole run -/

/-- The executor while no timer is given a negative delay. -/
def delaying (clock : Time) (sockets : Target → Socket) :
    TransitionSystem (State Time Target) (Action Time Target) :=
  (system clock sockets).restrict fun _ action => action.delays

/--
Over a whole run timers fire in the order of their deadlines, and each at a
reading that is not before its deadline.
-/
theorem timers_fire_in_order
    (clock : Time) (sockets : Target → Socket)
    (actions : List (Action Time Target)) :
    (delaying clock sockets).Throughout InOrder actions := by
  have initial : Sequenced (delaying clock sockets).init := by
    refine ⟨⟨List.Pairwise.nil, ?_⟩, ?_, ?_⟩
    · intro firing member
      cases member
    · intro firing member
      cases member
    · intro now at_
      cases at_
  have kept :
      ∀ state action next,
        True → Sequenced state →
          (delaying clock sockets).step state action = some next →
            Sequenced next := by
    intro state action next _ sequenced stepped
    have restricted := TransitionSystem.restrict_step _ stepped
    exact sequenced.step restricted.1 (step_transition restricted.2)
  have along :
      (delaying clock sockets).Along (fun _ _ => True) actions :=
    fun _ _ _ _ _ _ => trivial
  exact
    (TransitionSystem.Along.throughout _ initial kept along).mono _
      fun _ sequenced => sequenced.inOrder

/-! ## The wait at the end of a pass -/

/-- The time of the blocking call that the thread is in. -/
def Thread.blocked : Thread Time Target → Option Nat
  | .waiting time => some time
  | .sleeping time => some time
  | _ => none

/-- A time in milliseconds. -/
def milliseconds (time : Time) : Time :=
  time * (1000 : Nat)

/--
The clock moves only in user code and in blocking calls, and a pass ends with
less than `INFINITE` milliseconds from its reading to the next deadline.
-/
def Punctual (state : State Time Target) : Action Time Target → Bool
  | .tick _ => state.thread.inUserCode || state.thread.blocked.isSome
  | .run .sweep =>
      match state.thread.reading, state.timerQueue.top? with
      | some now, some timer =>
          decide (milliseconds (timer.timePoint - now) < (INFINITE : Nat))
      | _, _ => true
  | _ => true

/-- The executor with a loop that takes no time and with delays that fit. -/
def punctual (clock : Time) (sockets : Target → Socket) :
    TransitionSystem (State Time Target) (Action Time Target) :=
  (system clock sockets).restrict Punctual

/-- A blocking call that starts now is over by the next deadline. -/
def InTime (state : State Time Target) : Prop :=
  ∀ next time timer,
    state.step (.run .countTest) = some next →
      next.thread.blocked = some time →
        next.timerQueue.top? = some timer →
          milliseconds next.clock + time ≤ milliseconds timer.timePoint

/--
When the sweep ends, its callbacks have taken no longer than the fraction of a
millisecond that the time from the reading to the next deadline has.
-/
def Brief (state : State Time Target) : Action Time Target → Prop
  | .run .sweep =>
      ∀ now timer,
        state.thread = .sweeping now →
          state.timerQueue.top? = some timer →
            now < timer.timePoint →
              milliseconds (state.clock - now) ≤
                Int.fract (milliseconds (timer.timePoint - now))
  | _ => True

/-- The time that has been computed is over by the next deadline. -/
def Unhurried (state : State Time Target) : Prop :=
  ∀ time timer,
    state.thread = .countTest time →
      state.timerQueue.top? = some timer →
        milliseconds state.clock + time ≤ milliseconds timer.timePoint

omit [LinearOrder Time] [FloorRing Time] [IsStrictOrderedRing Time] in
theorem milliseconds_sub (first second : Time) :
    milliseconds (first - second) =
      milliseconds first - milliseconds second :=
  sub_mul first second _

omit [IsStrictOrderedRing Time] in
theorem timeout_of_top
    {timerQueue : TimerQueue Time} {timer : Timer Time} (now : Time)
    (isTop : timerQueue.top? = some timer) :
    timeout timerQueue now =
      ⌊milliseconds (timer.timePoint - now)⌋.toNat % 2 ^ 32 := by
  simp only [timeout, isTop, milliseconds, Nat.cast_ofNat]

/-- The next deadline lies in the future and is not too far. -/
theorem timeout_lt
    {timerQueue : TimerQueue Time} {now : Time} {timer : Timer Time}
    (isTop : timerQueue.top? = some timer)
    (later : now < timer.timePoint)
    (fits : milliseconds (timer.timePoint - now) < (INFINITE : Nat)) :
    timeout timerQueue now < INFINITE ∧
      (timeout timerQueue now : Time) =
        milliseconds (timer.timePoint - now) -
          Int.fract (milliseconds (timer.timePoint - now)) := by
  have positive : 0 ≤ milliseconds (timer.timePoint - now) :=
    mul_nonneg (sub_nonneg.mpr later.le) (Nat.cast_nonneg 1000)
  rw [timeout_of_top now isTop]
  generalize milliseconds (timer.timePoint - now) = remaining
    at fits positive ⊢
  have nonnegative : 0 ≤ ⌊remaining⌋ := Int.floor_nonneg.mpr positive
  have below : ⌊remaining⌋ < (INFINITE : Nat) := by
    rw [Int.floor_lt]
    exact_mod_cast fits
  have small : ⌊remaining⌋.toNat < INFINITE := by omega
  have whole : ⌊remaining⌋.toNat % 2 ^ 32 = ⌊remaining⌋.toNat := by
    apply Nat.mod_eq_of_lt
    exact small.trans (by decide)
  rw [whole]
  refine ⟨small, ?_⟩
  rw [← Int.cast_natCast, Int.toNat_of_nonneg nonnegative, Int.self_sub_fract]

/-- The wait is over by the deadline if the time since the reading is brief. -/
theorem timeout_inTime_iff
    {timerQueue : TimerQueue Time} {now clock : Time} {timer : Timer Time}
    (isTop : timerQueue.top? = some timer)
    (later : now < timer.timePoint)
    (fits : milliseconds (timer.timePoint - now) < (INFINITE : Nat)) :
    milliseconds clock + timeout timerQueue now ≤
        milliseconds timer.timePoint ↔
      milliseconds (clock - now) ≤
        Int.fract (milliseconds (timer.timePoint - now)) := by
  rw [(timeout_lt isTop later fits).2]
  generalize Int.fract (milliseconds (timer.timePoint - now)) = lost
  rw [milliseconds_sub, milliseconds_sub]
  generalize milliseconds timer.timePoint = deadline
  generalize milliseconds now = reading
  have apart :
      milliseconds clock + (deadline - reading - lost) =
        milliseconds clock - reading - lost + deadline := by
    abel
  rw [apart, add_le_iff_nonpos_left, sub_nonpos]

omit [FloorRing Time] [DecidableEq Target] [IsStrictOrderedRing Time] in
/-- A sweep that ends is followed by a delay that fits. -/
theorem punctual_fits
    {state : State Time Target} {now : Time} {timer : Timer Time}
    (punctual : Punctual state (.run .sweep) = true)
    (at_ : state.thread = .sweeping now)
    (isTop : state.timerQueue.top? = some timer) :
    milliseconds (timer.timePoint - now) < (INFINITE : Nat) := by
  simp only [Punctual, at_, Thread.reading, isTop] at punctual
  exact of_decide_eq_true punctual

omit [IsStrictOrderedRing Time] in
/-- A blocking call lasts for the time that has been computed. -/
theorem Unhurried.inTime
    {state : State Time Target} (unhurried : Unhurried state) :
    InTime state := by
  intro next time timer stepped blocked isTop
  cases step_transition stepped with
  | waits computed at_ counted | sleeps computed at_ notCounted finite =>
      cases blocked
      exact unhurried _ timer at_ isTop
  | skips computed at_ notCounted infinite => cases blocked

/-- A step that meets the condition computes a time that is not too long. -/
theorem Unhurried.step
    {state next : State Time Target} {action : Action Time Target}
    (punctual : Punctual state action = true)
    (brief : Brief state action) (unhurried : Unhurried state)
    (transition : Transition state action next) :
    Unhurried next := by
  by_cases foreign : action.isForeign = true
  · have same := transition.foreign_sameTimers foreign
    intro time timer at_ isTop
    rw [same.1] at at_
    rw [same.2.timerQueue] at isTop
    have clock : next.clock = state.clock := by
      rcases transition.foreign_clock_cases foreign with
        kept | ⟨elapsed, rfl, _, _⟩
      · exact kept
      · rw [Punctual, at_] at punctual
        cases punctual
    rw [clock]
    exact unhurried time timer at_ isTop
  cases transition with
  | wait time inUserCode =>
      intro computed timer at_ isTop
      have atTest : state.thread = .countTest computed := at_
      rw [atTest] at inUserCode
      cases inUserCode
  | swept now at_ notDue =>
      intro time timer atTest isTop
      cases atTest
      have later := notDue timer isTop
      exact
        (timeout_inTime_iff isTop later (punctual_fits punctual at_ isTop)).mpr
          (brief now timer at_ isTop later)
  | enter at_ | goesOn at_ _ | returns at_ _ | readClock at_
  | fires _ _ at_ _ _ | pops _ _ _ at_ _ | waits _ at_ _ | sleeps _ at_ _ _
  | skips _ at_ _ _ | dispatches _ _ _ _ _ _ at_ _ _ | timesOut _ at_ _
  | wakes _ at_ | returnsFromDispatch _ at_ =>
      intro time timer atTest isTop
      cases atTest
  | _ => exact absurd rfl foreign

omit [IsStrictOrderedRing Time] in
/-- A time that is too long is waited for. -/
theorem not_inTime_of_computed
    {state : State Time Target} {time : Nat} {timer : Timer Time}
    (at_ : state.thread = .countTest time)
    (isTop : state.timerQueue.top? = some timer)
    (finite : time ≠ INFINITE)
    (late : ¬ milliseconds state.clock + time ≤ milliseconds timer.timePoint) :
    ¬ InTime state := by
  intro inTime
  have stepped :
      state.step (.run .countTest) = some (state.countTest time) := by
    rw [State.step, at_]
    rfl
  apply late
  by_cases counted : state.overlappedCount ≠ 0
  · have waits :
        state.countTest time = { state with thread := .waiting time } :=
      if_pos counted
    rw [waits] at stepped
    exact
      inTime { state with thread := .waiting time } time timer stepped rfl
        isTop
  · have sleeps :
        state.countTest time = { state with thread := .sleeping time } :=
      (if_neg counted).trans (if_pos finite)
    rw [sleeps] at stepped
    exact
      inTime { state with thread := .sleeping time } time timer stepped rfl
        isTop

/-- A step that does not meet the condition computes a time too long. -/
theorem not_inTime_of_not_brief
    {state next : State Time Target} {action : Action Time Target}
    (punctual : Punctual state action = true)
    (notBrief : ¬ Brief state action)
    (transition : Transition state action next) :
    ¬ InTime next := by
  cases transition with
  | swept now at_ notDue =>
      simp only [Brief, not_forall] at notBrief
      rcases notBrief with ⟨reading, timer, same, isTop, later, long⟩
      rw [at_] at same
      cases same
      have fits := punctual_fits punctual at_ isTop
      refine not_inTime_of_computed rfl isTop ?_ ?_
      · exact (timeout_lt isTop later fits).1.ne
      · exact fun inTime =>
          long ((timeout_inTime_iff isTop later fits).mp inTime)
  | fires now timer at_ isTop due =>
      exfalso
      apply notBrief
      intro reading top same topIs later
      rw [at_] at same
      cases same
      rw [isTop] at topIs
      cases topIs
      exact absurd due (not_le.mpr later)
  | _ => exact absurd trivial notBrief

/--
Over a whole run, no wait is asked to last beyond the next deadline, if and
only if the callbacks of every sweep take no longer than the fraction of a
millisecond that is cut off when the wait is computed.
-/
theorem waits_in_time_iff
    {clock : Time} {sockets : Target → Socket}
    {actions : List (Action Time Target)} {last : State Time Target}
    (taken : (punctual clock sockets).run actions = some last) :
    (punctual clock sockets).Throughout InTime actions ↔
      (punctual clock sockets).Along Brief actions := by
  have initial : Unhurried (punctual clock sockets).init := by
    intro time timer at_
    cases at_
  have kept :
      ∀ state action next,
        Brief state action → Unhurried state →
          (punctual clock sockets).step state action = some next →
            Unhurried next := by
    intro state action next brief unhurried stepped
    have restricted := TransitionSystem.restrict_step _ stepped
    exact unhurried.step restricted.1 brief (step_transition restricted.2)
  have sound :
      ∀ state : State Time Target, Unhurried state → InTime state :=
    fun _ unhurried => unhurried.inTime
  have detected :
      ∀ state action next,
        ¬ Brief state action → Unhurried state →
          (punctual clock sockets).step state action = some next →
            ¬ InTime next := by
    intro state action next notBrief _ stepped
    have restricted := TransitionSystem.restrict_step _ stepped
    exact
      not_inTime_of_not_brief restricted.1 notBrief
        (step_transition restricted.2)
  exact
    TransitionSystem.throughout_iff_along _ initial kept sound detected taken

end Steps

/-- A timer whose callback registers two others, in the wrong order. -/
def chained : List (Action Int Unit) :=
  [.wait 1, .run .enter, .tick 2, .run .loopTest, .run .readClock, .run .sweep,
    .wait 3, .tick 4, .wait 0, .run .returnFromTimer, .run .sweep,
    .run .countTest, .tick 0, .run .wake, .run .loopTest, .run .readClock,
    .run .sweep, .run .returnFromTimer, .run .sweep]

theorem timers_fire_in_order_chained :
    ∃ state,
      (delaying 0 fun _ => { executor := true }).run chained = some state ∧
        state.firings =
          [(⟨1, 0⟩, 2), (⟨5, 1⟩, 6), (⟨6, 2⟩, 6)] ∧
        (delaying 0 fun _ => { executor := true }).Throughout InOrder
          chained :=
  ⟨_, rfl, rfl, timers_fire_in_order 0 _ chained⟩

/-- A callback of three seconds, with a deadline two seconds after it. -/
def overrunning : List (Action Int Unit) :=
  [.wait 0, .wait 5, .run .enter, .run .loopTest, .run .readClock, .run .sweep,
    .tick 3, .run .returnFromTimer, .run .sweep]

/-- Two seconds before the deadline the thread goes to sleep for five. -/
theorem overrunning_not_inTime :
    ¬ ∀ actions : List (Action Int Unit),
        (punctual 0 fun _ => { executor := true }).Throughout InTime
          actions := by
  intro always
  have inTime :=
    (always overrunning).last (punctual 0 fun _ => { executor := true }) rfl
  have inEight := inTime _ 5000 ⟨5, 1⟩ rfl rfl rfl
  exact absurd inEight (by decide)

theorem waits_in_time_iff_overrunning :
    ∃ last,
      (punctual 0 fun _ => { executor := true }).run overrunning = some last ∧
        last.clock = 3 ∧
        ((punctual 0 fun _ => { executor := true }).Throughout InTime
            overrunning ↔
          (punctual 0 fun _ => { executor := true }).Along Brief
            overrunning) :=
  ⟨_, rfl, rfl, waits_in_time_iff rfl⟩

end Netycat.Executor
