import Netycat.Executor.Deadlines
import Mathlib.Data.Rat.Floor

/-!
# The timeout of a blocking call

A pass of `run` that calls no timer callback reads the clock, converts the
milliseconds to the next deadline to a `DWORD`, and hands the number to
`::GetQueuedCompletionStatus` or `::Sleep`.  One `DWORD` is no duration:
`INFINITE` makes the first wait without limit, and the source tests for it to
leave the second out.

The conversion drops the fraction.  Of a duration whose integral part is no
`DWORD` the language does not say what becomes.  The model keeps the low bits;
here the conversion is a parameter of `run`, and all are considered that agree
on the durations that fit.
-/

namespace Netycat.Executor

open Netycat.Corecat Netycat.Impl

section Conversions

variable {Time : Type*} [Ring Time] [LinearOrder Time] [FloorRing Time]

/-- A conversion to `DWORD`. -/
structure ToDWORD (Time : Type*) [Ring Time] [LinearOrder Time]
    [FloorRing Time] where
  convert : Time → Nat
  convert_lt : ∀ value, convert value < 2 ^ 32
  convert_eq :
    ∀ value, 0 ≤ value → ⌊value⌋ < 2 ^ 32 → convert value = ⌊value⌋.toNat

/-- A number of milliseconds that lasts for a while, and no longer than what
remains. -/
def IsTimeout (remaining : Time) (time : Nat) : Prop :=
  time ≠ INFINITE ∧ (time : Time) ≤ remaining

/-- The conversion that keeps the low bits. -/
def ToDWORD.lowBits : ToDWORD Time where
  convert := fun value => ⌊value⌋.toNat % 2 ^ 32
  convert_lt := fun _ => Nat.mod_lt _ (by decide)
  convert_eq := by
    intro value nonnegative below
    apply Nat.mod_eq_of_lt
    omega

/-- The conversion that has one answer for all that does not fit. -/
def ToDWORD.constant (other : Nat) (fits : other < 2 ^ 32) : ToDWORD Time where
  convert := fun value =>
    if 0 ≤ ⌊value⌋ ∧ ⌊value⌋ < 2 ^ 32 then ⌊value⌋.toNat else other
  convert_lt := by
    intro value
    split
    · omega
    · exact fits
  convert_eq := by
    intro value nonnegative below
    exact if_pos ⟨Int.floor_nonneg.mpr nonnegative, below⟩

variable [IsStrictOrderedRing Time]

/-- A number that is at most the whole milliseconds is not too long. -/
theorem isTimeout_iff_of_le
    {remaining : Time}
    {time : Nat}
    (nonnegative : 0 ≤ remaining)
    (short : time ≤ ⌊remaining⌋.toNat) :
    IsTimeout remaining time ↔ time ≠ INFINITE := by
  have whole : (⌊remaining⌋.toNat : Time) ≤ remaining := by
    have floor := Int.toNat_of_nonneg (Int.floor_nonneg.mpr nonnegative)
    rw [← Int.cast_natCast, floor]
    exact Int.floor_le remaining
  have inTime : (time : Time) ≤ remaining :=
    (Nat.cast_le.mpr short).trans whole
  exact and_iff_left inTime

theorem lowBits_isTimeout_iff
    {remaining : Time}
    (nonnegative : 0 ≤ remaining) :
    IsTimeout remaining (ToDWORD.lowBits.convert remaining) ↔
      ⌊remaining⌋.toNat % 2 ^ 32 ≠ INFINITE :=
  isTimeout_iff_of_le nonnegative (Nat.mod_le _ _)

/-- What every conversion makes a timeout of are the durations below
`INFINITE`. -/
theorem every_conversion_isTimeout_iff
    {remaining : Time}
    (nonnegative : 0 ≤ remaining) :
    (∀ conversion : ToDWORD Time,
        IsTimeout remaining (conversion.convert remaining)) ↔
      remaining < (INFINITE : Nat) := by
  have whole : ⌊remaining⌋ < (INFINITE : Nat) ↔ remaining < (INFINITE : Nat) :=
    Int.floor_lt.trans (by rw [Int.cast_natCast])
  have floor : 0 ≤ ⌊remaining⌋ := Int.floor_nonneg.mpr nonnegative
  have top : INFINITE + 1 = 2 ^ 32 := rfl
  rw [← whole]
  constructor
  · intro every
    by_contra reached
    apply (every (.constant INFINITE (by decide))).1
    by_cases inside : ⌊remaining⌋ < 2 ^ 32
    · rw [ToDWORD.convert_eq _ remaining nonnegative inside]
      omega
    · exact if_neg fun range => inside range.2
  · intro below conversion
    rw [conversion.convert_eq remaining nonnegative (by omega),
      isTimeout_iff_of_le nonnegative le_rfl]
    omega

end Conversions

section Passes

variable {Time Target : Type*}
variable [Ring Time] [LinearOrder Time] [FloorRing Time] [DecidableEq Target]

/-! ## The conversion as a parameter -/

/-- `timeout`, with any conversion. -/
def timeoutUnder (conversion : ToDWORD Time) (timerQueue : TimerQueue Time)
    (now : Time) : Nat :=
  match timerQueue.top? with
  | some timer => conversion.convert (milliseconds (timer.timePoint - now))
  | none => INFINITE

/-- The conversion of the model is one of them. -/
theorem timeoutUnder_lowBits (timerQueue : TimerQueue Time) (now : Time) :
    timeoutUnder .lowBits timerQueue now = timeout timerQueue now := by
  unfold timeoutUnder
  cases isTop : timerQueue.top? with
  | some timer => exact (timeout_of_top now isTop).symm
  | none => simp only [timeout, isTop]

namespace State

/-- `sweep`, with any conversion. -/
def sweepUnder (conversion : ToDWORD Time) (state : State Time Target)
    (now : Time) : State Time Target :=
  let ended :=
    { state with
        thread := .countTest (timeoutUnder conversion state.timerQueue now) }
  match state.timerQueue.top? with
  | some timer =>
      if timer.timePoint ≤ now then
        { state with
            thread := .firing now timer
            events := state.events ++ [.fired timer now] }
      else ended
  | none => ended

/-- A step of any party, with any conversion. -/
def stepUnder (conversion : ToDWORD Time) (state : State Time Target)
    (action : Action Time Target) : Option (State Time Target) :=
  match action, state.thread with
  | .run .sweep, .sweeping now => some (state.sweepUnder conversion now)
  | _, _ => state.step action

omit [DecidableEq Target] in
theorem sweepUnder_lowBits (state : State Time Target) (now : Time) :
    state.sweepUnder .lowBits now = state.sweep now := by
  unfold sweepUnder sweep
  cases state.timerQueue.top? with
  | some timer | none => simp only [timeoutUnder_lowBits]

theorem stepUnder_lowBits
    (state : State Time Target)
    (action : Action Time Target) :
    state.stepUnder .lowBits action = state.step action := by
  unfold stepUnder
  split
  · next now at_ =>
      rw [sweepUnder_lowBits, step, at_]
      rfl
  · rfl

end State

/-- The executor with every party around it, with any conversion. -/
def systemUnder (conversion : ToDWORD Time) (clock : Time)
    (sockets : Target → Socket) :
    TransitionSystem (State Time Target) (Action Time Target) where
  init := .initial clock sockets
  step := State.stepUnder conversion

theorem systemUnder_lowBits (clock : Time) (sockets : Target → Socket) :
    systemUnder .lowBits clock sockets = system clock sockets := by
  unfold systemUnder system
  congr
  funext state action
  exact state.stepUnder_lowBits action

/-! ## The others -/

namespace State

variable (state : State Time Target) (thread : Thread Time Target)

/-- The state with the thread somewhere else. -/
def withThread : State Time Target :=
  { state with thread := thread }

omit [Ring Time] [FloorRing Time] in
theorem start_withThread (self : Target) (operation : Operation Target) :
    (state.withThread thread).start self operation =
      (state.start self operation).withThread thread := by
  unfold start
  simp only [withThread]
  cases operation.start (state.sockets self) with
  | mk socket started =>
      cases started with
      | error e | ok closure => rfl

omit [Ring Time] [FloorRing Time] [DecidableEq Target] in
theorem advance_withThread
    (others : List (Task Target))
    (succeeds : Bool)
    (task : Task Target) :
    (state.withThread thread).advance others succeeds task =
      (state.advance others succeeds task).withThread thread := by
  cases task with
  | lookingUp | endingWork => rfl
  | posting id worker | submitting id index closure =>
      cases succeeds with
      | true | false => rfl

/-- The others neither look at the thread nor move it. -/
theorem step_withThread
    {action : Action Time Target}
    (foreign : action.isForeign = true) :
    (state.withThread thread).step action =
      (state.step action).map fun next => next.withThread thread := by
  cases action with
  | tick elapsed =>
      simp only [step]
      split
      · rfl
      · rfl
  | endWork =>
      have same : (state.withThread thread).work = state.work := rfl
      simp only [step, same]
      split
      · rfl
      · rfl
  | beginWork | resolve | execute | useSocket target socket => rfl
  | start self operation =>
      exact congrArg some (state.start_withThread thread self operation)
  | advance index succeeds =>
      simp only [step, Option.map_map]
      exact
        Option.map_congr fun taken _ =>
          state.advance_withThread thread taken.2 succeeds taken.1
  | complete index success byteCount =>
      simp only [step, Option.map_map]
      rfl
  | wait time | run move => cases foreign

theorem stepUnder_sweep
    (conversion : ToDWORD Time)
    {state : State Time Target}
    {now : Time}
    (at_ : state.thread = .sweeping now) :
    state.stepUnder conversion (.run .sweep) =
      some (state.sweepUnder conversion now) := by
  unfold stepUnder
  rw [at_]

omit [DecidableEq Target] in
/-- A timer that is not due ends the inner loop. -/
theorem sweepUnder_of_lt
    (conversion : ToDWORD Time)
    {state : State Time Target}
    {now : Time}
    {timer : Timer Time}
    (isTop : state.timerQueue.top? = some timer)
    (later : now < timer.timePoint) :
    state.sweepUnder conversion now =
      state.withThread
        (.countTest
          (conversion.convert (milliseconds (timer.timePoint - now)))) := by
  simp only [sweepUnder, timeoutUnder, isTop, if_neg (not_le.mpr later),
    withThread]

theorem stepUnder_of_foreign
    {action : Action Time Target}
    (foreign : action.isForeign = true)
    (conversion : ToDWORD Time) :
    state.stepUnder conversion action = state.step action := by
  cases action with
  | wait time | run move => cases foreign
  | _ => rfl

end State

/-- What the others do is the same under every conversion and wherever the
thread is. -/
theorem foreign_runFrom
    (conversion : ToDWORD Time)
    (clock : Time)
    (sockets : Target → Socket)
    {actions : List (Action Time Target)}
    (foreign : ∀ action ∈ actions, action.isForeign = true)
    (state : State Time Target)
    (thread : Thread Time Target) :
    (systemUnder conversion clock sockets).runFrom (state.withThread thread)
        actions =
      ((system clock sockets).runFrom state actions).map fun last =>
        last.withThread thread := by
  induction actions generalizing state with
  | nil => rfl
  | cons action rest induction =>
      have first := foreign action List.mem_cons_self
      have others :=
        induction fun other inside =>
          foreign other (List.mem_cons_of_mem action inside)
      rw [TransitionSystem.runFrom, TransitionSystem.runFrom]
      simp only [systemUnder, system, State.stepUnder_of_foreign _ first,
        State.step_withThread _ _ first]
      cases state.step action with
      | none => rfl
      | some next => exact others next

/-- The others move neither the thread nor the timers. -/
theorem foreign_keeps
    {clock : Time}
    {sockets : Target → Socket}
    {actions : List (Action Time Target)}
    {state last : State Time Target}
    (foreign : ∀ action ∈ actions, action.isForeign = true)
    (taken : (system clock sockets).runFrom state actions = some last) :
    last.thread = state.thread ∧ last.timerQueue = state.timerQueue := by
  induction actions generalizing state with
  | nil =>
      cases taken
      exact ⟨rfl, rfl⟩
  | cons action rest induction =>
      rw [TransitionSystem.runFrom] at taken
      rcases Option.bind_eq_some_iff.mp taken with ⟨next, stepped, others⟩
      have same :=
        (step_transition stepped).foreign_sameTimers
          (foreign action List.mem_cons_self)
      have further :=
        induction
          (fun other inside =>
            foreign other (List.mem_cons_of_mem action inside))
          others
      exact
        ⟨further.1.trans same.1, further.2.trans same.2.timerQueue⟩

/-! ## Passes -/

/-- A pass of the thread of `run` without a timer callback, from the clock
reading to the call at its end.  The lists are what the others do meanwhile. -/
def quietPass (between after : List (Action Time Target)) :
    List (Action Time Target) :=
  .run .readClock ::
    (between ++ .run .sweep :: (after ++ [.run .countTest]))

/-- The thread is in a call that lasts for a timeout. -/
def Blocks (state : State Time Target) (remaining : Time) : Prop :=
  ∃ time, state.thread.blocked = some time ∧ IsTimeout remaining time

omit [FloorRing Time] [DecidableEq Target] in
/-- What the test at the end makes of a timeout. -/
theorem countTest_blocks_iff
    (state : State Time Target)
    (remaining : Time)
    (time : Nat) :
    Blocks (state.countTest time) remaining ↔ IsTimeout remaining time := by
  unfold Blocks State.countTest
  split
  · simp [Thread.blocked]
  · split
    · simp [Thread.blocked]
    · next infinite =>
        constructor
        · rintro ⟨_, blocked, _⟩
          cases blocked
        · exact fun isTimeout => absurd isTimeout.1 infinite

/-- What such a pass does up to the test at its end: the timer on top is not
due, and it stays on top while the others are at work. -/
theorem quietPass_cases
    {clock : Time}
    {sockets : Target → Socket}
    {state last : State Time Target}
    {timer : Timer Time}
    {between after : List (Action Time Target)}
    (isTop : state.timerQueue.top? = some timer)
    (foreignBetween : ∀ action ∈ between, action.isForeign = true)
    (foreignAfter : ∀ action ∈ after, action.isForeign = true)
    (taken :
      (system clock sockets).runFrom state (quietPass between after) =
        some last) :
    state.step (.run .readClock) =
        some (state.withThread (.sweeping state.clock)) ∧
      state.clock < timer.timePoint ∧
      ∃ swept tested : State Time Target,
        (system clock sockets).runFrom
            (state.withThread (.sweeping state.clock)) between = some swept ∧
          swept.thread = .sweeping state.clock ∧
          swept.timerQueue.top? = some timer ∧
          (system clock sockets).runFrom
              (swept.withThread
                (.countTest (timeout swept.timerQueue state.clock)))
              after =
            some tested := by
  rw [quietPass, TransitionSystem.runFrom] at taken
  rcases Option.bind_eq_some_iff.mp taken with ⟨read, reads, taken⟩
  rw [TransitionSystem.runFrom_append] at taken
  rcases Option.bind_eq_some_iff.mp taken with ⟨swept, others, taken⟩
  rw [TransitionSystem.runFrom] at taken
  rcases Option.bind_eq_some_iff.mp taken with ⟨computed, sweeps, taken⟩
  rw [TransitionSystem.runFrom_append] at taken
  rcases Option.bind_eq_some_iff.mp taken with ⟨tested, others', taken⟩
  rcases Option.bind_eq_some_iff.mp taken with ⟨final, tests, _⟩
  have kept := foreign_keeps foreignBetween others
  have testing := (foreign_keeps foreignAfter others').1
  have reading : Transition state (.run .readClock) read :=
    step_transition reads
  have sweep : Transition swept (.run .sweep) computed :=
    step_transition sweeps
  have test : Transition tested (.run .countTest) final :=
    step_transition tests
  cases reading with
  | readClock begins =>
      cases sweep with
      | fires now due at_ _ _ =>
          cases test with
          | waits _ at_ _ | sleeps _ at_ _ _ | skips _ at_ _ _ =>
              cases testing.symm.trans at_
      | swept now at_ notDue =>
          cases kept.1.symm.trans at_
          rw [kept.2] at notDue
          exact
            ⟨reads, notDue timer isTop, swept, tested, others, at_,
              kept.2 ▸ isTop, others'⟩

/-- Under every conversion the pass goes on in the same way, and the test at its
end is made with what becomes of the milliseconds to the next deadline. -/
theorem quietPass_runs
    {clock : Time}
    {sockets : Target → Socket}
    {state last : State Time Target}
    {timer : Timer Time}
    {between after : List (Action Time Target)}
    (isTop : state.timerQueue.top? = some timer)
    (foreignBetween : ∀ action ∈ between, action.isForeign = true)
    (foreignAfter : ∀ action ∈ after, action.isForeign = true)
    (taken :
      (system clock sockets).runFrom state (quietPass between after) =
        some last) :
    ∃ tested : State Time Target,
      ∀ conversion : ToDWORD Time,
        (systemUnder conversion clock sockets).runFrom state
            (quietPass between after) =
          some
            (tested.countTest
              (conversion.convert
                (milliseconds (timer.timePoint - state.clock)))) := by
  rcases quietPass_cases isTop foreignBetween foreignAfter taken with
    ⟨reads, later, swept, tested, others, at_, isTop', others'⟩
  refine ⟨tested, fun conversion => ?_⟩
  let time := conversion.convert (milliseconds (timer.timePoint - state.clock))
  have same : swept.withThread (.sweeping state.clock) = swept := by
    rw [← at_]
    rfl
  have first :=
    foreign_runFrom conversion clock sockets foreignBetween
      (state.withThread (.sweeping state.clock)) (.sweeping state.clock)
  rw [others, Option.map_some, same] at first
  have sweeps :
      swept.stepUnder conversion (.run .sweep) =
        some (swept.withThread (.countTest time)) := by
    rw [State.stepUnder_sweep conversion at_,
      State.sweepUnder_of_lt conversion isTop' later]
  have second :=
    foreign_runFrom conversion clock sockets foreignAfter
      (swept.withThread (.countTest (timeout swept.timerQueue state.clock)))
      (.countTest time)
  rw [others', Option.map_some] at second
  rw [quietPass, TransitionSystem.runFrom]
  refine Option.bind_eq_some_iff.mpr ⟨_, reads, ?_⟩
  rw [TransitionSystem.runFrom_append]
  refine Option.bind_eq_some_iff.mpr ⟨_, first, ?_⟩
  rw [TransitionSystem.runFrom]
  refine Option.bind_eq_some_iff.mpr ⟨_, sweeps, ?_⟩
  rw [TransitionSystem.runFrom_append]
  exact Option.bind_eq_some_iff.mpr ⟨_, second, rfl⟩

variable [IsStrictOrderedRing Time]

/-- A pass without a timer callback ends in a call that lasts for a while, and
not beyond the next deadline, exactly if the whole milliseconds to it do not
come out as `INFINITE` when the conversion keeps their low bits.  The pass ends
so under every conversion exactly for deadlines that are less than `INFINITE`
milliseconds away. -/
theorem quietPass_blocks_iff
    {clock : Time}
    {sockets : Target → Socket}
    {state last : State Time Target}
    {timer : Timer Time}
    {between after : List (Action Time Target)}
    (isTop : state.timerQueue.top? = some timer)
    (foreignBetween : ∀ action ∈ between, action.isForeign = true)
    (foreignAfter : ∀ action ∈ after, action.isForeign = true)
    (taken :
      (system clock sockets).runFrom state (quietPass between after) =
        some last) :
    (Blocks last (milliseconds (timer.timePoint - state.clock)) ↔
        ⌊milliseconds (timer.timePoint - state.clock)⌋.toNat % 2 ^ 32 ≠
          INFINITE) ∧
      ((∀ conversion : ToDWORD Time,
          ∃ ended,
            (systemUnder conversion clock sockets).runFrom state
                (quietPass between after) = some ended ∧
              Blocks ended (milliseconds (timer.timePoint - state.clock))) ↔
        milliseconds (timer.timePoint - state.clock) < (INFINITE : Nat)) := by
  have later :=
    (quietPass_cases isTop foreignBetween foreignAfter taken).2.1
  rcases quietPass_runs isTop foreignBetween foreignAfter taken with
    ⟨tested, runs⟩
  have nonnegative : 0 ≤ milliseconds (timer.timePoint - state.clock) :=
    mul_nonneg (sub_nonneg.mpr later.le) (Nat.cast_nonneg 1000)
  constructor
  · have lowBits := runs .lowBits
    rw [systemUnder_lowBits, taken, Option.some.injEq] at lowBits
    rw [lowBits, countTest_blocks_iff, lowBits_isTimeout_iff nonnegative]
  · rw [← every_conversion_isTimeout_iff nonnegative]
    refine forall_congr' fun conversion => ?_
    rw [runs conversion, ← countTest_blocks_iff tested]
    exact ⟨fun ⟨ended, same, blocks⟩ => by cases same; exact blocks,
      fun blocks => ⟨_, rfl, blocks⟩⟩

end Passes

/-- A timer is registered whose deadline is as many milliseconds away as
`INFINITE` is, and `run` is entered. -/
def farDeadline : List (Action ℚ Unit) :=
  [.wait (4294967295 / 1000), .run .enter, .run .loopTest]

/-- With no operation outstanding the thread does not sleep, and with one it
waits without limit. -/
theorem farDeadline_not_blocks :
    (∃ state last,
        (system 0 fun _ => { executor := true }).run farDeadline =
            some state ∧
          (system 0 fun _ => { executor := true }).runFrom state
              (quietPass [] []) = some last ∧
          last.thread = .loopTest) ∧
      (∃ state last,
        (system 0 fun _ => { executor := true }).run
              (.beginWork :: farDeadline) = some state ∧
          (system 0 fun _ => { executor := true }).runFrom state
              (quietPass [] []) = some last ∧
          last.thread = .waiting INFINITE) ∧
      ¬∀ (actions : List (Action ℚ Unit)) (state last : State ℚ Unit)
          (timer : Timer ℚ),
          (system 0 fun _ => { executor := true }).run actions = some state →
            state.timerQueue.top? = some timer →
              (system 0 fun _ => { executor := true }).runFrom state
                  (quietPass [] []) = some last →
                Blocks last
                  (milliseconds (timer.timePoint - state.clock)) := by
  have entered :
      ∃ state,
        (system 0 fun _ => { executor := true }).run farDeadline =
            some state ∧
          state.timerQueue.top? = some ⟨0 + 4294967295 / 1000, 0⟩ ∧
          ((system 0 fun _ => { executor := true }).runFrom state
              (quietPass [] [])).map State.thread = some .loopTest :=
    ⟨_, rfl, rfl, by decide +kernel⟩
  have working :
      ∃ state,
        (system 0 fun _ => { executor := true }).run
              (.beginWork :: farDeadline) = some state ∧
          ((system 0 fun _ => { executor := true }).runFrom state
              (quietPass [] [])).map State.thread = some (.waiting INFINITE) :=
    ⟨_, rfl, by decide +kernel⟩
  rcases entered with ⟨state, reached, isTop, skips⟩
  rcases Option.map_eq_some_iff.mp skips with ⟨last, taken, at_⟩
  rcases working with ⟨state', reached', waits⟩
  rcases Option.map_eq_some_iff.mp waits with ⟨last', taken', at'⟩
  refine
    ⟨⟨state, last, reached, taken, at_⟩,
      ⟨state', last', reached', taken', at'⟩, ?_⟩
  intro always
  rcases always farDeadline state last _ reached isTop taken with
    ⟨time, blocked, _⟩
  rw [at_] at blocked
  cases blocked

/-- A deadline five seconds ahead, with others at work during the pass. -/
theorem quietPass_blocks_iff_five_seconds :
    ∃ state last : State Int Unit,
      (system 0 fun _ => { executor := true }).run
          [.wait 5, .run .enter, .run .loopTest] = some state ∧
        (system 0 fun _ => { executor := true }).runFrom state
            (quietPass [.tick 1] [.execute]) = some last ∧
        ((Blocks last (milliseconds (5 - state.clock)) ↔
            ⌊milliseconds (5 - state.clock)⌋.toNat % 2 ^ 32 ≠ INFINITE) ∧
          ((∀ conversion : ToDWORD Int,
              ∃ ended,
                (systemUnder conversion 0 fun _ => { executor := true }).runFrom
                    state (quietPass [.tick 1] [.execute]) = some ended ∧
                  Blocks ended (milliseconds (5 - state.clock))) ↔
            milliseconds (5 - state.clock) < (INFINITE : Nat))) :=
  ⟨_, _, rfl, rfl,
    @quietPass_blocks_iff Int Unit _ _ _ _ _ 0 (fun _ => { executor := true })
      _ _ ⟨5, 0⟩ [.tick 1] [.execute] rfl (by simp [Action.isForeign])
      (by simp [Action.isForeign]) rfl⟩

end Netycat.Executor
