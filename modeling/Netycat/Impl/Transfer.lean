import Netycat.Corecat
import Mathlib.Data.UInt

/-!
# Reading and writing whole buffers

`Socket::readAll` and `Socket::writeAll` exist in two forms.  The
`ExceptionPtr` form is a loop around `::recv` or `::send`; the callback form is
a chain of overlapped operations in which the callback of one starts the next.
The read and the write side are the same code around a different call, so both
are written once here, over a channel that says what a transfer does to local
memory and to the peer, and each source function is that code at its channel.

The operating system is given by the list of what its calls come to.  A form
that has used up the list without ending is still waiting, so the states in the
middle of a transfer are the results on shorter lists.
-/

namespace Netycat.Impl

open Netycat.Corecat

/-- What transferring bytes at a pointer does, and the two failure messages. -/
structure Channel (World : Type*) where
  effect : Nat → Nat → World → World
  callFailed : String
  operationFailed : String

/-- A channel whose transfers compose: two adjacent ones are one long one. -/
structure Channel.Composes {World : Type*} (channel : Channel World) :
    Prop where
  effect_zero : ∀ pointer world, channel.effect pointer 0 world = world
  effect_add :
    ∀ pointer first second world,
      channel.effect (pointer + first) second
          (channel.effect pointer first world) =
        channel.effect pointer (first + second) world

/-- How far a form has come: its result if it has ended, and the calls used. -/
structure Attempt (World : Type*) where
  finished : Option (UInt64 × ExceptionPtr)
  used : Nat
  world : World

/-- Count one more call in front of the ones an attempt has used. -/
def Attempt.afterCall {World : Type*} (attempt : Attempt World) :
    Attempt World :=
  { attempt with used := attempt.used + 1 }

/-- What the user of a form sees: the count, and whether an error is reported. -/
def Attempt.report {World : Type*} (attempt : Attempt World) :
    Option (UInt64 × Bool) :=
  attempt.finished.map fun result => (result.1, result.2.isSome)

/-! ## The calls -/

/-- `int(count)`, the length given to `::recv` and `::send`. -/
def intLength (count : UInt64) : Int :=
  (count.toNat : Int).bmod (2 ^ 32)

/-- `u_long(count)`, the length in the `WSABUF` of `WSARecv` and `WSASend`. -/
def ulongLength (count : UInt64) : Nat :=
  count.toNat % 2 ^ 32

theorem intLength_le (count : UInt64) : intLength count ≤ count.toNat := by
  unfold intLength
  rw [Int.bmod_def]
  split <;> omega

theorem ulongLength_le (count : UInt64) :
    ulongLength count ≤ count.toNat :=
  Nat.mod_le _ _

/-- What one synchronous transfer returns and leaves behind. -/
structure CallResult (World : Type*) where
  value : UInt64
  e : ExceptionPtr
  world : World

/--
One synchronous transfer, `reply` being what the operating system returns: a
negative number is an error, any other number the count of bytes transferred.
-/
def Channel.call {World : Type*} (channel : Channel World)
    (pointer : Nat) (e : ExceptionPtr) (world : World) (reply : Int) :
    CallResult World :=
  if reply < 0 then
    ⟨0, some (IOException channel.callFailed), world⟩
  else
    ⟨UInt64.ofNat reply.toNat, e,
      channel.effect pointer (UInt64.ofNat reply.toNat).toNat world⟩

/-- What becomes of one overlapped transfer. -/
inductive OverlappedReply where
  | rejected
  | completed (success : Bool) (byteCount : UInt32)
deriving DecidableEq, Repr

/--
One overlapped transfer, up to the arguments its callback is called with: at
once when the call is rejected, otherwise by `IOExecutor::run` with what the
completion port delivers.
-/
def Channel.operation {World : Type*} (channel : Channel World)
    (pointer : Nat) (world : World) : OverlappedReply → CallResult World
  | .rejected =>
      ⟨0, some (IOException channel.operationFailed), world⟩
  | .completed false byteCount =>
      ⟨byteCount.toUInt64,
        some (IOException "::GetQueuedCompletionStatus failed"), world⟩
  | .completed true byteCount =>
      ⟨byteCount.toUInt64, none,
        channel.effect pointer byteCount.toNat world⟩

/-- The bytes a synchronous call transfers, if it succeeds. -/
def callOutcome (reply : Int) : Option UInt64 :=
  if reply < 0 then none else some (UInt64.ofNat reply.toNat)

/-- The bytes an overlapped operation transfers, if it succeeds. -/
def OverlappedReply.outcome : OverlappedReply → Option UInt64
  | .rejected => none
  | .completed false _ => none
  | .completed true byteCount => some byteCount.toUInt64

section Forms

variable {World : Type*} (channel : Channel World)

theorem Channel.call_of_none
    {pointer : Nat} {e : ExceptionPtr} {world : World} {reply : Int}
    (failed : callOutcome reply = none) :
    channel.call pointer e world reply =
      ⟨0, some (IOException channel.callFailed), world⟩ := by
  rw [callOutcome] at failed
  rw [Channel.call]
  by_cases negative : reply < 0
  · rw [if_pos negative]
  · simp [negative] at failed

theorem Channel.call_of_some
    {pointer : Nat} {e : ExceptionPtr} {world : World} {reply : Int}
    {moved : UInt64}
    (succeeded : callOutcome reply = some moved) :
    channel.call pointer e world reply =
      ⟨moved, e, channel.effect pointer moved.toNat world⟩ := by
  rw [callOutcome] at succeeded
  rw [Channel.call]
  by_cases negative : reply < 0
  · simp [negative] at succeeded
  · rw [if_neg negative, Option.some.injEq] at succeeded
    rw [if_neg negative, succeeded]

theorem Channel.operation_of_none
    (pointer : Nat) (world : World) {reply : OverlappedReply}
    (failed : reply.outcome = none) :
    (channel.operation pointer world reply).e.isSome = true := by
  cases reply with
  | rejected => rfl
  | completed success byteCount =>
      cases success with
      | false => rfl
      | true => simp [OverlappedReply.outcome] at failed

theorem Channel.operation_of_failed_world
    {pointer : Nat} {world : World} {reply : OverlappedReply}
    (failed : reply.outcome = none) :
    (channel.operation pointer world reply).world = world := by
  cases reply with
  | rejected => rfl
  | completed success byteCount =>
      cases success with
      | false => rfl
      | true => simp [OverlappedReply.outcome] at failed

theorem Channel.operation_of_some
    {pointer : Nat} {world : World} {reply : OverlappedReply}
    {moved : UInt64}
    (succeeded : reply.outcome = some moved) :
    channel.operation pointer world reply =
      ⟨moved, none, channel.effect pointer moved.toNat world⟩ := by
  cases reply with
  | rejected => simp [OverlappedReply.outcome] at succeeded
  | completed success byteCount =>
      cases success with
      | false => simp [OverlappedReply.outcome] at succeeded
      | true =>
          obtain rfl : byteCount.toUInt64 = moved := by
            simpa [OverlappedReply.outcome] using succeeded
          simp [Channel.operation]

/-! ## The loop and the chain -/

/--
The `ExceptionPtr` form: `p` and `n` are the loop's pointer and remaining
length, `count` the value it returns in the end.
-/
def Channel.loop (count : UInt64) :
    Nat → UInt64 → ExceptionPtr → World → List Int → Attempt World
  | _, n, e, world, [] =>
      ⟨if n = 0 then some (count, e) else none, 0, world⟩
  | p, n, e, world, reply :: rest =>
      if n = 0 then ⟨some (count, e), 0, world⟩
      else
        let ret := channel.call p e world reply
        if ret.e.isSome then ⟨some (0, ret.e), 1, ret.world⟩
        else
          (loop count (p + ret.value.toNat) (n - ret.value) ret.e
            ret.world rest).afterCall

/--
The callback form: an operation of length `n` at `buffer` is outstanding, and
its callback either calls `cb` or starts the next operation.
-/
def Channel.chain (count : UInt64) :
    Nat → UInt64 → World → List OverlappedReply → Attempt World
  | _, _, world, [] => ⟨none, 0, world⟩
  | buffer, n, world, reply :: rest =>
      let done := channel.operation buffer world reply
      if done.e.isSome ∨ n = done.value then
        ⟨some (count, done.e), 1, done.world⟩
      else
        (chain count (buffer + done.value.toNat) (n - done.value)
          done.world rest).afterCall

/-- The replies a loop at `n` can get: no call transfers more than its length. -/
def CallsAdmissible : UInt64 → List Int → Prop
  | _, [] => True
  | n, reply :: rest =>
      n ≠ 0 → 0 ≤ reply →
        reply ≤ intLength n ∧
          CallsAdmissible (n - UInt64.ofNat reply.toNat) rest

/-- The completions a chain at `n` can get, with the same restriction. -/
def CompletionsAdmissible : UInt64 → List OverlappedReply → Prop
  | _, [] => True
  | _, .rejected :: _ => True
  | _, .completed false _ :: _ => True
  | n, .completed true byteCount :: rest =>
      byteCount.toNat ≤ ulongLength n ∧
        (n ≠ byteCount.toUInt64 →
          CompletionsAdmissible (n - byteCount.toUInt64) rest)

/-! ### Where the bytes are -/

/--
Where an attempt that began with `n` bytes to move at `pointer` stands: it has
moved a prefix of them, and all of them if it ended without an error.
-/
structure Attempt.Moved
    (attempt : Attempt World) (count : UInt64)
    (pointer : Nat) (n : UInt64) (world : World) : Prop where
  partly :
    ∃ moved, moved ≤ n.toNat ∧
      attempt.world = channel.effect pointer moved world
  wholly :
    ∀ value, attempt.finished = some (value, none) →
      value = count ∧ attempt.world = channel.effect pointer n.toNat world

variable {channel}

theorem Attempt.Moved.still
    (composes : channel.Composes)
    {count : UInt64} {pointer : Nat} {n : UInt64} {world : World}
    {attempt : Attempt World}
    (unmoved : attempt.world = world)
    (notFinished :
      ∀ value, attempt.finished = some (value, none) →
        value = count ∧ n = 0) :
    attempt.Moved channel count pointer n world where
  partly := ⟨0, Nat.zero_le _, by rw [composes.effect_zero, unmoved]⟩
  wholly := by
    intro value ended
    rcases notFinished value ended with ⟨isCount, isZero⟩
    subst isZero
    exact ⟨isCount, by simp [composes.effect_zero, unmoved]⟩

/-- One successful transfer followed by an attempt for the rest. -/
theorem Attempt.Moved.afterTransfer
    (composes : channel.Composes)
    {count : UInt64} {pointer : Nat} {n moved : UInt64} {world : World}
    {attempt : Attempt World}
    (fits : moved.toNat ≤ n.toNat)
    (rest :
      attempt.Moved channel count (pointer + moved.toNat) (n - moved)
        (channel.effect pointer moved.toNat world)) :
    attempt.afterCall.Moved channel count pointer n world := by
  have remaining : (n - moved).toNat = n.toNat - moved.toNat :=
    UInt64.toNat_sub_of_le _ _ (UInt64.le_iff_toNat_le.mpr fits)
  constructor
  · rcases rest.partly with ⟨later, le, reached⟩
    refine ⟨moved.toNat + later, by omega, ?_⟩
    rw [← composes.effect_add]
    exact reached
  · intro value ended
    rcases rest.wholly value ended with ⟨isCount, reached⟩
    refine ⟨isCount, ?_⟩
    have whole : n.toNat = moved.toNat + (n - moved).toNat := by omega
    rw [whole, ← composes.effect_add]
    exact reached

theorem Channel.loop_moved
    (composes : channel.Composes)
    (count : UInt64) (p : Nat) (n : UInt64) (world : World)
    (replies : List Int)
    (admissible : CallsAdmissible n replies) :
    (channel.loop count p n none world replies).Moved
      channel count p n world := by
  induction replies generalizing p n world with
  | nil =>
      refine Attempt.Moved.still composes rfl fun value ended => ?_
      by_cases isZero : n = 0
      · simp_all [Channel.loop]
      · simp [Channel.loop, isZero] at ended
  | cons reply rest induction =>
      rw [Channel.loop]
      by_cases isZero : n = 0
      · rw [if_pos isZero]
        refine Attempt.Moved.still composes rfl fun value ended => ?_
        simp_all
      · rw [if_neg isZero]
        cases outcome : callOutcome reply with
        | none =>
            rw [channel.call_of_none outcome]
            refine Attempt.Moved.still composes rfl fun value ended => ?_
            simp at ended
        | some moved =>
            have nonnegative : ¬ reply < 0 := by
              intro negative
              simp [callOutcome, negative] at outcome
            rcases admissible isZero (Int.not_lt.mp nonnegative) with
              ⟨le, admissibleRest⟩
            have isMoved : UInt64.ofNat reply.toNat = moved := by
              simpa [callOutcome, nonnegative] using outcome
            have bound := intLength_le n
            have small : reply.toNat < 2 ^ 64 := by
              have := n.toNat_lt
              omega
            have fits : moved.toNat ≤ n.toNat := by
              rw [← isMoved, UInt64.toNat_ofNat_of_lt' small]
              omega
            rw [channel.call_of_some outcome]
            rw [isMoved] at admissibleRest
            exact
              Attempt.Moved.afterTransfer composes fits
                (induction _ _ _ admissibleRest)

theorem Channel.chain_moved
    (composes : channel.Composes)
    (count : UInt64) (buffer : Nat) (n : UInt64) (world : World)
    (completions : List OverlappedReply)
    (admissible : CompletionsAdmissible n completions) :
    (channel.chain count buffer n world completions).Moved
      channel count buffer n world := by
  induction completions generalizing buffer n world with
  | nil =>
      exact Attempt.Moved.still composes rfl fun value ended => by
        simp [Channel.chain] at ended
  | cons reply rest induction =>
      rw [Channel.chain]
      cases outcome : reply.outcome with
      | none =>
          have reports := channel.operation_of_none buffer world outcome
          rw [if_pos (Or.inl reports)]
          refine
            Attempt.Moved.still composes
              (channel.operation_of_failed_world outcome)
              fun value ended => ?_
          simp only [Option.some.injEq, Prod.mk.injEq] at ended
          rw [ended.2] at reports
          cases reports
      | some moved =>
          obtain ⟨byteCount, rfl, isMoved⟩ :
              ∃ byteCount, reply = .completed true byteCount ∧
                byteCount.toUInt64 = moved := by
            cases reply with
            | rejected => simp [OverlappedReply.outcome] at outcome
            | completed success byteCount =>
                cases success with
                | false => simp [OverlappedReply.outcome] at outcome
                | true =>
                    exact
                      ⟨byteCount, rfl, by
                        simpa [OverlappedReply.outcome] using outcome⟩
          rcases admissible with ⟨le, admissibleRest⟩
          have fits : moved.toNat ≤ n.toNat := by
            rw [← isMoved, UInt32.toNat_toUInt64]
            exact Nat.le_trans le (ulongLength_le n)
          rw [channel.operation_of_some outcome]
          by_cases isLast : n = moved
          · subst isLast
            rw [if_pos (Or.inr rfl)]
            exact
              { partly := ⟨n.toNat, Nat.le_refl _, rfl⟩
                wholly := fun value ended => by simp_all }
          · rw [if_neg (by simp [isLast])]
            rw [isMoved] at admissibleRest
            exact
              Attempt.Moved.afterTransfer composes fits
                (induction _ _ _ (admissibleRest isLast))

/-! ### Transfers that stay short -/

/-- What is left after one transfer still exceeds what the others move. -/
theorem remaining_exceeds
    {n moved : UInt64} {others : Nat}
    (short : moved.toNat + others < n.toNat) :
    others < (n - moved).toNat := by
  have fits : moved ≤ n := by
    rw [UInt64.le_iff_toNat_le]
    omega
  rw [UInt64.toNat_sub_of_le _ _ fits]
  omega

/--
Successful calls that together move less than `n` bytes leave the loop running.
-/
theorem Channel.loop_unfinished
    (channel : Channel World)
    (count : UInt64) (p : Nat) (n : UInt64) (world : World)
    {replies : List Int} {moved : List UInt64}
    (transferred : replies.map callOutcome = moved.map some)
    (short : (moved.map UInt64.toNat).sum < n.toNat) :
    (channel.loop count p n none world replies).finished = none := by
  have remaining : n ≠ 0 := by
    rintro rfl
    simp at short
  induction moved generalizing p n world replies with
  | nil =>
      obtain rfl : replies = [] := by simpa using transferred
      exact if_neg remaining
  | cons first others induction =>
      cases replies with
      | nil => simp at transferred
      | cons reply rest =>
          rw [List.map_cons, List.map_cons, List.cons.injEq] at transferred
          rw [List.map_cons, List.sum_cons] at short
          have exceeds := remaining_exceeds short
          have left : n - first ≠ 0 := by
            intro nothing
            simp [nothing] at exceeds
          rw [Channel.loop, if_neg remaining,
            channel.call_of_some transferred.1]
          exact induction _ _ _ transferred.2 exceeds left

theorem Channel.call_of_exception
    (channel : Channel World)
    (pointer : Nat) {e : ExceptionPtr} (world : World) (reply : Int)
    (before : e.isSome) :
    (channel.call pointer e world reply).e.isSome := by
  rw [Channel.call]
  split
  · rfl
  · exact before

/-- An exception that is already in `e` ends the loop at its first call. -/
theorem Channel.loop_of_exception
    (channel : Channel World)
    (count : UInt64) (p : Nat) (n : UInt64) {e : ExceptionPtr}
    (world : World) (reply : Int)
    (before : e.isSome) :
    (channel.loop count p n e world [reply]).finished.isSome := by
  have after := channel.call_of_exception p world reply before
  rw [Channel.loop]
  split
  · rfl
  · rw [if_pos after]
    rfl

/-- Successful operations that together move less than `n` bytes leave the
chain with one more outstanding. -/
theorem Channel.chain_unfinished
    (channel : Channel World)
    (count : UInt64) (buffer : Nat) (n : UInt64) (world : World)
    {completions : List OverlappedReply} {moved : List UInt64}
    (transferred :
      completions.map OverlappedReply.outcome = moved.map some)
    (short : (moved.map UInt64.toNat).sum < n.toNat) :
    (channel.chain count buffer n world completions).finished = none := by
  induction moved generalizing buffer n world completions with
  | nil =>
      obtain rfl : completions = [] := by simpa using transferred
      rfl
  | cons first others induction =>
      cases completions with
      | nil => simp at transferred
      | cons reply rest =>
          rw [List.map_cons, List.map_cons, List.cons.injEq] at transferred
          rw [List.map_cons, List.sum_cons] at short
          have exceeds := remaining_exceeds short
          have notLast : n ≠ first := by
            rintro rfl
            omega
          rw [Channel.chain, channel.operation_of_some transferred.1]
          rw [if_neg (by simp [notLast])]
          exact induction _ _ _ transferred.2 exceeds

/-! ### When the two forms report the same -/

/--
Every failed transfer comes after transfers that already sum to `count`, so it
is not reached.
-/
def ErrorsComeLate
    (count : UInt64) (outcomes : List (Option UInt64)) : Prop :=
  ∀ before after, outcomes = before ++ none :: after →
    ∃ early, early <+: before ∧
      (early.map fun outcome => outcome.getD 0).sum = count

theorem errorsComeLate_nil (count : UInt64) : ErrorsComeLate count [] := by
  intro before after split
  simp at split

theorem errorsComeLate_zero (outcomes : List (Option UInt64)) :
    ErrorsComeLate 0 outcomes :=
  fun before _ _ => ⟨[], before.nil_prefix, rfl⟩

theorem not_errorsComeLate_none
    {count : UInt64} (positive : count ≠ 0)
    (rest : List (Option UInt64)) :
    ¬ ErrorsComeLate count (none :: rest) := by
  intro late
  rcases late [] rest rfl with ⟨early, isPrefix, sum⟩
  rw [List.prefix_nil] at isPrefix
  subst isPrefix
  exact positive sum.symm

theorem errorsComeLate_some_iff
    {count moved : UInt64} (positive : count ≠ 0)
    (rest : List (Option UInt64)) :
    ErrorsComeLate count (some moved :: rest) ↔
      ErrorsComeLate (count - moved) rest := by
  constructor
  · intro late before after split
    rcases late (some moved :: before) after (by rw [split]; rfl) with
      ⟨early, isPrefix, sum⟩
    cases early with
    | nil => exact absurd sum.symm positive
    | cons head early =>
        rw [List.cons_prefix_cons] at isPrefix
        rcases isPrefix with ⟨rfl, isPrefix⟩
        refine ⟨early, isPrefix, ?_⟩
        rw [← sum, List.map_cons, List.sum_cons, Option.getD_some,
          UInt64.add_comm, UInt64.add_sub_cancel]
  · intro late before after split
    cases before with
    | nil => simp at split
    | cons head before =>
        rw [List.cons_append, List.cons.injEq] at split
        rcases split with ⟨rfl, split⟩
        rcases late before after split with ⟨early, isPrefix, sum⟩
        refine
          ⟨some moved :: early, List.cons_prefix_cons.mpr ⟨rfl, isPrefix⟩, ?_⟩
        rw [List.map_cons, List.sum_cons, sum, Option.getD_some,
          UInt64.add_comm, UInt64.sub_add_cancel]

variable (channel)

/-- Both forms are done with nothing left to move, or still at the same place. -/
theorem Channel.loop_agrees_chain_iff
    {count : UInt64} (positive : count ≠ 0)
    (pointer buffer : Nat) {n : UInt64} (remaining : n ≠ 0)
    (world world' : World)
    (replies : List Int) (completions : List OverlappedReply)
    (same :
      replies.map callOutcome = completions.map OverlappedReply.outcome) :
    ((channel.loop count pointer n none world replies).report =
          (channel.chain count buffer n world' completions).report ∧
        (channel.loop count pointer n none world replies).used =
          (channel.chain count buffer n world' completions).used) ↔
      ErrorsComeLate n (replies.map callOutcome) := by
  induction replies generalizing pointer buffer n world world' completions with
  | nil =>
      cases completions with
      | nil =>
          simp [Channel.loop, Channel.chain, Attempt.report, remaining,
            errorsComeLate_nil]
      | cons reply completions => simp at same
  | cons reply replies induction =>
      cases completions with
      | nil => simp at same
      | cons completion completions =>
          rw [List.map_cons, List.map_cons, List.cons.injEq] at same
          rcases same with ⟨sameFirst, sameRest⟩
          rw [Channel.loop, Channel.chain]
          rw [if_neg remaining, List.map_cons]
          cases outcome : callOutcome reply with
          | none =>
              rw [outcome] at sameFirst
              have reports :=
                channel.operation_of_none buffer world' sameFirst.symm
              rw [channel.call_of_none outcome, if_pos (Or.inl reports)]
              have different : ¬ (0 = count) := fun same => positive same.symm
              simp [Attempt.report, reports, different,
                not_errorsComeLate_none remaining]
          | some moved =>
              rw [outcome] at sameFirst
              rw [channel.call_of_some outcome,
                channel.operation_of_some sameFirst.symm,
                errorsComeLate_some_iff remaining]
              by_cases isLast : n = moved
              · subst isLast
                have ended : ∀ at' world,
                    channel.loop count at' 0 none world replies =
                      ⟨some (count, none), 0, world⟩ := by
                  intro at' world
                  cases replies <;> simp [Channel.loop]
                simp [ended, Attempt.report, Attempt.afterCall,
                  errorsComeLate_zero]
              · have left : n - moved ≠ 0 := by
                  intro isZero
                  rw [UInt64.sub_eq_iff_eq_add, UInt64.zero_add] at isZero
                  exact isLast isZero
                simpa [isLast, Attempt.report, Attempt.afterCall] using
                  induction (pointer + moved.toNat) (buffer + moved.toNat)
                    left _ _ completions sameRest

/-- From the start: an empty transfer never agrees, any other one as above. -/
theorem Channel.agree_iff
    (count : UInt64) (buffer : Nat) (world : World)
    (replies : List Int) (completions : List OverlappedReply)
    (same :
      replies.map callOutcome = completions.map OverlappedReply.outcome) :
    ((channel.loop count buffer count none world replies).report =
          (channel.chain count buffer count world completions).report ∧
        (channel.loop count buffer count none world replies).used =
          (channel.chain count buffer count world completions).used) ↔
      count ≠ 0 ∧ ErrorsComeLate count (replies.map callOutcome) := by
  by_cases isZero : count = 0
  · subst isZero
    cases completions with
    | nil =>
        cases replies with
        | nil => simp [Channel.loop, Channel.chain, Attempt.report]
        | cons reply replies => simp at same
    | cons completion completions =>
        have used :
            (channel.chain 0 buffer 0 world
              (completion :: completions)).used ≠ 0 := by
          unfold Channel.chain
          dsimp only
          split_ifs <;> simp [Attempt.afterCall]
        cases replies with
        | nil => simp at same
        | cons reply replies =>
            simp [Channel.loop, used.symm]
  · rw [channel.loop_agrees_chain_iff isZero buffer buffer isZero world world
      replies completions same]
    simp [isZero]

end Forms

end Netycat.Impl
