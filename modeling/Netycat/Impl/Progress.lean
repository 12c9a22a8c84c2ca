import Netycat.Impl.ReadWriteAll

/-!
# Progress of whole transfers

A service provider that always transfers something, but never more than it is
asked for, decides with how many calls a buffer is transferred.  The forms ask
for what is left, cut down to the type of the length: an `int` in the
`ExceptionPtr` form and 32 unsigned bits in the callback form.  What is left
after a call that was asked for the low bits still has its high bits, so a
transfer of too many bytes never ends, whatever the provider does.
-/

namespace Netycat.Impl

open Netycat.Corecat

/-- A provider of transfers: what the call with a number transfers when it is
asked for a length. -/
structure Provider where
  transfer : Nat → Nat → Nat
  positive : ∀ number length, 0 < length → 0 < transfer number length
  limited : ∀ number length, transfer number length ≤ length

namespace Provider

/-- The provider after its first call. -/
def later (provider : Provider) : Provider where
  transfer := fun number => provider.transfer (number + 1)
  positive := fun number => provider.positive (number + 1)
  limited := fun number => provider.limited (number + 1)

/-- What the first call transfers for a length that has been handed over. -/
def moved (provider : Provider) (length : Int) : Nat :=
  provider.transfer 0 length.toNat

/-- What is left after a number of calls that are asked for the rest. -/
def remaining (length : UInt64 → Int) :
    Provider → UInt64 → Nat → UInt64
  | _, n, 0 => n
  | provider, n, calls + 1 =>
      remaining length provider.later
        (n - UInt64.ofNat (provider.moved (length n))) calls

/-- What `::recv` or `::send` returns: an error for a negative length. -/
def reply (provider : Provider) (n : UInt64) : Int :=
  if intLength n < 0 then -1 else (provider.moved (intLength n) : Int)

/-- What the calls of the loop return. -/
def replies : Provider → UInt64 → Nat → List Int
  | _, _, 0 => []
  | provider, n, calls + 1 =>
      provider.reply n ::
        replies provider.later
          (n - UInt64.ofNat (provider.moved (intLength n))) calls

/-- What the completion port delivers for an operation. -/
def completion (provider : Provider) (n : UInt64) : OverlappedReply :=
  .completed true (UInt32.ofNat (provider.moved (ulongLength n)))

/-- What it delivers for the operations of the chain. -/
def completions : Provider → UInt64 → Nat → List OverlappedReply
  | _, _, 0 => []
  | provider, n, calls + 1 =>
      provider.completion n ::
        completions provider.later
          (n - UInt64.ofNat (provider.moved (ulongLength n))) calls

/-- Every call for what is left is asked for some of it. -/
def AsksForSome (length : UInt64 → Int) (provider : Provider)
    (count : UInt64) : Prop :=
  ∀ calls, provider.remaining length count calls ≠ 0 →
    1 ≤ length (provider.remaining length count calls) ∧
      length (provider.remaining length count calls) ≤
        (provider.remaining length count calls).toNat

theorem moved_le (provider : Provider) {length : Int} {bound : Nat}
    (below : length ≤ bound) :
    provider.moved length ≤ bound := by
  have limited := provider.limited 0 length.toNat
  rw [moved]
  omega

theorem moved_pos (provider : Provider) {length : Int}
    (something : 1 ≤ length) :
    0 < provider.moved length := by
  have positive : 0 < length.toNat := by omega
  exact provider.positive 0 length.toNat positive

end Provider

/-! ## The lengths -/

/-- The `int` is what the low 32 bits are as a signed number. -/
theorem intLength_eq (n : UInt64) :
    intLength n =
      if ulongLength n < 2 ^ 31 then (ulongLength n : Int)
      else (ulongLength n : Int) - 2 ^ 32 := by
  unfold intLength ulongLength
  rewrite [Int.bmod_def]
  split
  · split
    · omega
    · omega
  · split
    · omega
    · omega

theorem ulongLength_of_lt
    {n : UInt64} (small : n.toNat < 2 ^ 32) :
    ulongLength n = n.toNat :=
  Nat.mod_eq_of_lt small

theorem intLength_of_lt
    {n : UInt64} (small : n.toNat < 2 ^ 31) :
    intLength n = n.toNat := by
  rw [intLength_eq, ulongLength_of_lt (by omega), if_pos small]

theorem intLength_le_ulongLength (n : UInt64) :
    intLength n ≤ ulongLength n := by
  rw [intLength_eq]
  split
  · exact Int.le_refl _
  · omega

theorem toNat_pos {n : UInt64} (something : n ≠ 0) : 0 < n.toNat := by
  rw [Nat.pos_iff_ne_zero]
  intro nothing
  exact something (UInt64.toNat_inj.mp nothing)

/-- A transfer leaves what it does not move. -/
theorem toNat_sub_moved
    {n : UInt64} {moved : Nat} (fits : moved ≤ n.toNat) :
    (n - UInt64.ofNat moved).toNat = n.toNat - moved := by
  have value : (UInt64.ofNat moved).toNat = moved :=
    UInt64.toNat_ofNat_of_lt' (Nat.lt_of_le_of_lt fits n.toNat_lt)
  have le : UInt64.ofNat moved ≤ n := by
    rw [UInt64.le_iff_toNat_le, value]
    exact fits
  rw [UInt64.toNat_sub_of_le _ _ le, value]

/-- The high bits stay when no more than the low ones is moved. -/
theorem high_of_moved
    {n : UInt64} {moved : Nat}
    (low : moved ≤ ulongLength n) (high : 2 ^ 32 ≤ n.toNat) :
    2 ^ 32 ≤ (n - UInt64.ofNat moved).toNat := by
  rw [toNat_sub_moved (low.trans (ulongLength_le n))]
  rw [ulongLength] at low
  omega

/-! ## The loop -/

section Forms

variable {World : Type*} (channel : Channel World)

theorem Provider.reply_outcome (provider : Provider) (n : UInt64) :
    callOutcome (provider.reply n) =
      if intLength n < 0 then none
      else some (UInt64.ofNat (provider.moved (intLength n))) := by
  rw [Provider.reply]
  split
  · rfl
  · rw [callOutcome, if_neg (by omega), Int.toNat_natCast]

/-- A call that succeeds is followed by a loop for the rest. -/
theorem Channel.loop_call
    {count : UInt64} {p : Nat} {n moved : UInt64} {world : World}
    {reply : Int} {rest : List Int}
    (something : n ≠ 0) (succeeded : callOutcome reply = some moved) :
    (channel.loop count p n none world (reply :: rest)).finished =
      (channel.loop count (p + moved.toNat) (n - moved) none
        (channel.effect p moved.toNat world) rest).finished := by
  rw [Channel.loop, if_neg something, channel.call_of_some succeeded]
  rfl

/-- A call that fails is the last one. -/
theorem Channel.loop_failed
    {count : UInt64} {p : Nat} {n : UInt64} {world : World}
    {reply : Int} {rest : List Int}
    (something : n ≠ 0) (failed : callOutcome reply = none) :
    (channel.loop count p n none world (reply :: rest)).finished =
      some (0, some (IOException channel.callFailed)) := by
  rw [Channel.loop, if_neg something, channel.call_of_none failed]
  rfl

/-- A loop for less than 2^31 bytes ends after at most as many calls. -/
theorem Channel.loop_completes
    (provider : Provider)
    (count : UInt64) (p : Nat) (n : UInt64) (world : World)
    {calls : Nat}
    (small : n.toNat < 2 ^ 31) (enough : n.toNat ≤ calls) :
    (channel.loop count p n none world (provider.replies n calls)).finished =
      some (count, none) := by
  induction calls generalizing provider p n world with
  | zero =>
      have nothing : n = 0 := by
        rw [← UInt64.toNat_inj]
        exact Nat.le_zero.mp enough
      rw [Provider.replies, Channel.loop, if_pos nothing]
  | succ calls induction =>
      by_cases nothing : n = 0
      · rw [Provider.replies, Channel.loop, if_pos nothing]
      · have positive := toNat_pos nothing
        have length := intLength_of_lt small
        have outcome := provider.reply_outcome n
        rw [if_neg (by omega)] at outcome
        have le := provider.moved_le (Int.le_of_eq length)
        have pos : 0 < provider.moved (intLength n) :=
          provider.moved_pos (by omega)
        have left := toNat_sub_moved le
        rw [Provider.replies, channel.loop_call nothing outcome]
        exact induction _ _ _ _ (by omega) (by omega)

/-- A loop for 2^31 bytes or more does not end well. -/
theorem Channel.loop_stuck
    (provider : Provider)
    (count : UInt64) (p : Nat) (n : UInt64) (world : World)
    (calls : Nat) (large : 2 ^ 31 ≤ n.toNat) (value : UInt64) :
    (channel.loop count p n none world (provider.replies n calls)).finished ≠
      some (value, none) := by
  have something : n ≠ 0 := by
    rintro rfl
    simp at large
  induction calls generalizing provider p n world with
  | zero =>
      rw [Provider.replies, Channel.loop, if_neg something]
      simp
  | succ calls induction =>
      have outcome := provider.reply_outcome n
      by_cases negative : intLength n < 0
      · rw [if_pos negative] at outcome
        rw [Provider.replies, channel.loop_failed something outcome]
        simp
      · rw [if_neg negative] at outcome
        have low := provider.moved_le (intLength_le_ulongLength n)
        have high : 2 ^ 32 ≤ n.toNat := by
          by_contra small
          rw [intLength_eq, ulongLength_of_lt (Nat.not_le.mp small),
            if_neg (Nat.not_lt.mpr large)] at negative
          omega
        have left := high_of_moved low high
        rw [Provider.replies, channel.loop_call something outcome]
        apply induction
        · omega
        · rintro nothing
          rw [nothing] at left
          simp at left

theorem Provider.replies_admissible
    (provider : Provider) (n : UInt64) (calls : Nat) :
    CallsAdmissible n (provider.replies n calls) := by
  induction calls generalizing provider n with
  | zero => trivial
  | succ calls induction =>
      intro _ succeeded
      have limited := provider.limited 0 (intLength n).toNat
      rw [Provider.reply] at succeeded
      split at succeeded
      case isTrue => cases succeeded
      case isFalse negative =>
        rw [Provider.reply, if_neg negative, Int.toNat_natCast]
        refine ⟨?_, induction _ _⟩
        rw [Provider.moved]
        omega

/-! ## The chain -/

/-- What an operation moves is reported in 32 bits. -/
theorem Provider.moved_toUInt32 (provider : Provider) (n : UInt64) :
    (UInt32.ofNat (provider.moved (ulongLength n))).toNat =
      provider.moved (ulongLength n) := by
  have le := provider.moved_le (Int.le_refl (ulongLength n))
  have small : ulongLength n < 2 ^ 32 := Nat.mod_lt _ (by decide)
  exact UInt32.toNat_ofNat_of_lt' (Nat.lt_of_le_of_lt le small)

theorem Provider.moved_toUInt64 (provider : Provider) (n : UInt64) :
    (UInt32.ofNat (provider.moved (ulongLength n))).toUInt64 =
      UInt64.ofNat (provider.moved (ulongLength n)) := by
  have le := provider.moved_le (Int.ofNat_le.mpr (ulongLength_le n))
  rw [← UInt64.toNat_inj, UInt32.toNat_toUInt64, moved_toUInt32]
  exact
    (UInt64.toNat_ofNat_of_lt' (Nat.lt_of_le_of_lt le n.toNat_lt)).symm

theorem Provider.completion_outcome (provider : Provider) (n : UInt64) :
    (provider.completion n).outcome =
      some (UInt64.ofNat (provider.moved (ulongLength n))) := by
  rw [Provider.completion, OverlappedReply.outcome, moved_toUInt64]

/-- An operation that leaves something is followed by a chain for it. -/
theorem Channel.chain_operation
    {count : UInt64} {buffer : Nat} {n moved : UInt64} {world : World}
    {reply : OverlappedReply} {rest : List OverlappedReply}
    (succeeded : reply.outcome = some moved) (more : n ≠ moved) :
    (channel.chain count buffer n world (reply :: rest)).finished =
      (channel.chain count (buffer + moved.toNat) (n - moved)
        (channel.effect buffer moved.toNat world) rest).finished := by
  rw [Channel.chain, channel.operation_of_some succeeded,
    if_neg (by simp [more])]
  rfl

/-- An operation that leaves nothing is the last one. -/
theorem Channel.chain_last
    {count : UInt64} {buffer : Nat} {n : UInt64} {world : World}
    {reply : OverlappedReply} {rest : List OverlappedReply}
    (succeeded : reply.outcome = some n) :
    (channel.chain count buffer n world (reply :: rest)).finished =
      some (count, none) := by
  rw [Channel.chain, channel.operation_of_some succeeded,
    if_pos (Or.inr rfl)]

/-- A chain for less than 2^32 bytes, but not for none, ends after at most as
many operations. -/
theorem Channel.chain_completes
    (provider : Provider)
    (count : UInt64) (buffer : Nat) (n : UInt64) (world : World)
    {calls : Nat}
    (positive : 0 < n.toNat) (small : n.toNat < 2 ^ 32)
    (enough : n.toNat ≤ calls) :
    (channel.chain count buffer n world
        (provider.completions n calls)).finished =
      some (count, none) := by
  induction calls generalizing provider buffer n world with
  | zero => omega
  | succ calls induction =>
      have length := ulongLength_of_lt small
      have outcome := provider.completion_outcome n
      have le : provider.moved (ulongLength n) ≤ n.toNat :=
        provider.moved_le (Int.ofNat_le.mpr (ulongLength_le n))
      have pos : 0 < provider.moved (ulongLength n) :=
        provider.moved_pos (by omega)
      have left := toNat_sub_moved le
      rw [Provider.completions]
      by_cases last : n = UInt64.ofNat (provider.moved (ulongLength n))
      · rw [← last] at outcome
        exact channel.chain_last outcome
      · rw [channel.chain_operation outcome last]
        have more : n.toNat ≠ provider.moved (ulongLength n) := by
          intro same
          apply last
          rw [← same, UInt64.ofNat_toNat]
        exact induction _ _ _ _ (by omega) (by omega) (by omega)

/-- A chain for 2^32 bytes or more does not end. -/
theorem Channel.chain_stuck
    (provider : Provider)
    (count : UInt64) (buffer : Nat) (n : UInt64) (world : World)
    (calls : Nat) (large : 2 ^ 32 ≤ n.toNat) :
    (channel.chain count buffer n world
        (provider.completions n calls)).finished = none := by
  induction calls generalizing provider buffer n world with
  | zero => rfl
  | succ calls induction =>
      have outcome := provider.completion_outcome n
      have low := provider.moved_le (Int.le_refl (ulongLength n))
      have left := high_of_moved low large
      have more : n ≠ UInt64.ofNat (provider.moved (ulongLength n)) := by
        intro last
        rw [← last, UInt64.sub_self] at left
        simp at left
      rw [Provider.completions, channel.chain_operation outcome more]
      exact induction _ _ _ _ left

theorem Provider.completions_admissible
    (provider : Provider) (n : UInt64) (calls : Nat) :
    CompletionsAdmissible n (provider.completions n calls) := by
  induction calls generalizing provider n with
  | zero => trivial
  | succ calls induction =>
      rw [Provider.completions, Provider.completion]
      refine ⟨?_, ?_⟩
      · rw [moved_toUInt32]
        exact provider.moved_le (Int.le_refl (ulongLength n))
      · intro _
        rw [moved_toUInt64]
        exact induction _ _

/-! ## What is asked for -/

theorem Provider.remaining_le
    {length : UInt64 → Int} (below : ∀ n, length n ≤ n.toNat)
    (provider : Provider) (n : UInt64) (calls : Nat) :
    (provider.remaining length n calls).toNat ≤ n.toNat := by
  induction calls generalizing provider n with
  | zero => exact Nat.le_refl _
  | succ calls induction =>
      have left := toNat_sub_moved (provider.moved_le (below n))
      have rest :=
        induction provider.later
          (n - UInt64.ofNat (provider.moved (length n)))
      rw [Provider.remaining]
      omega

/-- A length that is exact below a bound asks for some of every rest below
it. -/
theorem Provider.asksForSome
    {length : UInt64 → Int} {bound : Nat}
    (below : ∀ n, length n ≤ n.toNat)
    (exactBelow : ∀ n : UInt64, n.toNat < bound → length n = n.toNat)
    (provider : Provider) {count : UInt64} (small : count.toNat < bound) :
    provider.AsksForSome length count := by
  intro calls more
  have le := provider.remaining_le below count calls
  have positive := toNat_pos more
  have same := exactBelow _ (Nat.lt_of_le_of_lt le small)
  constructor
  · omega
  · omega

end Forms

/-! ## The forms of the socket -/

/--
With the answers to some number of calls, `count` at most, the form ends
without an error, returns the count and has done all of the transfer.
-/
def Completes {Reply World : Type*} (form : List Reply → Attempt World)
    (answers : Nat → List Reply) (count : UInt64) (done : World) : Prop :=
  ∃ calls ≤ count.toNat,
    (form (answers calls)).finished = some (count, none) ∧
      (form (answers calls)).world = done

theorem Channel.loop_completes_iff {World : Type*} {channel : Channel World}
    (composes : channel.Composes)
    (provider : Provider) (buffer : Nat) (count : UInt64) (world : World) :
    Completes (channel.loop count buffer count none world)
          (provider.replies count) count
          (channel.effect buffer count.toNat world) ∧
        provider.AsksForSome intLength count ↔
      count.toNat < 2 ^ 31 := by
  constructor
  · rintro ⟨⟨calls, _, finished, _⟩, _⟩
    by_contra large
    exact
      channel.loop_stuck provider count buffer count world calls
        (Nat.not_lt.mp large) count finished
  · intro small
    have finished :=
      channel.loop_completes provider count buffer count world small
        (Nat.le_refl _)
    have moved :=
      channel.loop_moved composes count buffer count world _
        (provider.replies_admissible count count.toNat)
    refine ⟨⟨count.toNat, Nat.le_refl _, finished, ?_⟩, ?_⟩
    · exact (moved.wholly count finished).2
    · exact
        provider.asksForSome intLength_le (fun _ => intLength_of_lt) small

theorem Channel.chain_completes_iff {World : Type*} {channel : Channel World}
    (composes : channel.Composes)
    (provider : Provider) (buffer : Nat) (count : UInt64) (world : World) :
    Completes (channel.chain count buffer count world)
          (provider.completions count) count
          (channel.effect buffer count.toNat world) ∧
        provider.AsksForSome (fun n => ulongLength n) count ↔
      0 < count.toNat ∧ count.toNat < 2 ^ 32 := by
  constructor
  · rintro ⟨⟨calls, few, finished, _⟩, _⟩
    constructor
    · by_contra nothing
      obtain rfl : calls = 0 := by omega
      cases finished
    · by_contra large
      rw [channel.chain_stuck provider count buffer count world calls
        (Nat.not_lt.mp large)] at finished
      cases finished
  · rintro ⟨positive, small⟩
    have finished :=
      channel.chain_completes provider count buffer count world positive small
        (Nat.le_refl _)
    have moved :=
      channel.chain_moved composes count buffer count world _
        (provider.completions_admissible count count.toNat)
    refine ⟨⟨count.toNat, Nat.le_refl _, finished, ?_⟩, ?_⟩
    · exact (moved.wholly count finished).2
    · apply provider.asksForSome _ _ small
      · exact fun n => Int.ofNat_le.mpr (ulongLength_le n)
      · intro n below
        rw [ulongLength_of_lt below]

/--
Whatever the provider, the `ExceptionPtr` forms complete exactly for less than
2^31 bytes, and the callback forms exactly for less than 2^32 bytes other than
none, for which they need a call.
-/
theorem all_complete_iff
    (provider : Provider) (stream memory : Nat → UInt8)
    (buffer : Nat) (count : UInt64)
    (inbound : Inbound) (handed : List UInt8) :
    (Completes (Socket.readAll stream buffer count none inbound)
            (provider.replies count) count
            (inbound.receive stream buffer count.toNat) ∧
          provider.AsksForSome intLength count ↔
        count.toNat < 2 ^ 31) ∧
      (Completes (Socket.writeAll memory buffer count none handed)
            (provider.replies count) count
            (handed ++ bytesAt memory buffer count.toNat) ∧
          provider.AsksForSome intLength count ↔
        count.toNat < 2 ^ 31) ∧
      (Completes (Socket.readAllCallback stream buffer count inbound)
            (provider.completions count) count
            (inbound.receive stream buffer count.toNat) ∧
          provider.AsksForSome (fun n => ulongLength n) count ↔
        0 < count.toNat ∧ count.toNat < 2 ^ 32) ∧
      (Completes (Socket.writeAllCallback memory buffer count handed)
            (provider.completions count) count
            (handed ++ bytesAt memory buffer count.toNat) ∧
          provider.AsksForSome (fun n => ulongLength n) count ↔
        0 < count.toNat ∧ count.toNat < 2 ^ 32) :=
  ⟨Channel.loop_completes_iff (reading_composes stream) provider buffer count
      inbound,
    Channel.loop_completes_iff (writing_composes memory) provider buffer count
      handed,
    Channel.chain_completes_iff (reading_composes stream) provider buffer
      count inbound,
    Channel.chain_completes_iff (writing_composes memory) provider buffer
      count handed⟩

/-- A provider that transfers all it is asked for. -/
def Provider.prompt : Provider where
  transfer := fun _ length => length
  positive := fun _ _ something => something
  limited := fun _ length => Nat.le_refl length

/-- Two gigabytes are asked for by a negative length, and four by none. -/
theorem large_transfers_fail :
    let before : Inbound := ⟨fun _ => 0, 0⟩
    intLength 0x80000000 < 0 ∧
      (Socket.readAll (fun _ => 1) 0 0x80000000 none before
          (Provider.prompt.replies 0x80000000 1)).finished =
        some (0, some (IOException "::recv failed")) ∧
      intLength 0x100000000 = 0 ∧ ulongLength 0x100000000 = 0 ∧
      ¬ Completes
        (Socket.readAll (fun _ => 1) 0 0x100000000 none before)
        (Provider.prompt.replies 0x100000000) 0x100000000
        (before.receive (fun _ => 1) 0 0x100000000) ∧
      ¬ Completes
        (Socket.readAllCallback (fun _ => 1) 0 0x100000000 before)
        (Provider.prompt.completions 0x100000000) 0x100000000
        (before.receive (fun _ => 1) 0 0x100000000) := by
  refine ⟨by decide, rfl, by decide, by decide, ?_, ?_⟩
  · rintro ⟨calls, _, finished, _⟩
    exact Channel.loop_stuck _ _ _ _ _ _ calls (by decide) _ finished
  · rintro ⟨calls, _, finished, _⟩
    have stuck :=
      Channel.chain_stuck (reading fun _ => 1) .prompt 0x100000000 0
        0x100000000 ⟨fun _ => 0, 0⟩ calls (by decide)
    have both := finished.symm.trans stuck
    cases both

end Netycat.Impl
