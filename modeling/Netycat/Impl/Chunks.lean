import Netycat.Impl.Progress

/-!
# Transfers in chunks

A whole transfer that runs into no error is a list of chunks, none of them
empty.  Where the transfer stands is told by the sum of the chunks alone: it has
moved that many bytes, and it has ended once that is the whole length.  This
holds of the `ExceptionPtr` form and of the callback form, so both are put
behind one name.

The lengths are kept below `2 ^ 31`, where both forms ask for all that is left,
and above zero, since for nothing the first form makes no call and the second
makes one.
-/

namespace Netycat.Impl

open Netycat.Corecat Socket

/-! ## Channels -/

section Channels

variable {World : Type*} {channel : Channel World}

/-- A chunk that is not empty is a part of what is left. -/
theorem remaining_after
    {n : UInt64}
    {chunk : UInt32}
    {others : Nat}
    (fits : chunk.toNat + others ≤ n.toNat) :
    (n - chunk.toUInt64).toNat = n.toNat - chunk.toNat := by
  have le : chunk.toUInt64 ≤ n := by
    rw [UInt64.le_iff_toNat_le, UInt32.toNat_toUInt64]
    omega
  rw [UInt64.toNat_sub_of_le _ _ le, UInt32.toNat_toUInt64]

theorem toNat_pos_of_ne
    {chunk : UInt32}
    (positive : chunk ≠ 0) :
    0 < chunk.toNat := by
  apply Nat.pos_of_ne_zero
  intro zero
  exact positive (UInt32.toNat_inj.mp zero)

theorem streamLength_cons (chunk : UInt32) (rest : List UInt32) :
    streamLength (chunk :: rest) = chunk.toNat + streamLength rest :=
  rfl

theorem Channel.loop_chunks
    (composes : channel.Composes)
    (count : UInt64)
    (p : Nat)
    {n : UInt64}
    (world : World)
    {chunks : List UInt32}
    (positive : ∀ chunk ∈ chunks, chunk ≠ 0)
    (fits : streamLength chunks ≤ n.toNat) :
    (channel.loop count p n none world (recvResults chunks)).finished =
        (if streamLength chunks = n.toNat then some (count, none)
        else none) ∧
      (channel.loop count p n none world (recvResults chunks)).world =
        channel.effect p (streamLength chunks) world := by
  induction chunks generalizing p n world with
  | nil =>
      have isZero : streamLength [] = n.toNat ↔ n = 0 := by
        rw [← UInt64.toNat_inj]
        exact eq_comm
      refine ⟨?_, (composes.effect_zero p world).symm⟩
      simp only [isZero]
      rfl
  | cons chunk rest induction =>
      have nonzero := toNat_pos_of_ne (positive chunk List.mem_cons_self)
      have sum := streamLength_cons chunk rest
      rw [sum] at fits ⊢
      have left := remaining_after fits
      have remaining : n ≠ 0 := by
        rintro rfl
        rw [UInt64.toNat_zero] at fits
        omega
      have transferred :
          callOutcome (chunk.toNat : Int) = some chunk.toUInt64 := by
        have outcome := recvResults_outcome [chunk]
        exact List.head_eq_of_cons_eq outcome
      have later :=
        induction (p + chunk.toNat)
          (channel.effect p chunk.toNat world)
          (fun other inside => positive other (List.mem_cons_of_mem _ inside))
          (show streamLength rest ≤ (n - chunk.toUInt64).toNat by omega)
      rw [recvResults, List.map_cons, Channel.loop, if_neg remaining,
        channel.call_of_some transferred]
      rw [recvResults] at later
      simp only [Option.isSome_none, Bool.false_eq_true, if_false,
        Attempt.afterCall, UInt32.toNat_toUInt64]
      rw [later.1, later.2, composes.effect_add, left]
      refine ⟨?_, rfl⟩
      congr 1
      exact propext ⟨fun same => by omega, fun same => by omega⟩

theorem Channel.chain_chunks
    (composes : channel.Composes)
    (count : UInt64)
    (buffer : Nat)
    {n : UInt64}
    (remaining : n ≠ 0)
    (world : World)
    {chunks : List UInt32}
    (positive : ∀ chunk ∈ chunks, chunk ≠ 0)
    (fits : streamLength chunks ≤ n.toNat) :
    (channel.chain count buffer n world (recvCompletions chunks)).finished =
        (if streamLength chunks = n.toNat then some (count, none)
        else none) ∧
      (channel.chain count buffer n world (recvCompletions chunks)).world =
        channel.effect buffer (streamLength chunks) world := by
  induction chunks generalizing buffer n world with
  | nil =>
      have unequal : streamLength [] ≠ n.toNat := fun isZero =>
        remaining (UInt64.toNat_inj.mp isZero.symm)
      rw [if_neg unequal]
      exact ⟨rfl, (composes.effect_zero buffer world).symm⟩
  | cons chunk rest induction =>
      have sum := streamLength_cons chunk rest
      rw [sum] at fits ⊢
      have left := remaining_after fits
      rw [recvCompletions, List.map_cons, Channel.chain]
      simp only [Channel.operation, Option.isSome_none, Bool.false_eq_true,
        false_or]
      by_cases isLast : n = chunk.toUInt64
      · have whole : n.toNat = chunk.toNat := by
          rw [isLast, UInt32.toNat_toUInt64]
        have nothing : streamLength rest = 0 := by omega
        rw [if_pos isLast, nothing, whole, Nat.add_zero, if_pos rfl]
        exact ⟨rfl, rfl⟩
      · have more : n - chunk.toUInt64 ≠ 0 := by
          intro nothing
          have zero := congrArg UInt64.toNat nothing
          rw [left, UInt64.toNat_zero] at zero
          apply isLast
          apply UInt64.toNat_inj.mp
          rw [UInt32.toNat_toUInt64]
          omega
        have later :=
          induction (buffer + chunk.toNat) more
            (channel.effect buffer chunk.toNat world)
            (fun other inside =>
              positive other (List.mem_cons_of_mem _ inside))
            (show streamLength rest ≤ (n - chunk.toUInt64).toNat by omega)
        rw [recvCompletions] at later
        rw [if_neg isLast]
        simp only [Attempt.afterCall, UInt32.toNat_toUInt64]
        rw [later.1, later.2, composes.effect_add, left]
        refine ⟨?_, rfl⟩
        congr 1
        exact propext ⟨fun same => by omega, fun same => by omega⟩

end Channels

/-! ## The two forms -/

/-- The form of a whole transfer. -/
inductive Form where
  | exceptionPtr
  | callback
deriving DecidableEq, Repr

/-- Bytes to be written: at least one, since for none the callback form makes a
call and waits where the `ExceptionPtr` form makes none, and fewer than
`2 ^ 31`, since from there on the two forms do not ask for the same. -/
structure Block where
  data : List UInt8
  nonempty : data ≠ []
  fits : data.length < 2 ^ 31

/-- A number of bytes to be read, at least one and below `2 ^ 31` for the same
reasons. -/
structure Length where
  count : UInt64
  positive : count ≠ 0
  fits : count.toNat < 2 ^ 31

def Block.count (block : Block) : UInt64 :=
  UInt64.ofNat block.data.length

/-- The buffer that `writeAll` is given, from address zero on. -/
def Block.memory (block : Block) : Nat → UInt8 :=
  fun address => block.data.getD address 0

@[simp]
theorem Block.count_toNat (block : Block) :
    block.count.toNat = block.data.length := by
  have fits := block.fits
  have size : UInt64.size = 2 ^ 64 := rfl
  exact UInt64.toNat_ofNat_of_lt' (by omega)

theorem Block.bytesAt_memory
    (block : Block)
    {count : Nat}
    (inside : count ≤ block.data.length) :
    bytesAt block.memory 0 count = block.data.take count := by
  apply List.ext_getElem
  · simp [bytesAt, inside]
  · intro index first second
    have small : index < block.data.length := by
      rw [List.length_take] at second
      omega
    simp [bytesAt, Block.memory, List.getElem?_eq_getElem small]

namespace Form

/-- The length that the next call asks for, when `n` bytes are left. -/
def request (form : Form) (n : UInt64) : Nat :=
  match form with
  | .exceptionPtr => (intLength n).toNat
  | .callback => ulongLength n

/-- `Socket::writeAll` in one of its forms, after some chunks. -/
def writeAll (form : Form) (block : Block) (handed : List UInt8)
    (chunks : List UInt32) : Attempt (List UInt8) :=
  match form with
  | .exceptionPtr =>
      Socket.writeAll block.memory 0 block.count none handed
        (recvResults chunks)
  | .callback =>
      Socket.writeAllCallback block.memory 0 block.count handed
        (recvCompletions chunks)

/-- `Socket::readAll` in one of its forms, after some chunks, into a buffer at
address zero. -/
def readAll (form : Form) (length : Length) (stream : List UInt8)
    (consumed : Nat) (chunks : List UInt32) : Attempt Inbound :=
  let inbound : Inbound := ⟨fun _ => 0, consumed⟩
  match form with
  | .exceptionPtr =>
      Socket.readAll (fun index => stream.getD index 0) 0 length.count none
        inbound (recvResults chunks)
  | .callback =>
      Socket.readAllCallback (fun index => stream.getD index 0) 0 length.count
        inbound (recvCompletions chunks)

theorem request_eq
    (form : Form)
    {n : UInt64}
    (small : n.toNat < 2 ^ 31) :
    form.request n = n.toNat := by
  cases form with
  | exceptionPtr =>
      rw [request, intLength_of_lt small, Int.toNat_natCast]
  | callback => exact ulongLength_of_lt (by omega)

theorem writeAll_chunks
    (form : Form)
    (block : Block)
    (handed : List UInt8)
    {chunks : List UInt32}
    (positive : ∀ chunk ∈ chunks, chunk ≠ 0)
    (fits : streamLength chunks ≤ block.data.length) :
    (form.writeAll block handed chunks).finished =
        (if streamLength chunks = block.data.length then
          some (block.count, none)
        else none) ∧
      (form.writeAll block handed chunks).world =
        handed ++ block.data.take (streamLength chunks) := by
  have bytes := block.bytesAt_memory fits
  rw [← block.count_toNat] at fits
  have nonzero : block.count ≠ 0 := by
    intro zero
    apply block.nonempty
    apply List.length_eq_zero_iff.mp
    rw [← block.count_toNat, zero, UInt64.toNat_zero]
  rw [← block.count_toNat, ← bytes]
  cases form with
  | exceptionPtr =>
      exact
        Channel.loop_chunks (writing_composes block.memory) block.count 0
          handed positive fits
  | callback =>
      exact
        Channel.chain_chunks (writing_composes block.memory) block.count 0
          nonzero handed positive fits

theorem readAll_chunks
    (form : Form)
    (length : Length)
    (stream : List UInt8)
    (consumed : Nat)
    {chunks : List UInt32}
    (positive : ∀ chunk ∈ chunks, chunk ≠ 0)
    (fits : streamLength chunks ≤ length.count.toNat) :
    (form.readAll length stream consumed chunks).finished =
        (if streamLength chunks = length.count.toNat then
          some (length.count, none)
        else none) ∧
      (form.readAll length stream consumed chunks).world =
        Inbound.receive (fun index => stream.getD index 0) 0
          (streamLength chunks) ⟨fun _ => 0, consumed⟩ := by
  cases form with
  | exceptionPtr =>
      exact
        Channel.loop_chunks (reading_composes _) length.count 0 _ positive fits
  | callback =>
      exact
        Channel.chain_chunks (reading_composes _) length.count 0
          length.positive _ positive fits

end Form

/-- What stands in the buffer are the next bytes of the stream. -/
theorem bytesAt_receive
    {stream : List UInt8}
    {consumed count : Nat}
    (there : consumed + count ≤ stream.length) :
    bytesAt
        (Inbound.receive (fun index => stream.getD index 0) 0 count
          ⟨fun _ => 0, consumed⟩).memory 0 count =
      (stream.drop consumed).take count := by
  apply List.ext_getElem
  · simp [bytesAt]
    omega
  · intro index first second
    have inside : index < count := by simpa [bytesAt] using first
    have small : consumed + index < stream.length := by omega
    simp [bytesAt, Inbound.receive, inside, List.getElem?_eq_getElem small]

end Netycat.Impl
