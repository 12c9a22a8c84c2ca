import Netycat.Impl.Chunks
import Netycat.Lib.Processes

/-!
# Conversations over a connection

Two programs talk over a connected socket each with `writeAll` and `readAll`.
The service provider decides how many bytes each call moves and whose call is
next.  A read moves at most what the peer has handed over and what has not been
taken before; otherwise it waits.

The step is written with the attempts of the two forms, so that a program goes
on when its attempt has finished.  Each step is then a number of steps of two
processes that send and receive single bytes, and for these the order does not
matter.  So all conversations of two programs come to the same end, in whatever
chunks the bytes are moved, in whatever order, and whichever form each of the
programs uses.
-/

namespace Netycat.Network

open Netycat.Corecat Netycat.Impl Netycat.Impl.Socket
open Netycat.Lib.Processes

/-- A program of whole transfers.  What it does after a read depends on what it
has read.  A transfer of nothing is none of these: what becomes of it depends on
the form, and a program that waits for a call that is to move nothing is
pending.  When such a call is completed is not told by the bytes, so no step
leads on from there. -/
inductive Program (Result : Type) where
  | finished (result : Result)
  | writeAll (block : Block) (next : Program Result)
  | readAll (length : Length) (next : List UInt8 → Program Result)
  | pending

/-- A transfer of nothing.  The `ExceptionPtr` form makes no call and goes on;
the callback form makes one and waits for its completion. -/
def Program.nothing {Result : Type} (form : Form) (next : Program Result) :
    Program Result :=
  match form with
  | .exceptionPtr => next
  | .callback => .pending

example (memory stream : Nat → UInt8) (handed : List UInt8)
    (inbound : Inbound) :
    (Socket.writeAll memory 0 0 none handed []).finished = some (0, none) ∧
      (Socket.readAll stream 0 0 none inbound []).finished = some (0, none) ∧
      (Socket.writeAllCallback memory 0 0 handed []).finished = none ∧
      (Socket.readAllCallback stream 0 0 inbound []).finished = none :=
  ⟨rfl, rfl, rfl, rfl⟩

/-- One side: the form that it uses, what is left of its program, what its
finished transfers have handed over and taken, and the chunks of the one that is
under way. -/
structure Party (Result : Type) where
  form : Form
  program : Program Result
  handed : List UInt8 := []
  consumed : Nat := 0
  chunks : List UInt32 := []

namespace Party

variable {Result : Type}

/-- All that has been handed over. -/
def outgoing (party : Party Result) : List UInt8 :=
  match party.program with
  | .writeAll block _ =>
      (party.form.writeAll block party.handed party.chunks).world
  | _ => party.handed

/-- How much of the stream has been taken. -/
def taken (party : Party Result) (stream : List UInt8) : Nat :=
  match party.program with
  | .readAll length _ =>
      (party.form.readAll length stream party.consumed
        party.chunks).world.consumed
  | _ => party.consumed

/-- What the transfer under way has left to do, as the code computes it. -/
def remaining (party : Party Result) (count : UInt64) : UInt64 :=
  party.chunks.foldl (fun n chunk => n - chunk.toUInt64) count

/-- The party between two transfers. -/
def goOn (party : Party Result) (program : Program Result)
    (handed : List UInt8) (consumed : Nat) : Party Result where
  form := party.form
  program := program
  handed := handed
  consumed := consumed

/-- The call that is under way moves some bytes.  When that ends the transfer,
the program goes on. -/
def move (party : Party Result) (stream : List UInt8) (chunk : UInt32) :
    Option (Party Result) :=
  let chunks := party.chunks ++ [chunk]
  match party.program with
  | .finished _ | .pending => none
  | .writeAll block next =>
      let attempt := party.form.writeAll block party.handed chunks
      if chunk ≠ 0 ∧
          chunk.toNat ≤ party.form.request (party.remaining block.count) then
        if attempt.finished.isSome then
          some (party.goOn next attempt.world party.consumed)
        else some { party with chunks := chunks }
      else none
  | .readAll length next =>
      let attempt := party.form.readAll length stream party.consumed chunks
      if chunk ≠ 0 ∧
          chunk.toNat ≤ party.form.request (party.remaining length.count) ∧
          party.taken stream + chunk.toNat ≤ stream.length then
        if attempt.finished.isSome then
          some
            (party.goOn
              (next (bytesAt attempt.world.memory 0 length.count.toNat))
              party.handed attempt.world.consumed)
        else some { party with chunks := chunks }
      else none

end Party

/-- The two sides of a connection. -/
structure Conversation (Result : Type) where
  party : Side → Party Result

variable {Result : Type}

/-- Two programs under every schedule and every way of moving the bytes. -/
def conversation (form : Side → Form) (program : Side → Program Result) :
    TransitionSystem (Conversation Result) (Side × UInt32) where
  init := ⟨fun side => { form := form side, program := program side }⟩
  step := fun state (side, chunk) =>
    ((state.party side).move (state.party side.other).outgoing chunk).map
      fun party => ⟨Function.update state.party side party⟩

/-- Both programs have finished. -/
def Conversation.Finished (state : Conversation Result)
    (result : Side → Result) : Prop :=
  ∀ side, (state.party side).program = .finished (result side)

/-- How many bytes the calls of a run have moved. -/
def bytesMoved (actions : List (Side × UInt32)) : Nat :=
  (actions.map fun action => action.2.toNat).sum

/-! ## Parties as processes -/

def Program.process : Program Result → Process UInt8 Result
  | .finished result => .done result
  | .writeAll block next => .sendAll next.process block.data
  | .readAll length next =>
      .receiveAll length.count.toNat fun bytes => (next bytes).process
  | .pending => .blocked

namespace Party

/-- What is left to do, the part of a transfer under way included. -/
def process (party : Party Result) (stream : List UInt8) :
    Process UInt8 Result :=
  let moved := streamLength party.chunks
  match party.program with
  | .finished result => .done result
  | .writeAll block next =>
      .sendAll next.process (block.data.drop moved)
  | .readAll length next =>
      .receiveAll (length.count.toNat - moved) fun bytes =>
        (next ((stream.drop party.consumed).take moved ++ bytes)).process
  | .pending => .blocked

/-- The chunks have not moved all that the transfer is to move. -/
def Short (party : Party Result) : Prop :=
  match party.program with
  | .finished _ | .pending => party.chunks = []
  | .writeAll block _ => streamLength party.chunks < block.data.length
  | .readAll length _ => streamLength party.chunks < length.count.toNat

/-- How much of the stream the chunks have taken. -/
def position (party : Party Result) : Nat :=
  match party.program with
  | .readAll _ _ => party.consumed + streamLength party.chunks
  | _ => party.consumed

/-- The chunks are a part of the transfer under way, and no more has been taken
than was there. -/
structure Sound (party : Party Result) (stream : List UInt8) : Prop where
  positive : ∀ chunk ∈ party.chunks, chunk ≠ 0
  short : party.Short
  there : party.position ≤ stream.length

section GoOn

variable (party : Party Result) (program : Program Result)
variable (handed stream : List UInt8) (consumed : Nat)

/-- Between two transfers a party stands at the beginning of its program. -/
@[simp]
theorem goOn_process :
    (party.goOn program handed consumed).process stream = program.process := by
  cases program with
  | finished result | pending => rfl
  | writeAll block next =>
      simp [goOn, process, streamLength, Program.process]
  | readAll length next =>
      simp [goOn, process, streamLength, Program.process]

theorem goOn_short :
    (party.goOn program handed consumed).Short := by
  cases program with
  | finished result | pending => rfl
  | writeAll block next => exact List.length_pos_iff.mpr block.nonempty
  | readAll length next =>
      apply Nat.pos_of_ne_zero
      intro zero
      exact length.positive (UInt64.toNat_inj.mp zero)

@[simp]
theorem goOn_position :
    (party.goOn program handed consumed).position = consumed := by
  cases program with
  | finished result | writeAll block next | readAll length next | pending => rfl

@[simp]
theorem goOn_outgoing :
    (party.goOn program handed consumed).outgoing = handed := by
  cases program with
  | finished result | readAll length next | pending => rfl
  | writeAll block next =>
      have attempt :=
        @Form.writeAll_chunks party.form block handed []
          (fun _ inside => by cases inside) (Nat.zero_le _)
      have world := attempt.2
      simp only [streamLength, List.map_nil, List.sum_nil, List.take_zero,
        List.append_nil] at world
      exact world

theorem goOn_sound
    (there : consumed ≤ stream.length) :
    (party.goOn program handed consumed).Sound stream where
  positive := fun _ inside => by cases inside
  short := goOn_short party program handed consumed
  there := by
    rw [goOn_position]
    exact there

end GoOn

/-- The model of the code takes what the chunks say. -/
theorem Sound.taken_eq
    {party : Party Result}
    {stream : List UInt8}
    (sound : party.Sound stream)
    (other : List UInt8) :
    party.taken other = party.position := by
  have short := sound.short
  unfold taken position
  unfold Short at short
  cases program : party.program with
  | finished result | writeAll block next | pending => rfl
  | readAll length next =>
      rw [program] at short
      have attempt :=
        party.form.readAll_chunks length other party.consumed sound.positive
          short.le
      simp only
      rw [attempt.2]
      rfl

/-- More bytes on the way make no difference to what is left to do. -/
theorem Sound.process_append
    {party : Party Result}
    {stream : List UInt8}
    (sound : party.Sound stream)
    (more : List UInt8) :
    party.process (stream ++ more) = party.process stream := by
  have there := sound.there
  unfold position at there
  unfold process
  cases program : party.program with
  | finished result | writeAll block next | pending => rfl
  | readAll length next =>
      rw [program] at there
      have le : party.consumed ≤ stream.length := by
        have whole : party.consumed + streamLength party.chunks ≤
          stream.length := there
        omega
      have enough :
          streamLength party.chunks ≤ (stream.drop party.consumed).length := by
        rw [List.length_drop]
        exact Nat.le_sub_of_add_le' there
      simp only [List.drop_append_of_le_length le,
        List.take_append_of_le_length enough]

theorem Sound.append
    {party : Party Result}
    {stream : List UInt8}
    (sound : party.Sound stream)
    (more : List UInt8) :
    party.Sound (stream ++ more) where
  positive := sound.positive
  short := sound.short
  there := by
    rw [List.length_append]
    exact sound.there.trans (Nat.le_add_right _ _)

/-- What is left to do, as the code computes it, is what the chunks leave. -/
theorem remaining_toNat
    (party : Party Result)
    {count : UInt64}
    (fits : streamLength party.chunks ≤ count.toNat) :
    (party.remaining count).toNat =
      count.toNat - streamLength party.chunks := by
  unfold remaining
  generalize party.chunks = chunks at fits ⊢
  induction chunks generalizing count with
  | nil => rfl
  | cons chunk rest induction =>
      have sum :
          streamLength (chunk :: rest) = chunk.toNat + streamLength rest := rfl
      rw [sum] at fits ⊢
      have left := remaining_after fits
      rw [List.foldl_cons, induction (by omega), left]
      omega

/-! ### Steps -/

/-- What a call that moves `chunk` bytes does to a party: as many steps of its
process, with what is sent added to what has been handed over. -/
structure Moved (party next : Party Result) (stream : List UInt8)
    (chunk : UInt32) (sent : List UInt8) : Prop where
  sound : next.Sound stream
  outgoing : next.outgoing = party.outgoing ++ sent
  advanced :
    Process.advance chunk.toNat (party.process stream)
        (stream.drop party.position) =
      some (next.process stream, stream.drop next.position, sent)

theorem positive_append
    {party : Party Result}
    {stream : List UInt8}
    (sound : party.Sound stream)
    {chunk : UInt32}
    (nonzero : chunk ≠ 0) :
    ∀ other ∈ party.chunks ++ [chunk], other ≠ 0 := by
  intro other inside
  rcases List.mem_append.mp inside with before | now
  · exact sound.positive other before
  · exact List.mem_singleton.mp now ▸ nonzero

theorem streamLength_concat (chunks : List UInt32) (chunk : UInt32) :
    streamLength (chunks ++ [chunk]) = streamLength chunks + chunk.toNat := by
  rw [streamLength_append]
  rfl

/-- A call of a write either ends it, with all of the block handed over, or
leaves some of it. -/
theorem Sound.write_cases
    {party next : Party Result}
    {stream : List UInt8}
    (sound : party.Sound stream)
    {block : Block}
    {after : Program Result}
    (program : party.program = .writeAll block after)
    {chunk : UInt32}
    (moved : party.move stream chunk = some next) :
    chunk ≠ 0 ∧
      (streamLength party.chunks + chunk.toNat = block.data.length ∧
          next =
            party.goOn after (party.handed ++ block.data) party.consumed ∨
        streamLength party.chunks + chunk.toNat < block.data.length ∧
          next = { party with chunks := party.chunks ++ [chunk] }) := by
  have short := sound.short
  unfold Short at short
  rw [program] at short
  have left :
      (party.remaining block.count).toNat =
        block.data.length - streamLength party.chunks := by
    rw [party.remaining_toNat (by rw [block.count_toNat]; exact short.le),
      block.count_toNat]
  have small := block.fits
  unfold move at moved
  simp only [program] at moved
  split at moved
  · next allowed =>
      rw [Form.request_eq _ (by omega), left] at allowed
      have attempt :=
        party.form.writeAll_chunks block party.handed
          (positive_append sound allowed.1)
          (by rw [streamLength_concat]; omega)
      rw [attempt.1, attempt.2, streamLength_concat] at moved
      refine ⟨allowed.1, ?_⟩
      by_cases whole :
          streamLength party.chunks + chunk.toNat = block.data.length
      · rw [if_pos whole, whole, List.take_length] at moved
        cases moved
        exact Or.inl ⟨whole, rfl⟩
      · rw [if_neg whole] at moved
        cases moved
        exact Or.inr ⟨by omega, by rw [← program]⟩
  · cases moved

/-- A call of a read either ends it, and the program goes on with the bytes, or
leaves some to be read. -/
theorem Sound.read_cases
    {party next : Party Result}
    {stream : List UInt8}
    (sound : party.Sound stream)
    {length : Length}
    {after : List UInt8 → Program Result}
    (program : party.program = .readAll length after)
    {chunk : UInt32}
    (moved : party.move stream chunk = some next) :
    chunk ≠ 0 ∧
      party.consumed + (streamLength party.chunks + chunk.toNat) ≤
        stream.length ∧
      (streamLength party.chunks + chunk.toNat = length.count.toNat ∧
          next =
            party.goOn
              (after ((stream.drop party.consumed).take length.count.toNat))
              party.handed (party.consumed + length.count.toNat) ∨
        streamLength party.chunks + chunk.toNat < length.count.toNat ∧
          next = { party with chunks := party.chunks ++ [chunk] }) := by
  have short := sound.short
  unfold Short at short
  rw [program] at short
  have left := party.remaining_toNat short.le
  have position :
      party.taken stream = party.consumed + streamLength party.chunks := by
    rw [sound.taken_eq stream]
    unfold Party.position
    rw [program]
  have small := length.fits
  unfold move at moved
  simp only [program] at moved
  split at moved
  · next allowed =>
      rw [Form.request_eq _ (by omega), left, position] at allowed
      have attempt :=
        party.form.readAll_chunks length stream party.consumed
          (positive_append sound allowed.1)
          (by rw [streamLength_concat]; omega)
      rw [attempt.1, attempt.2, streamLength_concat] at moved
      refine ⟨allowed.1, by omega, ?_⟩
      by_cases whole :
          streamLength party.chunks + chunk.toNat = length.count.toNat
      · rw [if_pos whole, whole, bytesAt_receive (by omega)] at moved
        cases moved
        exact Or.inl ⟨whole, rfl⟩
      · rw [if_neg whole] at moved
        cases moved
        exact Or.inr ⟨by omega, by rw [← program]⟩
  · cases moved

theorem Sound.write_moved
    {party next : Party Result}
    {stream : List UInt8}
    (sound : party.Sound stream)
    {block : Block}
    {after : Program Result}
    (program : party.program = .writeAll block after)
    {chunk : UInt32}
    (moved : party.move stream chunk = some next) :
    Moved party next stream chunk
      ((block.data.drop (streamLength party.chunks)).take chunk.toNat) := by
  have short := sound.short
  have there := sound.there
  unfold Short at short
  unfold position at there
  rw [program] at short there
  have attempt :=
    party.form.writeAll_chunks block party.handed sound.positive short.le
  have outgoing :
      party.outgoing =
        party.handed ++ block.data.take (streamLength party.chunks) := by
    unfold Party.outgoing
    rw [program]
    exact attempt.2
  rcases sound.write_cases program moved with
    ⟨nonzero, ⟨whole, rfl⟩ | ⟨part, rfl⟩⟩
  · refine ⟨goOn_sound _ _ _ _ _ there, ?_, ?_⟩
    · rw [goOn_outgoing, outgoing, List.append_assoc, ← List.take_add, whole,
        List.take_length]
    · rw [goOn_process, goOn_position]
      unfold process position
      rw [program]
      simp only
      rw [Process.advance_sendAll (by rw [List.length_drop]; omega),
        List.drop_drop, whole, List.drop_length]
      rfl
  · have later :=
      party.form.writeAll_chunks block party.handed
        (positive_append sound nonzero)
        (by rw [streamLength_concat]; exact part.le)
    refine ⟨⟨positive_append sound nonzero, ?_, ?_⟩, ?_, ?_⟩
    · unfold Short
      rw [program]
      simp only [streamLength_concat]
      exact part
    · unfold position
      rw [program]
      exact there
    · rw [outgoing, List.append_assoc, ← List.take_add, ← streamLength_concat,
        ← later.2]
      unfold Party.outgoing
      rw [program]
    · unfold process position
      rw [program]
      simp only [streamLength_concat]
      rw [Process.advance_sendAll (by rw [List.length_drop]; omega),
        List.drop_drop]

theorem Sound.read_moved
    {party next : Party Result}
    {stream : List UInt8}
    (sound : party.Sound stream)
    {length : Length}
    {after : List UInt8 → Program Result}
    (program : party.program = .readAll length after)
    {chunk : UInt32}
    (moved : party.move stream chunk = some next) :
    Moved party next stream chunk [] := by
  have outgoing : party.outgoing = party.handed := by
    unfold Party.outgoing
    rw [program]
  have split :
      (stream.drop party.consumed).take
          (streamLength party.chunks + chunk.toNat) =
        (stream.drop party.consumed).take (streamLength party.chunks) ++
          (stream.drop (party.consumed + streamLength party.chunks)).take
            chunk.toNat := by
    rw [List.take_add, List.drop_drop]
  rcases sound.read_cases program moved with
    ⟨nonzero, there, ⟨whole, rfl⟩ | ⟨part, rfl⟩⟩
  · refine ⟨goOn_sound _ _ _ _ _ (whole ▸ there), ?_, ?_⟩
    · rw [goOn_outgoing, outgoing, List.append_nil]
    · rw [goOn_process, goOn_position, ← whole, split]
      unfold process position
      rw [program]
      simp only
      rw [Process.advance_receiveAll (by omega)
        (by rw [List.length_drop]; omega)]
      simp only [List.drop_drop, Nat.sub_sub, ← whole, Nat.sub_self,
        Process.receiveAll, List.append_nil, Nat.add_assoc]
  · refine ⟨⟨positive_append sound nonzero, ?_, ?_⟩, ?_, ?_⟩
    · unfold Short
      rw [program]
      simp only [streamLength_concat]
      exact part
    · unfold position
      rw [program]
      simp only [streamLength_concat]
      exact there
    · rw [outgoing, List.append_nil]
      unfold Party.outgoing
      rw [program]
    · unfold process position
      rw [program]
      simp only [streamLength_concat]
      rw [Process.advance_receiveAll (by omega)
        (by rw [List.length_drop]; omega)]
      simp only [List.drop_drop, List.append_assoc, split, Nat.sub_sub,
        Nat.add_assoc]

/-- A call does as many steps of the process as it moves bytes. -/
theorem Sound.moved
    {party next : Party Result}
    {stream : List UInt8}
    (sound : party.Sound stream)
    {chunk : UInt32}
    (moved : party.move stream chunk = some next) :
    ∃ sent, Moved party next stream chunk sent := by
  cases program : party.program with
  | finished result | pending =>
      unfold move at moved
      rw [program] at moved
      cases moved
  | writeAll block after => exact ⟨_, sound.write_moved program moved⟩
  | readAll length after => exact ⟨_, sound.read_moved program moved⟩

/-- Where the process can do a step, a call can move one byte. -/
theorem Sound.enabled
    {party : Party Result}
    {stream : List UInt8}
    (sound : party.Sound stream)
    {after : Process UInt8 Result × List UInt8 × List UInt8}
    (stepped :
      (party.process stream).step (stream.drop party.position) =
        some after) :
    ∃ next, party.move stream 1 = some next := by
  have short := sound.short
  have taken := sound.taken_eq stream
  unfold Short at short
  unfold process position at stepped
  unfold position at taken
  unfold move
  cases program : party.program with
  | finished result | pending =>
      rw [program] at stepped
      cases stepped
  | writeAll block next =>
      rw [program] at short
      have left :=
        @remaining_toNat _ party block.count
          (by rw [block.count_toNat]; exact short.le)
      have small := block.fits
      rw [block.count_toNat] at left
      have allowed :
          (1 : UInt32) ≠ 0 ∧
            (1 : UInt32).toNat ≤
              party.form.request (party.remaining block.count) := by
        rw [Form.request_eq _ (by omega), left]
        exact ⟨by decide, by rw [UInt32.toNat_one]; omega⟩
      simp only [if_pos allowed]
      split
      · exact ⟨_, rfl⟩
      · exact ⟨_, rfl⟩
  | readAll length next =>
      rw [program] at short stepped taken
      have left := party.remaining_toNat short.le
      have small := length.fits
      have more :
          party.consumed + streamLength party.chunks < stream.length := by
        by_contra nothing
        have waiting : ∃ count, length.count.toNat -
            streamLength party.chunks = count + 1 :=
          ⟨_, (Nat.succ_pred_eq_of_pos (Nat.sub_pos_of_lt short)).symm⟩
        rcases waiting with ⟨count, waiting⟩
        simp only [waiting, Process.receiveAll] at stepped
        rw [List.drop_eq_nil_of_le (Nat.le_of_not_lt nothing)] at stepped
        cases stepped
      have allowed :
          (1 : UInt32) ≠ 0 ∧
            (1 : UInt32).toNat ≤
              party.form.request (party.remaining length.count) ∧
            party.taken stream + (1 : UInt32).toNat ≤ stream.length := by
        rw [Form.request_eq _ (by omega), left, taken]
        exact
          ⟨by decide, by rw [UInt32.toNat_one]; omega,
            by rw [UInt32.toNat_one]; exact more⟩
      simp only [if_pos allowed]
      split
      · exact ⟨_, rfl⟩
      · exact ⟨_, rfl⟩

/-- A party whose process is done has finished. -/
theorem Sound.finished
    {party : Party Result}
    {stream : List UInt8}
    (sound : party.Sound stream)
    {result : Result}
    (done : party.process stream = .done result) :
    party.program = .finished result := by
  have short := sound.short
  unfold Short at short
  unfold process at done
  cases program : party.program with
  | finished other =>
      rw [program] at done
      cases done
      rfl
  | writeAll block next =>
      rw [program] at short done
      rcases List.exists_cons_of_length_pos
          (show 0 < (block.data.drop (streamLength party.chunks)).length by
            rw [List.length_drop]; exact Nat.sub_pos_of_lt short) with
        ⟨symbol, symbols, rest⟩
      simp only [rest, Process.sendAll] at done
      cases done
  | readAll length next =>
      rw [program] at short done
      rcases Nat.exists_eq_add_of_lt short with ⟨more, whole⟩
      have waiting :
          length.count.toNat - streamLength party.chunks = more + 1 := by
        omega
      simp only [waiting, Process.receiveAll] at done
      cases done
  | pending =>
      rw [program] at done
      cases done

end Party

/-! ## Conversations as networks -/

namespace Conversation

/-- The two processes and the bytes that wait for them. -/
def pair (state : Conversation Result) : Pair UInt8 Result where
  process := fun side =>
    (state.party side).process (state.party side.other).outgoing
  incoming := fun side =>
    (state.party side.other).outgoing.drop (state.party side).position

/-- Each side stands soundly in what the other has handed over. -/
def Sound (state : Conversation Result) : Prop :=
  ∀ side, (state.party side).Sound (state.party side.other).outgoing

theorem Finished.ended
    {state : Conversation Result}
    {result : Side → Result}
    (finished : state.Finished result) :
    state.pair.Ended result := by
  intro side
  simp only [pair, Party.process, finished side]

theorem Sound.finished
    {state : Conversation Result}
    (sound : state.Sound)
    {result : Side → Result}
    (ended : state.pair.Ended result) :
    state.Finished result :=
  fun side => (sound side).finished (ended side)

end Conversation

section Runs

variable {form : Side → Form} {program : Side → Program Result}

theorem conversation_init_sound :
    (conversation form program).init.Sound :=
  fun side =>
    Party.goOn_sound { form := form side, program := program side }
      (program side) [] _ 0 (Nat.zero_le _)

/-- The forms are of no importance for the processes. -/
theorem conversation_init_pair :
    (conversation form program).init.pair =
      ⟨fun side => (program side).process, fun _ => []⟩ := by
  have nothing :
      ∀ side,
        ((conversation form program).init.party side).outgoing = [] :=
    fun side =>
      Party.goOn_outgoing { form := form side, program := program side }
        (program side) [] 0
  simp only [Conversation.pair, Pair.mk.injEq]
  constructor
  · funext side
    exact
      Party.goOn_process { form := form side, program := program side }
        (program side) [] _ 0
  · funext side
    rw [nothing, List.drop_nil]

/-- A step of one side is a number of steps of its process. -/
theorem conversation_step
    {state next : Conversation Result}
    {side : Side}
    {chunk : UInt32}
    (sound : state.Sound)
    (stepped :
      (conversation form program).step state (side, chunk) = some next)
    (initial : Pair UInt8 Result) :
    next.Sound ∧
      (network initial).runFrom state.pair
          (List.replicate chunk.toNat side) =
        some next.pair := by
  rcases Option.map_eq_some_iff.mp stepped with ⟨party, moved, rfl⟩
  rcases (sound side).moved moved with ⟨sent, isMoved⟩
  have otherSide : side.other ≠ side := side.other_ne
  have back : side.other.other = side := by
    cases side with
    | left | right => rfl
  have others := sound side.other
  rw [back] at others
  constructor
  · intro target
    by_cases isSide : target = side
    · subst isSide
      simp only [Function.update_self, Function.update_of_ne otherSide]
      exact isMoved.sound
    · have isOther := Side.eq_other_of_ne isSide
      subst isOther
      simp only [Function.update_of_ne otherSide, back, Function.update_self]
      rw [isMoved.outgoing]
      exact others.append sent
  · rw [runFrom_replicate initial isMoved.advanced]
    apply congrArg some
    simp only [Pair.after, Conversation.pair, Pair.mk.injEq]
    constructor
    · funext target
      by_cases isSide : target = side
      · subst isSide
        simp only [Function.update_self, Function.update_of_ne otherSide]
      · have isOther := Side.eq_other_of_ne isSide
        subst isOther
        simp only [Function.update_of_ne otherSide, back,
          Function.update_self, isMoved.outgoing]
        exact (others.process_append sent).symm
    · funext target
      by_cases isSide : target = side
      · subst isSide
        simp only [if_true, Function.update_self,
          Function.update_of_ne otherSide]
      · have isOther := Side.eq_other_of_ne isSide
        subst isOther
        simp only [if_neg otherSide, Function.update_of_ne otherSide, back,
          Function.update_self, isMoved.outgoing]
        rw [List.drop_append_of_le_length others.there]

/-- Which side moves each of the bytes. -/
def schedule (actions : List (Side × UInt32)) : List Side :=
  actions.flatMap fun action => List.replicate action.2.toNat action.1

theorem length_schedule (actions : List (Side × UInt32)) :
    (schedule actions).length = bytesMoved actions := by
  simp [schedule, bytesMoved, List.length_flatMap]

/-- A run of the conversation is a run of the network. -/
theorem conversation_runFrom
    {state last : Conversation Result}
    {actions : List (Side × UInt32)}
    (sound : state.Sound)
    (taken : (conversation form program).runFrom state actions = some last)
    (initial : Pair UInt8 Result) :
    last.Sound ∧
      (network initial).runFrom state.pair (schedule actions) =
        some last.pair := by
  induction actions generalizing state with
  | nil =>
      cases taken
      exact ⟨sound, rfl⟩
  | cons action rest induction =>
      rw [TransitionSystem.runFrom] at taken
      rcases Option.bind_eq_some_iff.mp taken with ⟨next, stepped, others⟩
      have first := conversation_step sound stepped initial
      have later := induction first.1 others
      refine ⟨later.1, ?_⟩
      rw [schedule, List.flatMap_cons, TransitionSystem.runFrom_append,
        first.2, Option.bind_some]
      exact later.2

/-- A run of the network is a run of the conversation, byte by byte. -/
theorem conversation_follows
    {state : Conversation Result}
    {initial last : Pair UInt8 Result}
    {sides : List Side}
    (sound : state.Sound)
    (taken : (network initial).runFrom state.pair sides = some last) :
    ∃ final,
      (conversation form program).runFrom state
          (sides.map fun side => (side, 1)) = some final ∧
        final.Sound ∧ final.pair = last := by
  induction sides generalizing state with
  | nil =>
      cases taken
      exact ⟨state, rfl, sound, rfl⟩
  | cons side rest induction =>
      rw [TransitionSystem.runFrom] at taken
      rcases Option.bind_eq_some_iff.mp taken with ⟨after, stepped, others⟩
      rcases Option.map_eq_some_iff.mp stepped with ⟨moved, enabled, rfl⟩
      rcases (sound side).enabled enabled with ⟨party, movesOne⟩
      have moves :
          (conversation form program).step state (side, 1) =
            some ⟨Function.update state.party side party⟩ :=
        Option.map_eq_some_iff.mpr ⟨party, movesOne, rfl⟩
      have follows := conversation_step sound moves initial
      have same :
          some (state.pair.after side moved) =
            some (Conversation.pair ⟨Function.update state.party side party⟩) := by
        rw [← follows.2, UInt32.toNat_one, List.replicate_one,
          TransitionSystem.runFrom, stepped]
        rfl
      rw [Option.some.inj same] at others
      rcases induction follows.1 others with ⟨final, further, isSound, isPair⟩
      refine ⟨final, ?_, isSound, isPair⟩
      rw [List.map_cons, TransitionSystem.runFrom, moves, Option.bind_some]
      exact further

theorem bytesMoved_bytewise (sides : List Side) :
    bytesMoved (sides.map fun side => (side, 1)) = sides.length := by
  simp [bytesMoved, Function.comp_def]

/-- Two programs that have finished do nothing more. -/
theorem Conversation.Finished.final
    {state : Conversation Result}
    {result : Side → Result}
    (finished : state.Finished result) :
    (conversation form program).Final state := by
  rintro ⟨side, chunk⟩
  apply Option.map_eq_none_iff.mpr
  unfold Party.move
  rw [finished side]

/-- Given one conversation in which both programs finish, every other one can
be continued to the same results. -/
theorem conversation_completes
    {form' : Side → Form}
    {actions others : List (Side × UInt32)}
    {last middle : Conversation Result}
    {result : Side → Result}
    (taken : (conversation form program).run actions = some last)
    (finished : last.Finished result)
    (other : (conversation form' program).run others = some middle) :
    ∃ rest final,
      (conversation form' program).runFrom middle rest = some final ∧
        final.Finished result ∧
        bytesMoved others + bytesMoved rest = bytesMoved actions := by
  let initial : Pair UInt8 Result :=
    ⟨fun side => (program side).process, fun _ => []⟩
  have one :=
    conversation_runFrom conversation_init_sound taken initial
  have another :=
    conversation_runFrom conversation_init_sound other initial
  rw [conversation_init_pair] at one another
  have isFinal : (network initial).Final last.pair := finished.ended.final
  rcases (network_commutes initial).completes isFinal one.2 another.2 with
    ⟨sides, completed, same⟩
  rcases @conversation_follows _ form' program _ _ _ _ another.1 completed with
    ⟨final, follows, isSound, isPair⟩
  refine ⟨_, final, follows, isSound.finished (isPair ▸ finished.ended), ?_⟩
  have lengths := same.length_eq
  rw [List.length_append, length_schedule, length_schedule] at lengths
  rw [bytesMoved_bytewise]
  exact lengths

/-- What a conversation that can be continued to some results is, when it is
already over. -/
theorem Conversation.Finished.unique
    {middle final : Conversation Result}
    {rest : List (Side × UInt32)}
    {result result' : Side → Result}
    (already : middle.Finished result')
    (follows : (conversation form program).runFrom middle rest = some final)
    (ends : final.Finished result) :
    result' = result := by
  have stopped : (conversation form program).Final middle := already.final
  have same := stopped.runFrom_eq follows
  subst same
  funext side
  exact Program.finished.inj ((already side).symm.trans (ends side))

end Runs

end Netycat.Network
