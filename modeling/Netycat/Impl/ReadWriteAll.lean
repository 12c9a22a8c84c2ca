import Netycat.Impl.Transfer

/-!
# `Socket::readAll` and `Socket::writeAll`

The two directions as channels.  Reading takes the next bytes of the peer's
stream into local memory; writing hands bytes of local memory to the peer.
Both compose, so what a whole transfer leaves behind does not depend on how it
was split into calls.  Neither form takes a transfer of zero bytes for the end of
the stream, so a stream that is too short leaves both of them running.

The last section compares the two forms of one operation.  They agree on every
transfer that is not empty and runs into no error.  On an error the
`ExceptionPtr` form returns zero and the callback form passes the full count;
for an empty buffer the first makes no call and the second starts an operation
of length zero.
-/

namespace Netycat.Impl

open Netycat.Corecat

/-! ## Reading -/

/-- Local memory, and how many bytes of the peer's stream have been taken. -/
structure Inbound where
  memory : Nat → UInt8
  consumed : Nat

/-- The operating system copies the next bytes of the stream to `pointer`. -/
def Inbound.receive
    (stream : Nat → UInt8) (pointer count : Nat) (inbound : Inbound) :
    Inbound where
  memory := fun address =>
    if pointer ≤ address ∧ address < pointer + count then
      stream (inbound.consumed + (address - pointer))
    else inbound.memory address
  consumed := inbound.consumed + count

def reading (stream : Nat → UInt8) : Channel Inbound where
  effect := Inbound.receive stream
  callFailed := "::recv failed"
  operationFailed := "::WSARecv failed"

theorem reading_composes (stream : Nat → UInt8) :
    (reading stream).Composes where
  effect_zero := by
    intro pointer inbound
    simp only [reading, Inbound.receive, Nat.add_zero]
    congr 1
    funext address
    exact if_neg (by omega)
  effect_add := by
    intro pointer first second inbound
    simp only [reading, Inbound.receive, Inbound.mk.injEq, Nat.add_assoc,
      and_true]
    funext address
    by_cases inSecond :
        pointer + first ≤ address ∧ address < pointer + (first + second)
    · have whole : pointer ≤ address ∧ address < pointer + (first + second) :=
        ⟨by omega, inSecond.2⟩
      have position :
          first + (address - (pointer + first)) = address - pointer := by
        omega
      rw [if_pos inSecond, if_pos whole, position]
    · rw [if_neg inSecond]
      by_cases inFirst : pointer ≤ address ∧ address < pointer + first
      · rw [if_pos inFirst, if_pos ⟨inFirst.1, by omega⟩]
      · rw [if_neg inFirst, if_neg (by omega)]

/--
The `count` bytes at `buffer` are the next ones of the stream, no other byte of
memory has changed, and exactly these bytes have been taken.
-/
structure Inbound.Received
    (stream : Nat → UInt8) (buffer count : Nat)
    (before after : Inbound) : Prop where
  filled :
    ∀ index, index < count →
      after.memory (buffer + index) = stream (before.consumed + index)
  untouched :
    ∀ address, address < buffer ∨ buffer + count ≤ address →
      after.memory address = before.memory address
  consumed : after.consumed = before.consumed + count

theorem Inbound.receive_received
    (stream : Nat → UInt8) (buffer count : Nat) (before : Inbound) :
    Inbound.Received stream buffer count before
      (before.receive stream buffer count) where
  filled := by
    intro index inside
    have inBuffer :
        buffer ≤ buffer + index ∧ buffer + index < buffer + count := by
      omega
    simp [Inbound.receive, inBuffer.2]
  untouched := by
    intro address outside
    exact if_neg (by omega)
  consumed := rfl

/-! ## Writing -/

/-- The `count` bytes of memory at `pointer`. -/
def bytesAt (memory : Nat → UInt8) (pointer count : Nat) : List UInt8 :=
  (List.range count).map fun index => memory (pointer + index)

theorem bytesAt_add
    (memory : Nat → UInt8) (pointer first second : Nat) :
    bytesAt memory pointer (first + second) =
      bytesAt memory pointer first ++
        bytesAt memory (pointer + first) second := by
  simp [bytesAt, List.range_add, Nat.add_assoc, Function.comp_def]

theorem bytesAt_prefix
    (memory : Nat → UInt8) (pointer : Nat) {fewer count : Nat}
    (le : fewer ≤ count) :
    bytesAt memory pointer fewer <+: bytesAt memory pointer count := by
  rcases Nat.exists_eq_add_of_le le with ⟨more, rfl⟩
  rw [bytesAt_add]
  exact List.prefix_append _ _

/-- The state of the writing side is the list of bytes handed to the peer. -/
def writing (memory : Nat → UInt8) : Channel (List UInt8) where
  effect := fun pointer count handed =>
    handed ++ bytesAt memory pointer count
  callFailed := "::send failed"
  operationFailed := "::WSASend failed"

theorem writing_composes (memory : Nat → UInt8) :
    (writing memory).Composes where
  effect_zero := by
    intro pointer handed
    simp [writing, bytesAt]
  effect_add := by
    intro pointer first second handed
    simp [writing, bytesAt_add]

/-! ## The operations of the socket -/

namespace Socket

/-- `Socket::read(buffer, count, e)`; `ret` is what `::recv` returns. -/
def read (stream : Nat → UInt8)
    (buffer : Nat) (e : ExceptionPtr) (inbound : Inbound) (ret : Int) :
    CallResult Inbound :=
  (reading stream).call buffer e inbound ret

/-- `Socket::readAll(buffer, count, e)`. -/
def readAll (stream : Nat → UInt8)
    (buffer : Nat) (count : UInt64) (e : ExceptionPtr) (inbound : Inbound)
    (replies : List Int) : Attempt Inbound :=
  (reading stream).loop count buffer count e inbound replies

/-- `Socket::readAllImpl(buffer, n, cb, count)`. -/
def readAllImpl (stream : Nat → UInt8)
    (buffer : Nat) (n count : UInt64) (inbound : Inbound)
    (completions : List OverlappedReply) : Attempt Inbound :=
  (reading stream).chain count buffer n inbound completions

/-- `Socket::readAll(buffer, count, cb)`. -/
def readAllCallback (stream : Nat → UInt8)
    (buffer : Nat) (count : UInt64) (inbound : Inbound)
    (completions : List OverlappedReply) : Attempt Inbound :=
  readAllImpl stream buffer count count inbound completions

/-- `Socket::write(buffer, count, e)`; `ret` is what `::send` returns. -/
def write (memory : Nat → UInt8)
    (buffer : Nat) (e : ExceptionPtr) (handed : List UInt8) (ret : Int) :
    CallResult (List UInt8) :=
  (writing memory).call buffer e handed ret

/-- `Socket::writeAll(buffer, count, e)`. -/
def writeAll (memory : Nat → UInt8)
    (buffer : Nat) (count : UInt64) (e : ExceptionPtr) (handed : List UInt8)
    (replies : List Int) : Attempt (List UInt8) :=
  (writing memory).loop count buffer count e handed replies

/-- `Socket::writeAllImpl(buffer, n, cb, count)`. -/
def writeAllImpl (memory : Nat → UInt8)
    (buffer : Nat) (n count : UInt64) (handed : List UInt8)
    (completions : List OverlappedReply) : Attempt (List UInt8) :=
  (writing memory).chain count buffer n handed completions

/-- `Socket::writeAll(buffer, count, cb)`. -/
def writeAllCallback (memory : Nat → UInt8)
    (buffer : Nat) (count : UInt64) (handed : List UInt8)
    (completions : List OverlappedReply) : Attempt (List UInt8) :=
  writeAllImpl memory buffer count count handed completions

/-! ## What a finished read has done -/

/--
A `readAll` that ends without an error, in either form and for any way the
stream was split, has filled the buffer with the next `count` bytes.
-/
theorem readAll_received
    (stream : Nat → UInt8) (buffer : Nat) (count : UInt64)
    (before : Inbound) :
    (∀ replies, CallsAdmissible count replies →
      ∀ value,
        (readAll stream buffer count none before replies).finished =
            some (value, none) →
          value = count ∧
            Inbound.Received stream buffer count.toNat before
              (readAll stream buffer count none before replies).world) ∧
      (∀ completions, CompletionsAdmissible count completions →
        ∀ value,
          (readAllCallback stream buffer count before completions).finished =
              some (value, none) →
            value = count ∧
              Inbound.Received stream buffer count.toNat before
                (readAllCallback stream buffer count before
                  completions).world) ∧
      (∀ replies completions,
        CallsAdmissible count replies →
          CompletionsAdmissible count completions →
            ∀ value value',
              (readAll stream buffer count none before replies).finished =
                  some (value, none) →
                (readAllCallback stream buffer count before
                    completions).finished = some (value', none) →
                  (readAll stream buffer count none before replies).world =
                    (readAllCallback stream buffer count before
                      completions).world) := by
  have called : ∀ replies, CallsAdmissible count replies → _ :=
    fun replies admissible =>
      (Channel.loop_moved (reading_composes stream) count buffer count before
        replies admissible).wholly
  have completed : ∀ completions,
      CompletionsAdmissible count completions → _ :=
    fun completions admissible =>
      (Channel.chain_moved (reading_composes stream) count buffer count
        before completions admissible).wholly
  refine ⟨?_, ?_, ?_⟩
  · intro replies admissible value ended
    rcases called replies admissible value ended with ⟨isCount, reached⟩
    refine ⟨isCount, ?_⟩
    rw [readAll, reached]
    exact Inbound.receive_received stream buffer count.toNat before
  · intro completions admissible value ended
    rcases completed completions admissible value ended with ⟨isCount, reached⟩
    refine ⟨isCount, ?_⟩
    rw [readAllCallback, readAllImpl, reached]
    exact Inbound.receive_received stream buffer count.toNat before
  · intro replies completions admissible admissible' value value' ended ended'
    rw [readAll, readAllCallback, readAllImpl,
      (called replies admissible value ended).2,
      (completed completions admissible' value' ended').2]

/-- Three bytes that come as two and one, or as one and two. -/
theorem readAll_received_three_bytes :
    Inbound.Received UInt8.ofNat 10 3 ⟨fun _ => 0, 5⟩
        (readAll UInt8.ofNat 10 3 none ⟨fun _ => 0, 5⟩ [2, 1]).world ∧
      (readAll UInt8.ofNat 10 3 none ⟨fun _ => 0, 5⟩ [2, 1]).world =
        (readAllCallback UInt8.ofNat 10 3 ⟨fun _ => 0, 5⟩
          [.completed true 1, .completed true 2]).world := by
  have received := readAll_received UInt8.ofNat 10 3 ⟨fun _ => 0, 5⟩
  have called : CallsAdmissible 3 [2, 1] :=
    fun _ _ => ⟨by decide, fun _ _ => ⟨by decide, trivial⟩⟩
  have completed :
      CompletionsAdmissible 3 [.completed true 1, .completed true 2] :=
    ⟨by decide, fun _ => ⟨by decide, fun _ => trivial⟩⟩
  exact
    ⟨(received.1 [2, 1] called 3 rfl).2,
      received.2.2 [2, 1] [.completed true 1, .completed true 2] called
        completed 3 3 rfl rfl⟩

/-! ## When the peer has closed the connection -/

/--
The byte counts of the first `calls` transfers from a peer whose stream came in
`chunks` and who has then closed the connection: every later one is zero.
-/
def endedStream (chunks : List UInt32) (calls : Nat) : List UInt32 :=
  (chunks ++ List.replicate calls 0).take calls

/-- What the successful calls of `::recv` return that transfer these counts. -/
def recvResults (counts : List UInt32) : List Int :=
  counts.map fun count => (count.toNat : Int)

/-- The completions of `WSARecv` that deliver these counts without error. -/
def recvCompletions (counts : List UInt32) : List OverlappedReply :=
  counts.map (OverlappedReply.completed true)

/-- The length of the stream that comes in these chunks. -/
def streamLength (chunks : List UInt32) : Nat :=
  (chunks.map UInt32.toNat).sum

theorem streamLength_append (first second : List UInt32) :
    streamLength (first ++ second) =
      streamLength first + streamLength second := by
  simp [streamLength]

theorem streamLength_endedStream_le
    (chunks : List UInt32) (calls : Nat) :
    streamLength (endedStream chunks calls) ≤ streamLength chunks := by
  have parts :=
    List.take_append_drop calls (chunks ++ List.replicate calls 0)
  calc
    streamLength (endedStream chunks calls)
        ≤ streamLength (endedStream chunks calls) +
            streamLength
              ((chunks ++ List.replicate calls 0).drop calls) :=
      Nat.le_add_right _ _
    _ = streamLength (chunks ++ List.replicate calls 0) := by
      rw [← parts, streamLength_append, parts]
      rfl
    _ = streamLength chunks := by
      simp [streamLength]

theorem recvResults_outcome (counts : List UInt32) :
    (recvResults counts).map callOutcome =
      (counts.map UInt32.toUInt64).map some := by
  rw [recvResults, List.map_map, List.map_map]
  refine List.map_congr_left fun count _ => ?_
  have nonnegative : ¬ (count.toNat : Int) < 0 := by omega
  simp [callOutcome, nonnegative]

theorem recvCompletions_outcome (counts : List UInt32) :
    (recvCompletions counts).map OverlappedReply.outcome =
      (counts.map UInt32.toUInt64).map some := by
  rw [recvCompletions, List.map_map, List.map_map]
  rfl

theorem streamLength_eq (counts : List UInt32) :
    ((counts.map UInt32.toUInt64).map UInt64.toNat).sum =
      streamLength counts := by
  simp [streamLength, Function.comp_def]

/-- `readAll` has returned after some number of calls of `read`. -/
def ReadAllReturns (stream : Nat → UInt8)
    (buffer : Nat) (count : UInt64) (e : ExceptionPtr) (inbound : Inbound)
    (chunks : List UInt32) : Prop :=
  ∃ calls,
    (readAll stream buffer count e inbound
      (recvResults (endedStream chunks calls))).finished.isSome

/-- The callback form has called back after some number of completions. -/
def ReadAllCallsBack (stream : Nat → UInt8)
    (buffer : Nat) (count : UInt64) (inbound : Inbound)
    (chunks : List UInt32) : Prop :=
  ∃ calls,
    (readAllCallback stream buffer count inbound
      (recvCompletions (endedStream chunks calls))).finished.isSome

theorem not_readAllReturns
    (stream : Nat → UInt8) (buffer : Nat) (count : UInt64)
    (inbound : Inbound) (chunks : List UInt32)
    (short : streamLength chunks < count.toNat) :
    ¬ ReadAllReturns stream buffer count none inbound chunks := by
  rintro ⟨calls, returned⟩
  have le := streamLength_endedStream_le chunks calls
  have unfinished :=
    (reading stream).loop_unfinished count buffer count inbound
      (recvResults_outcome (endedStream chunks calls))
      (by rw [streamLength_eq]; exact Nat.lt_of_le_of_lt le short)
  rw [readAll, unfinished] at returned
  cases returned

theorem not_readAllCallsBack
    (stream : Nat → UInt8) (buffer : Nat) (count : UInt64)
    (inbound : Inbound) (chunks : List UInt32)
    (short : streamLength chunks < count.toNat) :
    ¬ ReadAllCallsBack stream buffer count inbound chunks := by
  rintro ⟨calls, calledBack⟩
  have le := streamLength_endedStream_le chunks calls
  have unfinished :=
    (reading stream).chain_unfinished count buffer count inbound
      (recvCompletions_outcome (endedStream chunks calls))
      (by rw [streamLength_eq]; exact Nat.lt_of_le_of_lt le short)
  rw [readAllCallback, readAllImpl, unfinished] at calledBack
  cases calledBack

/-- An exception left in `e` by the caller ends the loop after one call. -/
theorem readAllReturns_of_exception
    (stream : Nat → UInt8) (buffer : Nat) (count : UInt64)
    (e : ExceptionPtr) (inbound : Inbound) (chunks : List UInt32)
    (before : e.isSome) :
    ReadAllReturns stream buffer count e inbound chunks := by
  refine ⟨1, ?_⟩
  cases chunks with
  | nil =>
      exact (reading stream).loop_of_exception count buffer count inbound 0
        before
  | cons first rest =>
      exact (reading stream).loop_of_exception count buffer count inbound
        first.toNat before

/--
A stream that ends before `count` bytes is never the end of `readAll`: a result
of zero bytes leaves the remaining length as it is.  The loop goes on calling
`read` unless `e` was set before it, and the callback is never called.  The
results are handed over whatever length is asked for.  From a count of `2 ^ 31`
on that length can be a negative `int`, with which the real `::recv` fails; of
such a failure nothing is said here.
-/
theorem readAll_endOfStream
    (stream : Nat → UInt8) (buffer : Nat) (count : UInt64)
    (e : ExceptionPtr) (inbound : Inbound) (chunks : List UInt32)
    (short : streamLength chunks < count.toNat) :
    (ReadAllReturns stream buffer count e inbound chunks ↔ e.isSome) ∧
      ¬ ReadAllCallsBack stream buffer count inbound chunks := by
  refine ⟨⟨?_, ?_⟩, ?_⟩
  · intro returns
    cases e with
    | none =>
        exact
          absurd returns
            (not_readAllReturns stream buffer count inbound chunks short)
    | some _ => rfl
  · exact readAllReturns_of_exception stream buffer count e inbound chunks
  · exact not_readAllCallsBack stream buffer count inbound chunks short

/-- One byte of two, and then the end of the stream. -/
theorem readAll_endOfStream_one_byte :
    streamLength [1] < (2 : UInt64).toNat ∧
      (ReadAllReturns (fun _ => 7) 0 2 none ⟨fun _ => 0, 0⟩ [1] ↔
        (none : ExceptionPtr).isSome) ∧
      ¬ ReadAllCallsBack (fun _ => 7) 0 2 ⟨fun _ => 0, 0⟩ [1] :=
  ⟨by decide,
    readAll_endOfStream (fun _ => 7) 0 2 none ⟨fun _ => 0, 0⟩ [1]
      (by decide)⟩

/--
The peer closes the connection without sending anything: a `readAll` of one
byte does not return and does not call back.
-/
theorem readAll_waits_forever :
    ¬ ReadAllReturns (fun _ => 7) 0 1 none ⟨fun _ => 0, 0⟩ [] ∧
      ¬ ReadAllCallsBack (fun _ => 7) 0 1 ⟨fun _ => 0, 0⟩ [] ∧
      ¬ (∀ (stream : Nat → UInt8) (buffer : Nat) (count : UInt64)
          (inbound : Inbound) (chunks : List UInt32),
          streamLength chunks < count.toNat →
            ReadAllReturns stream buffer count none inbound chunks ∧
              ReadAllCallsBack stream buffer count inbound chunks) := by
  have notReturns :=
    not_readAllReturns (fun _ => 7) 0 1 ⟨fun _ => 0, 0⟩ [] (by decide)
  refine
    ⟨notReturns,
      not_readAllCallsBack (fun _ => 7) 0 1 ⟨fun _ => 0, 0⟩ [] (by decide),
      ?_⟩
  intro terminates
  exact
    notReturns
      (terminates (fun _ => 7) 0 1 ⟨fun _ => 0, 0⟩ [] (by decide)).1

/-! ## What the peer has received -/

/--
At every moment of a `writeAll` the bytes handed to the peer are a prefix of
the buffer; when it ends without an error they are the whole buffer.
-/
theorem writeAll_handedOver
    (memory : Nat → UInt8) (buffer : Nat) (count : UInt64)
    (before : List UInt8) :
    (∀ replies, CallsAdmissible count replies →
      (∃ handed, handed <+: bytesAt memory buffer count.toNat ∧
        (writeAll memory buffer count none before replies).world =
          before ++ handed) ∧
        ∀ value,
          (writeAll memory buffer count none before replies).finished =
              some (value, none) →
            value = count ∧
              (writeAll memory buffer count none before replies).world =
                before ++ bytesAt memory buffer count.toNat) ∧
      (∀ completions, CompletionsAdmissible count completions →
        (∃ handed, handed <+: bytesAt memory buffer count.toNat ∧
          (writeAllCallback memory buffer count before completions).world =
            before ++ handed) ∧
          ∀ value,
            (writeAllCallback memory buffer count before
                completions).finished = some (value, none) →
              value = count ∧
                (writeAllCallback memory buffer count before
                    completions).world =
                  before ++ bytesAt memory buffer count.toNat) := by
  constructor
  · intro replies admissible
    have moved :=
      Channel.loop_moved (writing_composes memory) count buffer count before
        replies admissible
    rcases moved.partly with ⟨handed, le, reached⟩
    exact
      ⟨⟨bytesAt memory buffer handed, bytesAt_prefix memory buffer le,
        reached⟩, moved.wholly⟩
  · intro completions admissible
    have moved :=
      Channel.chain_moved (writing_composes memory) count buffer count before
        completions admissible
    rcases moved.partly with ⟨handed, le, reached⟩
    exact
      ⟨⟨bytesAt memory buffer handed, bytesAt_prefix memory buffer le,
        reached⟩, moved.wholly⟩

/-- Three bytes of which two are accepted before an error. -/
theorem writeAll_handedOver_two_bytes :
    (∃ handed,
        handed <+: bytesAt UInt8.ofNat 10 3 ∧
          (writeAll UInt8.ofNat 10 3 none [] [2, -1]).world = [] ++ handed) ∧
      (writeAllCallback UInt8.ofNat 10 3 []
          [.completed true 1, .completed true 2]).world =
        [] ++ bytesAt UInt8.ofNat 10 3 := by
  have handedOver := writeAll_handedOver UInt8.ofNat 10 3 []
  have called : CallsAdmissible 3 [2, -1] :=
    fun _ _ => ⟨by decide, fun _ positive => absurd positive (by decide)⟩
  have completed :
      CompletionsAdmissible 3 [.completed true 1, .completed true 2] :=
    ⟨by decide, fun _ => ⟨by decide, fun _ => trivial⟩⟩
  exact
    ⟨(handedOver.1 [2, -1] called).1,
      ((handedOver.2 [.completed true 1, .completed true 2] completed).2 3
        rfl).2⟩

/-! ## The two forms against each other -/

/-- The forms of `readAll` report the same and use up the same outcomes. -/
def ReadFormsAgree (stream : Nat → UInt8)
    (buffer : Nat) (count : UInt64) (inbound : Inbound)
    (replies : List Int) (completions : List OverlappedReply) : Prop :=
  (readAll stream buffer count none inbound replies).report =
      (readAllCallback stream buffer count inbound completions).report ∧
    (readAll stream buffer count none inbound replies).used =
      (readAllCallback stream buffer count inbound completions).used

/-- The forms of `writeAll` report the same and use up the same outcomes. -/
def WriteFormsAgree (memory : Nat → UInt8)
    (buffer : Nat) (count : UInt64) (handed : List UInt8)
    (replies : List Int) (completions : List OverlappedReply) : Prop :=
  (writeAll memory buffer count none handed replies).report =
      (writeAllCallback memory buffer count handed completions).report ∧
    (writeAll memory buffer count none handed replies).used =
      (writeAllCallback memory buffer count handed completions).used

/--
For one sequence of outcomes the two forms agree exactly when the buffer is not
empty and no transfer fails before `count` bytes have been moved.
-/
theorem forms_agree_iff
    (stream memory : Nat → UInt8) (buffer : Nat) (count : UInt64)
    (inbound : Inbound) (handed : List UInt8)
    (replies : List Int) (completions : List OverlappedReply)
    (same :
      replies.map callOutcome = completions.map OverlappedReply.outcome) :
    (ReadFormsAgree stream buffer count inbound replies completions ↔
        count ≠ 0 ∧ ErrorsComeLate count (replies.map callOutcome)) ∧
      (WriteFormsAgree memory buffer count handed replies completions ↔
        count ≠ 0 ∧ ErrorsComeLate count (replies.map callOutcome)) :=
  ⟨(reading stream).agree_iff count buffer inbound replies completions
      same,
    (writing memory).agree_iff count buffer handed replies completions
      same⟩

/-- Three bytes in two transfers, after which an error is not reached. -/
theorem forms_agree_three_bytes :
    [2, 1, -1].map callOutcome =
        [.completed true 2, .completed true 1, .rejected].map
          OverlappedReply.outcome ∧
      ((ReadFormsAgree (fun _ => 7) 0 3 ⟨fun _ => 0, 0⟩ [2, 1, -1]
            [.completed true 2, .completed true 1, .rejected] ↔
          (3 : UInt64) ≠ 0 ∧
            ErrorsComeLate 3 ([2, 1, -1].map callOutcome)) ∧
        (WriteFormsAgree (fun _ => 7) 0 3 [] [2, 1, -1]
            [.completed true 2, .completed true 1, .rejected] ↔
          (3 : UInt64) ≠ 0 ∧
            ErrorsComeLate 3 ([2, 1, -1].map callOutcome))) :=
  ⟨by decide,
    forms_agree_iff (fun _ => 7) (fun _ => 7) 0 3 ⟨fun _ => 0, 0⟩ []
      [2, 1, -1] [.completed true 2, .completed true 1, .rejected]
      (by decide)⟩

/--
One byte and an error at once: `readAll` returns zero through `e` and passes
one to its callback, and an empty buffer costs the callback form an operation.
-/
theorem forms_disagree :
    (readAll (fun _ => 7) 0 1 none ⟨fun _ => 0, 0⟩ [-1]).report =
        some (0, true) ∧
      (readAllCallback (fun _ => 7) 0 1 ⟨fun _ => 0, 0⟩
          [.rejected]).report = some (1, true) ∧
      (writeAll (fun _ => 7) 0 1 none [] [-1]).report = some (0, true) ∧
      (writeAllCallback (fun _ => 7) 0 1 [] [.rejected]).report =
        some (1, true) ∧
      (readAll (fun _ => 7) 0 0 none ⟨fun _ => 0, 0⟩ [0]).used = 0 ∧
      (readAllCallback (fun _ => 7) 0 0 ⟨fun _ => 0, 0⟩
          [.completed true 0]).used = 1 ∧
      ¬ (∀ (stream : Nat → UInt8) (buffer : Nat) (count : UInt64)
          (inbound : Inbound) (replies : List Int)
          (completions : List OverlappedReply),
          replies.map callOutcome =
              completions.map OverlappedReply.outcome →
            ReadFormsAgree stream buffer count inbound replies
              completions) := by
  refine ⟨by decide, by decide, by decide, by decide, by decide, by decide, ?_⟩
  intro agree
  have same :=
    (agree (fun _ => 7) 0 1 ⟨fun _ => 0, 0⟩ [-1] [.rejected] (by decide)).1
  revert same
  decide

end Socket

end Netycat.Impl
