import Netycat.Network.Conversation

/-!
# The echo example

The client sends the length of its text in one byte and then the text; the
server reads both, prints the text, and sends both back; the client prints what
it gets.  The synchronous example uses the `ExceptionPtr` form and the
coroutines of the asynchronous one the callback form; what they do is the same.
The text is not empty.  With an empty one the server of the asynchronous example
would wait for a read of no bytes, which nothing that is still to come completes.

One run in which both finish is enough, by what has been proved about all
conversations.
-/

namespace Netycat.Network

open Netycat.Corecat Netycat.Impl Netycat.Lib.Processes

/-- A text that is not empty, in a buffer of 256 characters, the last of which
ends it. -/
structure Text where
  data : List UInt8
  nonempty : data ≠ []
  fits : data.length < 256

/-- `std::uint8_t size` -/
def Text.size (text : Text) : UInt8 :=
  UInt8.ofNat text.data.length

@[simp]
theorem Text.size_toNat (text : Text) :
    text.size.toNat = text.data.length :=
  UInt8.toNat_ofNat_of_lt' text.fits

namespace Program

/-- `writeAll(buffer, size)` -/
def writeSized (form : Form) (buffer : List UInt8) (size : UInt8)
    (next : Program (List UInt8)) : Program (List UInt8) :=
  if nonempty : buffer.take size.toNat ≠ [] then
    .writeAll
      { data := buffer.take size.toNat
        nonempty := nonempty
        fits := by
          have small := size.toNat_lt
          rw [List.length_take]
          omega }
      next
  else nothing form next

/-- `readAll(buffer, size)` -/
def readSized (form : Form) (size : UInt8)
    (next : List UInt8 → Program (List UInt8)) : Program (List UInt8) :=
  if nonzero : size ≠ 0 then
    .readAll
      { count := size.toUInt64
        positive := fun zero =>
          nonzero (UInt8.toNat_inj.mp (congrArg UInt64.toNat zero))
        fits := by
          have small := size.toNat_lt
          rw [UInt8.toNat_toUInt64]
          omega }
      next
  else nothing form (next [])

section Sized

variable (form : Form) (buffer : List UInt8) (size : UInt8)

theorem process_writeSized
    (nonempty : buffer.take size.toNat ≠ [])
    (next : Program (List UInt8)) :
    (writeSized form buffer size next).process =
      .sendAll next.process (buffer.take size.toNat) := by
  rw [writeSized, dif_pos nonempty]
  rfl

theorem process_readSized
    (nonzero : size ≠ 0)
    (next : List UInt8 → Program (List UInt8)) :
    (readSized form size next).process =
      .receiveAll size.toNat fun bytes => (next bytes).process := by
  rw [readSized, dif_pos nonzero]
  rfl

/-- The byte with the size is always a transfer of something. -/
theorem process_writeSize (next : Program (List UInt8)) :
    (writeSized form [size] 1 next).process = .sendAll next.process [size] :=
  process_writeSized form [size] 1 (List.cons_ne_nil _ _) next

theorem process_readSize (next : List UInt8 → Program (List UInt8)) :
    (readSized form 1 next).process =
      .receiveAll 1 fun bytes => (next bytes).process :=
  process_readSized form 1 (by decide) next

end Sized

end Program

/-- `runServer`, and `Server::operator ()`.  The result is what is printed. -/
def runServer (form : Form) : Program (List UInt8) :=
  .readSized form 1 fun sizes =>
    .readSized form (sizes.headD 0) fun buffer =>
      .writeSized form sizes 1
        (.writeSized form buffer (sizes.headD 0) (.finished buffer))

/-- `runClient`, and `Client::operator ()`.  The result is what is printed at
the end. -/
def runClient (form : Form) (text : Text) : Program (List UInt8) :=
  .writeSized form [text.size] 1
    (.writeSized form text.data text.size
      (.readSized form 1 fun sizes =>
        .readSized form (sizes.headD 0) fun buffer => .finished buffer))

/-- The two sides of the example. -/
def echo (form : Side → Form) (text : Text) : Side → Program (List UInt8)
  | .left => runClient (form .left) text
  | .right => runServer (form .right)

/-! ## One run -/

section Processes

variable (form : Form) (text : Text)

theorem Text.size_ne : text.size ≠ 0 := by
  intro zero
  have length := congrArg UInt8.toNat zero
  rw [text.size_toNat] at length
  exact text.nonempty (List.eq_nil_of_length_eq_zero length)

theorem Text.take_size : text.data.take text.size.toNat = text.data := by
  rw [text.size_toNat, List.take_length]

/-- The text is sent as a whole. -/
theorem process_writeText (next : Program (List UInt8)) :
    (Program.writeSized form text.data text.size next).process =
      .sendAll next.process text.data := by
  have whole := text.take_size
  rw [Program.process_writeSized form _ _ (by rw [whole]; exact text.nonempty),
    whole]

/-- Told the size of the text, a side reads as many bytes. -/
theorem process_readText (next : List UInt8 → Program (List UInt8)) :
    (Program.readSized form text.size next).process =
      .receiveAll text.data.length fun bytes => (next bytes).process := by
  rw [Program.process_readSized form _ text.size_ne, text.size_toNat]

/-- What the server does when it has read a size and a text. -/
def answer (sizes buffer : List UInt8) : Program (List UInt8) :=
  .writeSized form sizes 1
    (.writeSized form buffer (sizes.headD 0) (.finished buffer))

theorem process_answer :
    (answer form [text.size] text.data).process =
      .sendAll (.sendAll (.done text.data) text.data) [text.size] := by
  rw [answer, Program.process_writeSize]
  exact congrArg (Process.sendAll · _) (process_writeText form text _)

theorem process_runServer :
    (runServer form).process =
      .receiveAll 1 fun sizes =>
        (Program.readSized form (sizes.headD 0) (answer form sizes)).process :=
  Program.process_readSize form _

theorem process_runClient :
    (runClient form text).process =
      .sendAll
        (.sendAll
          (.receiveAll 1 fun sizes =>
            (Program.readSized form (sizes.headD 0) .finished).process)
          text.data)
        [text.size] := by
  rw [runClient, Program.process_writeSize, process_writeText,
    Program.process_readSize]

end Processes

/-- The size and the text pass to the server, and then both pass back. -/
def turns (text : Text) : List Side :=
  let pass (side : Side) (count : Nat) :=
    List.replicate count side ++ List.replicate count side.other
  pass .left 1 ++ (pass .left text.data.length ++
    (pass .right 1 ++ pass .right text.data.length))

theorem length_turns (text : Text) :
    (turns text).length = 4 * (text.data.length + 1) := by
  simp [turns]
  omega

theorem echo_turns
    (form : Side → Form)
    (text : Text)
    (initial : Pair UInt8 (List UInt8)) :
    (network initial).runFrom
        ⟨fun side => (echo form text side).process, fun _ => []⟩
        (turns text) =
      some (.facing .right (.done text.data) (.done text.data) [] []) := by
  have start :
      (⟨fun side => (echo form text side).process, fun _ => []⟩ :
          Pair UInt8 (List UInt8)) =
        .facing .left (runClient (form .left) text).process
          (runServer (form .right)).process [] [] := by
    simp only [Pair.facing, Pair.mk.injEq, ite_self, and_true]
    funext side
    cases side with
    | left | right => rfl
  have sizeOver :=
    runFrom_handOver initial .left
      (.sendAll
        (.receiveAll 1 fun sizes =>
          (Program.readSized (form .left) (sizes.headD 0) .finished).process)
        text.data)
      (fun sizes =>
        (Program.readSized (form .right) (sizes.headD 0)
          (answer (form .right) sizes)).process)
      [text.size]
  have textOver :=
    runFrom_handOver initial .left
      (.receiveAll 1 fun sizes =>
        (Program.readSized (form .left) (sizes.headD 0) .finished).process)
      (fun buffer => (answer (form .right) [text.size] buffer).process)
      text.data
  have sizeBack :=
    runFrom_handOver initial .right (.sendAll (.done text.data) text.data)
      (fun sizes =>
        (Program.readSized (form .left) (sizes.headD 0) .finished).process)
      [text.size]
  have textBack :=
    runFrom_handOver initial .right (.done text.data) .done text.data
  rw [List.length_singleton, List.headD_cons, process_readText] at sizeOver
  rw [process_answer] at textOver
  rw [List.length_singleton, List.headD_cons, process_readText] at sizeBack
  rw [start, process_runClient, process_runServer, turns,
    TransitionSystem.runFrom_append, sizeOver, Option.bind_some,
    TransitionSystem.runFrom_append, textOver, Option.bind_some,
    ← Pair.facing_other .left, TransitionSystem.runFrom_append]
  exact (congrArg (Option.bind · _) sizeBack).trans textBack

/-- Whatever chunks the bytes come in, whatever the order of the calls is and
whichever form each side uses, the example never gets stuck: its run can be
continued until both sides have finished, and then both have printed the text,
after as many bytes as there are in two sizes and two texts, each sent and
received. -/
theorem echo_prints
    {form : Side → Form}
    {text : Text}
    {actions : List (Side × UInt32)}
    {middle : Conversation (List UInt8)}
    (taken :
      (conversation form (echo form text)).run actions = some middle) :
    (∃ rest final,
        (conversation form (echo form text)).runFrom middle rest =
            some final ∧
          (final.Finished fun _ => text.data) ∧
          bytesMoved actions + bytesMoved rest =
            4 * (text.data.length + 1)) ∧
      ((conversation form (echo form text)).Final middle →
        middle.Finished fun _ => text.data) ∧
      ∀ result, middle.Finished result → result = fun _ => text.data := by
  have sound := @conversation_init_sound _ form (echo form text)
  have pair := @conversation_init_pair _ form (echo form text)
  have one :=
    echo_turns form text
      ⟨fun side => (echo form text side).process, fun _ => []⟩
  rw [← pair] at one
  rcases @conversation_follows _ form (echo form text) _ _ _ _ sound one with
    ⟨last, follows, isSound, isPair⟩
  have finished : last.Finished fun _ => text.data := by
    apply isSound.finished
    intro side
    rw [isPair]
    exact ite_self _
  have moved :
      bytesMoved ((turns text).map fun side => (side, 1)) =
        4 * (text.data.length + 1) := by
    rw [bytesMoved_bytewise, length_turns]
  rcases conversation_completes follows finished taken with
    ⟨rest, final, further, ends, count⟩
  rw [moved] at count
  refine ⟨⟨rest, final, further, ends, count⟩, ?_, ?_⟩
  · intro stuck
    exact stuck.runFrom_eq further ▸ ends
  · intro result already
    exact already.unique further ends

def greeting : Text where
  data := [72, 105]
  nonempty := by decide
  fits := by decide

/-- The client has written the size and one of two characters, and the server
has read the size.  Of twelve bytes nine are left. -/
theorem echo_prints_greeting :
    ∃ rest final,
      (conversation (fun _ => .callback)
            (echo (fun _ => .callback) greeting)).run
          ([(.left, 1), (.left, 1), (.right, 1)] ++ rest) = some final ∧
        (final.Finished fun _ => [72, 105]) ∧ bytesMoved rest = 9 := by
  let begun :=
    (conversation (fun _ => .callback)
      (echo (fun _ => .callback) greeting)).run
        [(.left, 1), (.left, 1), (.right, 1)]
  have hasBegun : begun.isSome := by decide
  have taken : begun = some (begun.get hasBegun) :=
    (Option.some_get hasBegun).symm
  rcases (echo_prints taken).1 with ⟨rest, final, follows, ends, count⟩
  have moved : 3 + bytesMoved rest = 3 + 9 := count
  refine ⟨rest, final, ?_, ends, Nat.add_left_cancel moved⟩
  rw [TransitionSystem.run, TransitionSystem.runFrom_append]
  exact (congrArg (Option.bind · _) taken).trans follows

end Netycat.Network
