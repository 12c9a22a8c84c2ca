import Netycat.Network.Datagrams
import Netycat.Network.FailedOpen
import Netycat.Lib.TransitionSystem

/-!
# An error that is still there

The operations that take an `ExceptionPtr` by reference set it when a step
fails and leave it alone otherwise.  Those with several steps also read it:
after each step they end if it is set.  A caller who passes an error from an
earlier call ends such an operation after a step that succeeded.

Each operation is compared with the same operation on an empty pointer, by
what it returns, by the socket that it leaves, and by how many of its steps it
has made.
-/

namespace Netycat.Impl

open Netycat.Corecat

/-! ## Loops -/

section Loops

variable {World : Type*} (channel : Channel World)

/-- A loop that makes no call has nothing left, or waits. -/
theorem Channel.loop_of_unused
    (count : UInt64)
    (p : Nat)
    (n : UInt64)
    (e : ExceptionPtr)
    (world : World)
    (replies : List Int)
    (unused : (channel.loop count p n e world replies).used = 0) :
    (channel.loop count p n e world replies).finished = none ∨
      (channel.loop count p n e world replies).finished = some (count, e) := by
  cases replies with
  | nil =>
      rw [Channel.loop]
      split
      · exact Or.inr rfl
      · exact Or.inl rfl
  | cons reply rest =>
      by_cases nothing : n = 0
      · rw [Channel.loop, if_pos nothing]
        exact Or.inr rfl
      · exfalso
        rw [Channel.loop, if_neg nothing] at unused
        by_cases set : (channel.call p e world reply).e.isSome
        · simp only [set, if_true] at unused
          cases unused
        · simp only [set] at unused
          cases unused

/-- A loop with an error from before ends with its first call. -/
theorem Channel.loop_of_some
    (count : UInt64)
    (p : Nat)
    {n : UInt64}
    (remaining : n ≠ 0)
    (exception : Exception)
    (world : World)
    (reply : Int)
    (rest : List Int) :
    ∃ e after,
      channel.loop count p n (some exception) world (reply :: rest) =
        ⟨some (0, e), 1, after⟩ := by
  have set :=
    channel.call_of_exception p world reply
      (show (some exception : ExceptionPtr).isSome from rfl)
  rw [Channel.loop, if_neg remaining]
  exact ⟨_, _, if_pos set⟩

/-- A loop without one goes on after a call that succeeds. -/
theorem Channel.loop_of_none
    (count : UInt64)
    (p : Nat)
    {n : UInt64}
    (remaining : n ≠ 0)
    (world : World)
    {reply : Int}
    (succeeds : ¬reply < 0)
    (rest : List Int) :
    ∃ p' n' after,
      channel.loop count p n none world (reply :: rest) =
        (channel.loop count p' n' none after rest).afterCall := by
  have transferred : callOutcome reply = some (UInt64.ofNat reply.toNat) :=
    if_neg succeeds
  rw [Channel.loop, if_neg remaining, channel.call_of_some transferred]
  exact ⟨_, _, _, rfl⟩

/-- Calls that succeed and together move `n` bytes end the loop. -/
theorem Channel.loop_done
    (count : UInt64)
    (p : Nat)
    (n : UInt64)
    (world : World)
    {replies : List Int}
    {moved : List UInt64}
    (transferred : replies.map callOutcome = moved.map some)
    (whole : (moved.map UInt64.toNat).sum = n.toNat) :
    (channel.loop count p n none world replies).finished =
      some (count, none) := by
  induction replies generalizing p n world moved with
  | nil =>
      have nothing : moved = [] := List.map_eq_nil_iff.mp transferred.symm
      rw [nothing] at whole
      have zero : n = 0 := UInt64.toNat_inj.mp whole.symm
      rw [Channel.loop, if_pos zero]
  | cons reply rest induction =>
      cases moved with
      | nil => cases transferred
      | cons first others =>
          have parts := List.cons.inj transferred
          by_cases nothing : n = 0
          · rw [Channel.loop, if_pos nothing]
          · rw [List.map_cons, List.sum_cons] at whole
            have less : first ≤ n := by
              rw [UInt64.le_iff_toNat_le]
              omega
            have left :
                (others.map UInt64.toNat).sum = (n - first).toNat := by
              rw [UInt64.toNat_sub_of_le _ _ less]
              omega
            rw [Channel.loop, if_neg nothing, channel.call_of_some parts.1]
            exact induction _ _ _ parts.2 left

end Loops

end Netycat.Impl

namespace Netycat.Network

open Netycat.Corecat Netycat.IP Netycat.Impl

/-! ## Calls -/

/-- What the calls work on: the socket object, local memory with the bytes
that come from the peer, the bytes that the peer has been handed, and the
variables that the address of a sender is read into. -/
structure Surroundings where
  socket : Owner
  inbound : Inbound
  handed : List UInt8
  address : IPAddress
  port : UInt16

/-- A call of an operation that reports through an `ExceptionPtr`, with what
the operating system makes of its steps. -/
inductive Call where
  | readAll (buffer : Nat) (count : UInt64) (replies : List Int)
  | writeAll (buffer : Nat) (count : UInt64) (replies : List Int)
  | connect (address : IPAddress) (port : UInt16) (reply : HandleReply)
      (attached connected : Bool)
  | listen (address : IPAddress) (port : UInt16) (reply : HandleReply)
      (attached bound listening : Bool)
  | bind (address : IPAddress) (port : UInt16) (reply : HandleReply)
      (attached bound : Bool)
  | readFrom (buffer : Nat) (reply : Recvfrom)
  | writeTo (buffer : Nat) (address : IPAddress) (port : UInt16) (ret : Int)

/-- A call has not returned, has ended the program, or has returned.  The
value of a function without one is zero. -/
inductive Ending where
  | waiting
  | aborted
  | returned (value : UInt64)
deriving DecidableEq, Repr

/-- How a call ends, how many of the steps it has made that are given the
`ExceptionPtr`, and what it leaves behind. -/
structure Performed where
  ending : Ending
  steps : Nat
  surroundings : Surroundings
  e : ExceptionPtr

/-- A transfer of a whole buffer. -/
def Performed.ofAttempt {World : Type*} (attempt : Attempt World)
    (leave : World → Surroundings) (e : ExceptionPtr) : Performed where
  ending :=
    match attempt.finished with
    | none => .waiting
    | some (value, _) => .returned value
  steps := attempt.used
  surroundings := leave attempt.world
  e :=
    match attempt.finished with
    | none => e
    | some (_, e) => e

/-- One of the three functions that open a socket. -/
def Performed.ofOpening (opened : Option (Owner × ExceptionPtr))
    (steps : Nat) (surroundings : Surroundings) (e : ExceptionPtr) :
    Performed :=
  match opened with
  | none => ⟨.aborted, steps, surroundings, e⟩
  | some (socket, e) =>
      ⟨.returned 0, steps, { surroundings with socket := socket }, e⟩

/-- How many calls `finish` makes. -/
def finishSteps (e : ExceptionPtr) :
    List (ExceptionPtr → ExceptionPtr) → Nat
  | [] => 0
  | call :: calls =>
      if (call e).isSome then 1 else finishSteps (call e) calls + 1

section Operations

variable (endian : Endian) (stream : Nat → UInt8)

/-- How many steps `openEndpoint` makes. -/
def openSteps
    (socket : Owner) (type protocol : Int)
    (address : IPAddress) (port : UInt16)
    (calls : List (ExceptionPtr → ExceptionPtr))
    (reply : HandleReply) (attached : Bool) (e : ExceptionPtr) : Nat :=
  match socket.socket (familyOf address) type protocol reply attached e with
  | none => 1
  | some (_, e) =>
      if e.isSome then 1
      else
        let saddr := encode endian address port e
        if saddr.e.isSome then 2 else finishSteps saddr.e calls + 2

/-- How many steps `UDPSocket::readFrom` makes. -/
def readFromSteps
    (buffer : Nat) (e : ExceptionPtr) (inbound : Inbound)
    (reply : Recvfrom) : Nat :=
  if (Socket.readFrom stream buffer e inbound reply).e.isSome then 1 else 2

/-- How many steps `UDPSocket::writeTo` makes. -/
def writeToSteps
    (address : IPAddress) (port : UInt16) (e : ExceptionPtr) : Nat :=
  if (encode endian address port e).e.isSome then 1 else 2

/-- The call, with `e` as it is on entry. -/
def Call.perform (call : Call) (surroundings : Surroundings)
    (e : ExceptionPtr) : Performed :=
  match call with
  | .readAll buffer count replies =>
      .ofAttempt
        (Socket.readAll stream buffer count e surroundings.inbound replies)
        (fun inbound => { surroundings with inbound := inbound }) e
  | .writeAll buffer count replies =>
      .ofAttempt
        (Socket.writeAll surroundings.inbound.memory buffer count e
          surroundings.handed replies)
        (fun handed => { surroundings with handed := handed }) e
  | .connect address port reply attached connected =>
      .ofOpening
        (TCPSocket.connect endian surroundings.socket address port reply
          attached connected e)
        (openSteps endian surroundings.socket SOCK_STREAM IPPROTO_TCP address
          port [Socket.connect connected] reply attached e)
        surroundings e
  | .listen address port reply attached bound listening =>
      .ofOpening
        (TCPServer.listen endian surroundings.socket address port reply
          attached bound listening e)
        (openSteps endian surroundings.socket SOCK_STREAM IPPROTO_TCP address
          port [Socket.bind bound, Socket.listen listening] reply attached e)
        surroundings e
  | .bind address port reply attached bound =>
      .ofOpening
        (UDPSocket.bind endian surroundings.socket address port reply
          attached bound e)
        (openSteps endian surroundings.socket SOCK_DGRAM IPPROTO_UDP address
          port [Socket.bind bound] reply attached e)
        surroundings e
  | .readFrom buffer reply =>
      let read :=
        UDPSocket.readFrom endian stream buffer surroundings.address
          surroundings.port e surroundings.inbound reply
      ⟨.returned read.value,
        readFromSteps stream buffer e surroundings.inbound reply,
        { surroundings with
            inbound := read.inbound
            address := read.address
            port := read.port },
        read.e⟩
  | .writeTo buffer address port ret =>
      let written :=
        UDPSocket.writeTo endian surroundings.inbound.memory buffer address
          port e surroundings.handed ret
      ⟨.returned written.value, writeToSteps endian address port e,
        { surroundings with handed := written.world }, written.e⟩

end Operations

/-- The value returned, the socket, and how far the call has come are the
same. -/
structure Unaffected (actual fresh : Performed) : Prop where
  ending : actual.ending = fresh.ending
  steps : actual.steps = fresh.steps
  socket : actual.surroundings.socket = fresh.surroundings.socket

/-- The call has returned zero after its first step. -/
structure Performed.Stopped (performed : Performed) : Prop where
  ending : performed.ending = .returned 0
  steps : performed.steps = 1

theorem Unaffected.stopped
    {actual fresh : Performed}
    (unaffected : Unaffected actual fresh)
    (stopped : actual.Stopped) :
    fresh.Stopped where
  ending := unaffected.ending.symm.trans stopped.ending
  steps := unaffected.steps.symm.trans stopped.steps

/-- A function that opens a socket does not get one, or ends the program. -/
def OpensNothing (socket : Owner) (reply : HandleReply) (attached : Bool) :
    Prop :=
  reply = none ∨ (socket.self.executor && !attached) = true

/-- The first transfer of a loop over `count` bytes is not made, is not
completed, or fails. -/
def TransfersNothing (count : UInt64) (replies : List Int) : Prop :=
  count = 0 ∨ replies = [] ∨ ∃ reply rest, replies = reply :: rest ∧ reply < 0

/-- The call ends no later than with its first step, whatever `e` holds. -/
def Call.EndsFirst (call : Call) (surroundings : Surroundings) : Prop :=
  match call with
  | .readAll _ count replies => TransfersNothing count replies
  | .writeAll _ count replies => TransfersNothing count replies
  | .connect _ _ reply attached _ =>
      OpensNothing surroundings.socket reply attached
  | .listen _ _ reply attached _ _ =>
      OpensNothing surroundings.socket reply attached
  | .bind _ _ reply attached _ =>
      OpensNothing surroundings.socket reply attached
  | .readFrom _ reply => reply.ret < 0
  | .writeTo _ _ _ _ => False

/-- Every step that the operating system is asked for succeeds, and those of a
loop together move the whole buffer. -/
def Call.Succeeds (call : Call) (surroundings : Surroundings) : Prop :=
  match call with
  | .readAll _ count replies =>
      ∃ moved : List UInt64,
        replies.map callOutcome = moved.map some ∧
          (moved.map UInt64.toNat).sum = count.toNat
  | .writeAll _ count replies =>
      ∃ moved : List UInt64,
        replies.map callOutcome = moved.map some ∧
          (moved.map UInt64.toNat).sum = count.toNat
  | .connect _ _ reply attached connected =>
      ¬OpensNothing surroundings.socket reply attached ∧ connected = true
  | .listen _ _ reply attached bound listening =>
      ¬OpensNothing surroundings.socket reply attached ∧ bound = true ∧
        listening = true
  | .bind _ _ reply attached bound =>
      ¬OpensNothing surroundings.socket reply attached ∧ bound = true
  | .readFrom _ reply =>
      0 ≤ reply.ret ∧ reply.saddr.Accepted reply.saddrSize
  | .writeTo _ _ _ ret => 0 ≤ ret

/-- The call has returned what it is to return, after all of its steps, and a
socket that it opens has been through all of them. -/
def Call.Done (call : Call) (performed : Performed) : Prop :=
  match call with
  | .readAll _ count _ => performed.ending = .returned count
  | .writeAll _ count _ => performed.ending = .returned count
  | .connect _ _ _ _ _ =>
      performed.ending = .returned 0 ∧ performed.steps = 3
  | .listen _ _ _ _ _ _ =>
      performed.ending = .returned 0 ∧ performed.steps = 4
  | .bind _ _ _ _ _ => performed.ending = .returned 0 ∧ performed.steps = 3
  | .readFrom _ reply =>
      performed.ending = .returned (UInt64.ofNat reply.ret.toNat) ∧
        performed.steps = 2
  | .writeTo _ _ _ ret =>
      performed.ending = .returned (UInt64.ofNat ret.toNat) ∧
        performed.steps = 2

theorem Call.Done.congr
    {call : Call}
    {actual fresh : Performed}
    (done : call.Done fresh)
    (unaffected : Unaffected actual fresh) :
    call.Done actual := by
  have ending := unaffected.ending
  have steps := unaffected.steps
  cases call with
  | readAll _ _ _ | writeAll _ _ _ => exact ending.trans done
  | connect _ _ _ _ _ | listen _ _ _ _ _ _ | bind _ _ _ _ _ | readFrom _ _
  | writeTo _ _ _ _ => exact ⟨ending.trans done.1, steps.trans done.2⟩

/-! ### Loops -/

/-- The loop with an error from before, if it makes a call that succeeds. -/
theorem loop_stops
    {World : Type*}
    (channel : Channel World)
    (p : Nat)
    {count : UInt64}
    (world : World)
    {replies : List Int}
    (leave : World → Surroundings)
    (transfers : ¬TransfersNothing count replies)
    (exception : Exception) :
    (Performed.ofAttempt
        (channel.loop count p count (some exception) world replies) leave
        (some exception)).Stopped := by
  simp only [TransfersNothing, not_or] at transfers
  cases replies with
  | nil => exact absurd rfl transfers.2.1
  | cons reply rest =>
      rcases channel.loop_of_some count p transfers.1 exception world reply
          rest with ⟨e, after, stops⟩
      rw [stops]
      exact ⟨rfl, rfl⟩

/-- The loop without one makes another call, or returns the count. -/
theorem loop_goesOn
    {World : Type*}
    (channel : Channel World)
    (p : Nat)
    {count : UInt64}
    (world : World)
    {replies : List Int}
    (leave : World → Surroundings)
    (transfers : ¬TransfersNothing count replies) :
    ¬(Performed.ofAttempt (channel.loop count p count none world replies)
        leave none).Stopped := by
  simp only [TransfersNothing, not_or] at transfers
  rcases transfers with ⟨remaining, more, succeeds⟩
  cases replies with
  | nil => exact absurd rfl more
  | cons reply rest =>
      rcases channel.loop_of_none count p remaining world
          (fun negative => succeeds ⟨reply, rest, rfl, negative⟩) rest with
        ⟨p', n', after, goesOn⟩
      rw [goesOn]
      rintro ⟨ending, steps⟩
      rcases channel.loop_of_unused _ _ _ _ _ _ (Nat.succ.inj steps) with
        waits | returns
      · simp [Performed.ofAttempt, Attempt.afterCall, waits] at ending
      · simp [Performed.ofAttempt, Attempt.afterCall, returns] at ending
        exact remaining ending

/-- A loop that transfers nothing does not come to read `e`. -/
theorem loop_unaffected
    {World : Type*}
    (channel : Channel World)
    (p : Nat)
    {count : UInt64}
    (world : World)
    {replies : List Int}
    (leave : World → Surroundings)
    (keeps : ∀ first second, (leave first).socket = (leave second).socket)
    (nothing : TransfersNothing count replies)
    (exception : Exception) :
    Unaffected
      (.ofAttempt (channel.loop count p count (some exception) world replies)
        leave (some exception))
      (.ofAttempt (channel.loop count p count none world replies) leave
        none) := by
  rcases nothing with rfl | rfl | ⟨reply, rest, rfl, negative⟩
  · cases replies with
    | nil | cons reply rest =>
        rw [Channel.loop, Channel.loop, if_pos rfl, if_pos rfl]
        exact ⟨rfl, rfl, keeps _ _⟩
  · rw [Channel.loop, Channel.loop]
    refine ⟨?_, rfl, keeps _ _⟩
    by_cases nothing : count = 0
    · rw [if_pos nothing, if_pos nothing]
      rfl
    · rw [if_neg nothing, if_neg nothing]
      rfl
  · have failed : callOutcome reply = none := if_pos negative
    rw [Channel.loop, Channel.loop, channel.call_of_none failed,
      channel.call_of_none failed]
    by_cases nothing : count = 0
    · rw [if_pos nothing, if_pos nothing]
      exact ⟨rfl, rfl, keeps _ _⟩
    · rw [if_neg nothing, if_neg nothing]
      exact ⟨rfl, rfl, keeps _ _⟩

/-! ### Openings -/

/-- A handle that is got and attached leaves `e` alone. -/
theorem socket_of_opens
    {socket : Owner}
    {reply : HandleReply}
    {attached : Bool}
    (opens : ¬OpensNothing socket reply attached)
    (family type protocol : Int) :
    ∃ next,
      ∀ e,
        socket.socket family type protocol reply attached e =
          some (next, e) := by
  simp only [OpensNothing, not_or] at opens
  cases reply with
  | none => exact absurd rfl opens.1
  | some handle =>
      let self :=
        { socket.self with
            handle := handle.value
            family := family
            type := type
            protocol := protocol }
      have valid : handle.value ≠ INVALID_SOCKET := handle.valid.2
      refine ⟨⟨self, socket.os.open_ handle⟩, fun e => ?_⟩
      simp [Owner.socket, Socket.attachHandle, valid, opens.2, self]
      rfl

/-- Without a handle, or where the exception of `attachHandle` ends the
program, `e` makes no difference. -/
theorem socket_of_opensNothing
    {socket : Owner}
    {reply : HandleReply}
    {attached : Bool}
    (nothing : OpensNothing socket reply attached)
    (family type protocol : Int) :
    (∃ next exception,
        ∀ e,
          socket.socket family type protocol reply attached e =
            some (next, some exception)) ∨
      ∀ e, socket.socket family type protocol reply attached e = none := by
  cases reply with
  | none => exact Or.inl ⟨_, _, fun _ => rfl⟩
  | some handle =>
      have valid : handle.value ≠ INVALID_SOCKET := handle.valid.2
      have ends := nothing.resolve_left (Option.some_ne_none handle)
      refine Or.inr fun e => ?_
      simp [Owner.socket, Socket.attachHandle, valid, ends]

/-- The common course of the three functions. -/
def Performed.ofEndpoint (endian : Endian) (surroundings : Surroundings)
    (type protocol : Int) (address : IPAddress) (port : UInt16)
    (calls : List (ExceptionPtr → ExceptionPtr))
    (reply : HandleReply) (attached : Bool) (e : ExceptionPtr) : Performed :=
  .ofOpening
    (openEndpoint endian surroundings.socket type protocol address port calls
      reply attached e)
    (openSteps endian surroundings.socket type protocol address port calls
      reply attached e)
    surroundings e

theorem finishSteps_of_succeed
    {calls : List (ExceptionPtr → ExceptionPtr)}
    (succeed : ∀ call ∈ calls, call none = none) :
    finishSteps none calls = calls.length := by
  induction calls with
  | nil => rfl
  | cons call calls induction =>
      have others :=
        induction fun other inside =>
          succeed other (List.mem_cons_of_mem call inside)
      rw [finishSteps, succeed call List.mem_cons_self]
      exact congrArg (· + 1) others

section Endpoints

variable (endian : Endian)
variable {surroundings : Surroundings} {reply : HandleReply} {attached : Bool}

/-- The course without a socket. -/
theorem opening_unaffected
    (nothing : OpensNothing surroundings.socket reply attached)
    (type protocol : Int)
    (address : IPAddress)
    (port : UInt16)
    (calls : List (ExceptionPtr → ExceptionPtr))
    (exception : Exception) :
    Unaffected
      (.ofEndpoint endian surroundings type protocol address port calls
        reply attached (some exception))
      (.ofEndpoint endian surroundings type protocol address port calls
        reply attached none) := by
  rcases socket_of_opensNothing nothing (familyOf address) type protocol with
    ⟨next, error, fails⟩ | aborts
  · simp only [Performed.ofEndpoint, openEndpoint, openSteps, fails]
    exact ⟨rfl, rfl, rfl⟩
  · simp only [Performed.ofEndpoint, openEndpoint, openSteps, aborts]
    exact ⟨rfl, rfl, rfl⟩

/-- The course with a socket and an error from before. -/
theorem opening_stops
    (opens : ¬OpensNothing surroundings.socket reply attached)
    (type protocol : Int)
    (address : IPAddress)
    (port : UInt16)
    (calls : List (ExceptionPtr → ExceptionPtr))
    (exception : Exception) :
    (Performed.ofEndpoint endian surroundings type protocol address port calls
        reply attached (some exception)).Stopped := by
  rcases socket_of_opens opens (familyOf address) type protocol with
    ⟨next, made⟩
  simp only [Performed.ofEndpoint, openEndpoint, openSteps, made]
  exact ⟨rfl, rfl⟩

/-- The course with a socket comes at least to its second step. -/
theorem opening_goesOn
    (opens : ¬OpensNothing surroundings.socket reply attached)
    (type protocol : Int)
    (address : IPAddress)
    (port : UInt16)
    (calls : List (ExceptionPtr → ExceptionPtr)) :
    ¬(Performed.ofEndpoint endian surroundings type protocol address port
        calls reply attached none).Stopped := by
  rcases socket_of_opens opens (familyOf address) type protocol with
    ⟨next, made⟩
  rintro ⟨_, steps⟩
  simp [Performed.ofEndpoint, openEndpoint, openSteps, made,
    Performed.ofOpening] at steps

/-- An opening whose steps all succeed makes all of them. -/
theorem opening_done
    (opens : ¬OpensNothing surroundings.socket reply attached)
    (type protocol : Int)
    (address : IPAddress)
    (port : UInt16)
    (calls : List (ExceptionPtr → ExceptionPtr))
    (succeed : ∀ call ∈ calls, call none = none) :
    let performed :=
      Performed.ofEndpoint endian surroundings type protocol address port
        calls reply attached none
    performed.ending = .returned 0 ∧ performed.steps = calls.length + 2 := by
  rcases socket_of_opens opens (familyOf address) type protocol with
    ⟨next, made⟩
  have all := finishSteps_of_succeed succeed
  simp [Performed.ofEndpoint, openEndpoint, openSteps, made,
    Performed.ofOpening, all]

end Endpoints

/-! ### Datagrams -/

theorem readFromSteps_of_received
    (stream : Nat → UInt8)
    (buffer : Nat)
    (e : ExceptionPtr)
    (inbound : Inbound)
    {reply : Recvfrom}
    (received : ¬reply.ret < 0) :
    readFromSteps stream buffer e inbound reply =
      if e.isSome then 1 else 2 := by
  have transferred :
      callOutcome reply.ret = some (UInt64.ofNat reply.ret.toNat) :=
    if_neg received
  rw [readFromSteps, Socket.readFrom,
    (receiving stream).call_of_some transferred]

/-- A failed `::recvfrom` is all that happens, whatever `e` holds. -/
theorem readFrom_of_failed
    (endian : Endian)
    (stream : Nat → UInt8)
    (buffer : Nat)
    (surroundings : Surroundings)
    {reply : Recvfrom}
    (failed : reply.ret < 0)
    (e : ExceptionPtr) :
    (Call.readFrom buffer reply).perform endian stream surroundings e =
      ⟨.returned 0, 1, surroundings,
        some (IOException "::recvfrom failed")⟩ := by
  have outcome : callOutcome reply.ret = none := if_pos failed
  simp only [Call.perform, UDPSocket.readFrom, readFromSteps,
    Socket.readFrom, (receiving stream).call_of_none outcome]
  rfl

/-! ### All calls -/

variable (endian : Endian) (stream : Nat → UInt8)

/-- A call that ends with its first step does so whatever `e` holds. -/
theorem Call.EndsFirst.unaffected
    {call : Call}
    {surroundings : Surroundings}
    (endsFirst : call.EndsFirst surroundings)
    (exception : Exception) :
    Unaffected
      (call.perform endian stream surroundings (some exception))
      (call.perform endian stream surroundings none) := by
  cases call with
  | readAll buffer count replies =>
      exact
        loop_unaffected (reading stream) buffer surroundings.inbound
          (fun inbound => { surroundings with inbound := inbound })
          (fun _ _ => rfl) endsFirst exception
  | writeAll buffer count replies =>
      exact
        loop_unaffected (writing surroundings.inbound.memory) buffer
          surroundings.handed
          (fun handed => { surroundings with handed := handed })
          (fun _ _ => rfl) endsFirst exception
  | connect address port reply attached connected =>
      exact
        opening_unaffected endian endsFirst _ _ address port _ exception
  | listen address port reply attached bound listening =>
      exact
        opening_unaffected endian endsFirst _ _ address port _ exception
  | bind address port reply attached bound =>
      exact
        opening_unaffected endian endsFirst _ _ address port _ exception
  | readFrom buffer reply =>
      rw [readFrom_of_failed _ _ _ _ endsFirst,
        readFrom_of_failed _ _ _ _ endsFirst]
      exact ⟨rfl, rfl, rfl⟩
  | writeTo buffer address port ret => exact absurd endsFirst id

/-- With an error from before, a call that goes on after its first step ends
there instead, and returns zero. -/
theorem Call.stops
    {call : Call}
    {surroundings : Surroundings}
    (goesOn : ¬call.EndsFirst surroundings)
    (exception : Exception) :
    (call.perform endian stream surroundings (some exception)).Stopped := by
  cases call with
  | readAll buffer count replies =>
      exact
        loop_stops (reading stream) buffer surroundings.inbound
          (fun inbound => { surroundings with inbound := inbound }) goesOn
          exception
  | writeAll buffer count replies =>
      exact
        loop_stops (writing surroundings.inbound.memory) buffer
          surroundings.handed
          (fun handed => { surroundings with handed := handed }) goesOn
          exception
  | connect address port reply attached connected =>
      exact opening_stops endian goesOn _ _ address port _ exception
  | listen address port reply attached bound listening =>
      exact opening_stops endian goesOn _ _ address port _ exception
  | bind address port reply attached bound =>
      exact opening_stops endian goesOn _ _ address port _ exception
  | readFrom buffer reply =>
      have transferred :
          callOutcome reply.ret = some (UInt64.ofNat reply.ret.toNat) :=
        if_neg goesOn
      refine ⟨?_, readFromSteps_of_received _ _ _ _ goesOn⟩
      simp [Call.perform, UDPSocket.readFrom, Socket.readFrom,
        (receiving stream).call_of_some transferred]
  | writeTo buffer address port ret =>
      constructor
      · simp [Call.perform, UDPSocket.writeTo]
      · simp [Call.perform, writeToSteps]

/-- With an empty `e` it goes on. -/
theorem Call.goesOn
    {call : Call}
    {surroundings : Surroundings}
    (goesOn : ¬call.EndsFirst surroundings) :
    ¬(call.perform endian stream surroundings none).Stopped := by
  cases call with
  | readAll buffer count replies =>
      exact
        loop_goesOn (reading stream) buffer surroundings.inbound
          (fun inbound => { surroundings with inbound := inbound }) goesOn
  | writeAll buffer count replies =>
      exact
        loop_goesOn (writing surroundings.inbound.memory) buffer
          surroundings.handed
          (fun handed => { surroundings with handed := handed }) goesOn
  | connect address port reply attached connected =>
      exact opening_goesOn endian goesOn _ _ address port _
  | listen address port reply attached bound listening =>
      exact opening_goesOn endian goesOn _ _ address port _
  | bind address port reply attached bound =>
      exact opening_goesOn endian goesOn _ _ address port _
  | readFrom buffer reply =>
      rintro ⟨_, steps⟩
      have both :=
        readFromSteps_of_received stream buffer none surroundings.inbound
          goesOn
      cases steps.symm.trans both
  | writeTo buffer address port ret =>
      rintro ⟨_, steps⟩
      simp [Call.perform, writeToSteps] at steps

/-- A call with an error from before goes like one without exactly if it ends
no later than with its first step. -/
theorem Call.unaffected_iff
    (call : Call)
    (surroundings : Surroundings)
    (exception : Exception) :
    Unaffected
        (call.perform endian stream surroundings (some exception))
        (call.perform endian stream surroundings none) ↔
      call.EndsFirst surroundings := by
  constructor
  · intro unaffected
    by_contra goesOn
    apply Call.goesOn endian stream goesOn
    exact unaffected.stopped (Call.stops endian stream goesOn exception)
  · intro endsFirst
    exact endsFirst.unaffected endian stream exception

/-- A call whose steps all succeed does its whole work with an empty `e`. -/
theorem Call.Succeeds.done
    {call : Call}
    {surroundings : Surroundings}
    (succeeds : call.Succeeds surroundings) :
    call.Done (call.perform endian stream surroundings none) := by
  cases call with
  | readAll buffer count replies =>
      rcases succeeds with ⟨moved, transferred, whole⟩
      have finished :=
        (reading stream).loop_done count buffer count surroundings.inbound
          transferred whole
      simp [Call.Done, Call.perform, Socket.readAll, Performed.ofAttempt,
        finished]
  | writeAll buffer count replies =>
      rcases succeeds with ⟨moved, transferred, whole⟩
      have finished :=
        (writing surroundings.inbound.memory).loop_done count buffer count
          surroundings.handed transferred whole
      simp [Call.Done, Call.perform, Socket.writeAll, Performed.ofAttempt,
        finished]
  | connect address port reply attached connected =>
      rcases succeeds with ⟨opens, rfl⟩
      apply
        opening_done endian opens SOCK_STREAM IPPROTO_TCP address port
          [Socket.connect true]
      simp [Socket.connect, Socket.reportUnless]
  | listen address port reply attached bound listening =>
      rcases succeeds with ⟨opens, rfl, rfl⟩
      apply
        opening_done endian opens SOCK_STREAM IPPROTO_TCP address port
          [Socket.bind true, Socket.listen true]
      simp [Socket.bind, Socket.listen, Socket.reportUnless]
  | bind address port reply attached bound =>
      rcases succeeds with ⟨opens, rfl⟩
      apply
        opening_done endian opens SOCK_DGRAM IPPROTO_UDP address port
          [Socket.bind true]
      simp [Socket.bind, Socket.reportUnless]
  | readFrom buffer reply =>
      rcases succeeds with ⟨received, accepted⟩
      have nonnegative : ¬reply.ret < 0 := Int.not_lt.mpr received
      have transferred :
          callOutcome reply.ret = some (UInt64.ofNat reply.ret.toNat) :=
        if_neg nonnegative
      rcases fromSockaddr_accepted endian accepted surroundings.address
          surroundings.port none with
        ⟨address, port, _, reads⟩
      refine ⟨?_, readFromSteps_of_received _ _ _ _ nonnegative⟩
      simp [Call.perform, UDPSocket.readFrom, Socket.readFrom,
        (receiving stream).call_of_some transferred, reads]
  | writeTo buffer address port ret =>
      have transferred :
          callOutcome ret = some (UInt64.ofNat ret.toNat) :=
        if_neg (Int.not_lt.mpr succeeds)
      refine ⟨?_, ?_⟩
      · simp [Call.perform, UDPSocket.writeTo_eq, Socket.writeTo,
          (sending surroundings.inbound.memory).call_of_some transferred]
      · simp [Call.perform, writeToSteps]

/-- A call whose steps all succeed does its whole work, unless it goes on after
its first step and `e` still holds an error. -/
theorem Call.Succeeds.done_iff
    {call : Call}
    {surroundings : Surroundings}
    (succeeds : call.Succeeds surroundings)
    (e : ExceptionPtr) :
    call.Done (call.perform endian stream surroundings e) ↔
      e = none ∨ call.EndsFirst surroundings := by
  have fresh := succeeds.done endian stream
  constructor
  · intro done
    by_contra stale
    rw [not_or] at stale
    rcases Option.ne_none_iff_exists'.mp stale.1 with ⟨exception, rfl⟩
    have stops := Call.stops endian stream stale.2 exception
    cases call with
    | readAll buffer count replies | writeAll buffer count replies =>
        have zero : count = 0 :=
          (Ending.returned.inj (stops.ending.symm.trans done)).symm
        exact stale.2 (Or.inl zero)
    | connect address port reply attached connected
    | listen address port reply attached bound listening
    | bind address port reply attached bound | readFrom buffer reply
    | writeTo buffer address port ret =>
        exact absurd (stops.steps.symm.trans done.2) (by decide)
  · rintro (rfl | endsFirst)
    · exact fresh
    · cases e with
      | none => exact fresh
      | some exception =>
          have unaffected :=
            (call.unaffected_iff endian stream surroundings exception).mpr
              endsFirst
          exact fresh.congr unaffected

/-! ## Calls that share a pointer -/

/-- A call that has been made, and what it was made in. -/
structure Record where
  call : Call
  before : Surroundings
  performed : Performed

/-- The surroundings, the shared `e`, and the calls so far. -/
structure Session where
  surroundings : Surroundings
  e : ExceptionPtr := none
  calls : List Record := []

/-- One call after the other, each with the `e` that the last one has left.  A
call that does not return is not followed by another. -/
def session (surroundings : Surroundings) :
    TransitionSystem Session Call where
  init := { surroundings := surroundings }
  step := fun state call =>
    let performed := call.perform endian stream state.surroundings state.e
    match performed.ending with
    | .returned _ =>
        some
          { surroundings := performed.surroundings
            e := performed.e
            calls := state.calls ++ [⟨call, state.surroundings, performed⟩] }
    | _ => none

/-- The call went as with an empty `e`, and did its whole work if all of its
steps succeeded. -/
structure Record.Independent (record : Record) : Prop where
  unaffected :
    Unaffected record.performed
      (record.call.perform endian stream record.before none)
  done :
    record.call.Succeeds record.before → record.call.Done record.performed

/-- All calls of a session did. -/
def Session.Independent (state : Session) : Prop :=
  ∀ record ∈ state.calls, record.Independent endian stream

/-- There is no error from before, or it makes no difference. -/
def Clear (state : Session) (call : Call) : Prop :=
  state.e = none ∨ call.EndsFirst state.surroundings

theorem session_step
    {surroundings : Surroundings}
    {state next : Session}
    {call : Call}
    (stepped :
      (session endian stream surroundings).step state call = some next) :
    next.calls =
      state.calls ++
        [⟨call, state.surroundings,
          call.perform endian stream state.surroundings state.e⟩] := by
  simp only [session] at stepped
  split at stepped
  · cases stepped
    rfl
  · cases stepped

theorem Clear.independent
    {state : Session}
    {call : Call}
    (clear : Clear state call) :
    Record.Independent endian stream
      ⟨call, state.surroundings,
        call.perform endian stream state.surroundings state.e⟩ := by
  constructor
  · cases holds : state.e with
    | none => exact ⟨rfl, rfl, rfl⟩
    | some exception =>
        apply (call.unaffected_iff endian stream _ exception).mpr
        apply clear.resolve_left
        rw [holds]
        exact Option.some_ne_none exception
  · intro succeeds
    exact (succeeds.done_iff endian stream state.e).mpr clear

theorem not_clear
    {state : Session}
    {call : Call}
    (stale : ¬Clear state call) :
    ¬Record.Independent endian stream
      ⟨call, state.surroundings,
        call.perform endian stream state.surroundings state.e⟩ := by
  intro independent
  rw [Clear, not_or] at stale
  rcases Option.ne_none_iff_exists'.mp stale.1 with ⟨exception, holds⟩
  have unaffected := independent.unaffected
  rw [holds] at unaffected
  exact stale.2 ((call.unaffected_iff endian stream _ exception).mp unaffected)

/-- All calls of a session go as with an `e` of their own exactly if none that
goes on finds an error from before. -/
theorem session_independent_iff
    {surroundings : Surroundings}
    {calls : List Call}
    {last : Session}
    (taken : (session endian stream surroundings).run calls = some last) :
    (session endian stream surroundings).Throughout
        (Session.Independent endian stream) calls ↔
      (session endian stream surroundings).Along Clear calls := by
  have initial :
      Session.Independent endian stream
        (session endian stream surroundings).init :=
    fun record inside => by cases inside
  have kept :
      ∀ state call next,
        Clear state call → Session.Independent endian stream state →
          (session endian stream surroundings).step state call = some next →
            Session.Independent endian stream next := by
    intro state call next clear independent stepped record inside
    rw [session_step endian stream stepped] at inside
    rcases List.mem_append.mp inside with old | new
    · exact independent record old
    · rw [List.mem_singleton.mp new]
      exact clear.independent endian stream
  have detected :
      ∀ state call next,
        ¬Clear state call → Session.Independent endian stream state →
          (session endian stream surroundings).step state call = some next →
            ¬Session.Independent endian stream next := by
    intro state call next stale _ stepped independent
    apply not_clear endian stream stale
    apply independent
    rw [session_step endian stream stepped]
    exact List.mem_append_right _ (List.mem_singleton.mpr rfl)
  exact
    TransitionSystem.throughout_iff_along _ initial kept
      (fun _ independent => independent) detected taken

/-- An operation on an `e` that holds an error goes like one on an empty `e`
exactly if it ends no later than with its first step.  If all of its steps
succeed, it does its whole work exactly if `e` is empty or it has nothing to do
after its first step.  So in a sequence of calls that share `e`, all go as if
each had its own, exactly if no call that goes on finds an error from before. -/
theorem shared_error_iff :
    (∀ (call : Call) (surroundings : Surroundings) (exception : Exception),
        Unaffected
            (call.perform endian stream surroundings (some exception))
            (call.perform endian stream surroundings none) ↔
          call.EndsFirst surroundings) ∧
      (∀ (call : Call) (surroundings : Surroundings) (e : ExceptionPtr),
        call.Succeeds surroundings →
          (call.Done (call.perform endian stream surroundings e) ↔
            e = none ∨ call.EndsFirst surroundings)) ∧
      ∀ (surroundings : Surroundings) (calls : List Call) (last : Session),
        (session endian stream surroundings).run calls = some last →
          ((session endian stream surroundings).Throughout
              (Session.Independent endian stream) calls ↔
            (session endian stream surroundings).Along Clear calls) := by
  refine ⟨Call.unaffected_iff endian stream, ?_, ?_⟩
  · intro call surroundings e succeeds
    exact succeeds.done_iff endian stream e
  · intro surroundings calls last taken
    exact session_independent_iff endian stream taken

theorem retriedHandle_valid :
    (280 : SOCKET) ≠ 0 ∧ (280 : SOCKET) ≠ INVALID_SOCKET := by
  decide

/-- A closed object without an executor, and empty buffers. -/
def Surroundings.idle : Surroundings where
  socket := ⟨{ executor := false }, Winsock.empty⟩
  inbound := ⟨fun _ => 0, 0⟩
  handed := []
  address := .IPv4 ⟨#v[0, 0, 0, 0]⟩
  port := 0

/-- A transfer of two bytes in two parts, and then a `connect`. -/
def sharedCalls : List Call :=
  [.writeAll 0 2 [1, 1],
    .connect localhost 80 (some ⟨280, retriedHandle_valid⟩) true true]

theorem shared_error_iff_sharedCalls :
    ∃ last,
      (session .swap (fun _ => 0) .idle).run sharedCalls = some last ∧
        last.e = none ∧
        last.calls.map (fun record => record.performed.steps) = [2, 3] ∧
        ((session .swap (fun _ => 0) .idle).Throughout
            (Session.Independent .swap fun _ => 0) sharedCalls ↔
          (session .swap (fun _ => 0) .idle).Along Clear sharedCalls) :=
  ⟨_, rfl, rfl, rfl,
    (shared_error_iff .swap fun _ => 0).2.2 .idle sharedCalls _ rfl⟩

/-- A `connect` that gets no socket, and the same again when all goes well. -/
def retriedConnect : List Call :=
  [.connect localhost 80 none true true,
    .connect localhost 80 (some ⟨280, retriedHandle_valid⟩) true true]

/-- The second call makes one step of three and leaves its socket open and not
connected. -/
theorem retriedConnect_half_opened :
    (∃ last,
        (session .swap (fun _ => 0) .idle).run retriedConnect = some last ∧
          last.e = some (IOException "::socket failed") ∧
          last.surroundings.socket.self.handle = 280 ∧
          last.calls.map (fun record => record.performed.steps) = [1, 1]) ∧
      ¬∀ (call : Call) (surroundings : Surroundings) (exception : Exception),
          Unaffected
            (call.perform .swap (fun _ => 0) surroundings (some exception))
            (call.perform .swap (fun _ => 0) surroundings none) := by
  refine ⟨⟨_, rfl, rfl, rfl, rfl⟩, ?_⟩
  intro always
  have unaffected :=
    always
      (.connect localhost 80 (some ⟨280, retriedHandle_valid⟩) true true)
      .idle (IOException "::socket failed")
  exact absurd unaffected.steps (by decide)

end Netycat.Network
