import Netycat.Network.Datagrams

/-!
# The forms of `readFrom` and `writeTo`

`UDPSocket::readFrom` has a form that returns a pair, a form that writes
through references and two callback forms.  The callback forms keep the address
of the sender in a buffer of their own until the operation is completed.

For one outcome of the call, all forms report the same; but when an accepted
operation fails, the callback form passes on the number of bytes that comes
with the completion.
-/

namespace Netycat.Impl.Socket

open Netycat.Corecat

/-- `Socket::readFrom`, the callback form: what its callback is called with. -/
def readFromCalledBack (stream : Nat → UInt8)
    (buffer : Nat) (inbound : Inbound) (reply : OverlappedReply) :
    CallResult Inbound :=
  (receiving stream).operation buffer inbound reply

/-- `Socket::writeTo`, the callback form. -/
def writeToCalledBack (memory : Nat → UInt8)
    (buffer : Nat) (handed : List UInt8) (reply : OverlappedReply) :
    CallResult (List UInt8) :=
  (sending memory).operation buffer handed reply

end Netycat.Impl.Socket

namespace Netycat.Network

open Netycat.Corecat Netycat.IP Netycat.Impl

/-- `UDPEndpoint`. -/
structure UDPEndpoint where
  address : IPAddress
  port : UInt16
deriving DecidableEq, Repr

/-- `{}` -/
def UDPEndpoint.empty : UDPEndpoint where
  address := .IPv4 (.ofUInt32 0)
  port := 0

/-- What happens to the `AddressBuffer` and when the callback is called. -/
inductive BufferEvent where
  | allocated
  | deleted
  | called
deriving DecidableEq, Repr

/-- A call of the callback of `readFrom`, and what has happened up to it. -/
structure ReadFromCall where
  e : ExceptionPtr
  count : UInt64
  endpoint : UDPEndpoint
  inbound : Inbound
  events : List BufferEvent

namespace UDPSocket

variable (endian : Endian)

/-- `UDPSocket::readFrom`, the `ExceptionPtr` form that returns a pair.  What
the constructor of `endpoint` leaves in it is an argument. -/
def readFromPair (stream : Nat → UInt8)
    (buffer : Nat) (endpoint : UDPEndpoint) (e : ExceptionPtr)
    (inbound : Inbound) (reply : Recvfrom) :
    (UInt64 × UDPEndpoint) × ExceptionPtr × Inbound :=
  let ret :=
    readFrom endian stream buffer endpoint.address endpoint.port e inbound
      reply
  if ret.e.isSome then ((0, .empty), ret.e, ret.inbound)
  else ((ret.value, ⟨ret.address, ret.port⟩), ret.e, ret.inbound)

/-- `UDPSocket::readFrom` with a `ReadFromCallback`. -/
def readFromCallback (stream : Nat → UInt8)
    (buffer : Nat) (endpoint : UDPEndpoint)
    (inbound : Inbound) (saddr : Sockaddr) (saddrSize : Int)
    (reply : OverlappedReply) : ReadFromCall :=
  let done := Socket.readFromCalledBack stream buffer inbound reply
  if done.e.isSome then
    { e := done.e
      count := done.value
      endpoint := .empty
      inbound := done.world
      events := [.allocated, .deleted, .called] }
  else
    let sender :=
      fromSockaddr endian saddr saddrSize endpoint.address endpoint.port none
    if sender.e.isSome then
      { e := sender.e
        count := 0
        endpoint := .empty
        inbound := done.world
        events := [.allocated, .deleted, .called] }
    else
      { e := none
        count := done.value
        endpoint := ⟨sender.address, sender.port⟩
        inbound := done.world
        events := [.allocated, .deleted, .called] }

/-- `UDPSocket::readFrom` with references and a `ReadCallback`. -/
def readFromCallbackInto (stream : Nat → UInt8)
    (buffer : Nat) (endpoint : UDPEndpoint)
    (address : IPAddress) (port : UInt16)
    (inbound : Inbound) (saddr : Sockaddr) (saddrSize : Int)
    (reply : OverlappedReply) : ReadFrom :=
  let call :=
    readFromCallback endian stream buffer endpoint inbound saddr saddrSize
      reply
  if call.e.isSome then ⟨call.count, address, port, call.e, call.inbound⟩
  else
    ⟨call.count, call.endpoint.address, call.endpoint.port, none,
      call.inbound⟩

/-- `UDPSocket::writeTo`, the callback form: what its callback is called
with. -/
def writeToCallback (memory : Nat → UInt8)
    (buffer : Nat) (address : IPAddress) (port : UInt16)
    (handed : List UInt8) (reply : OverlappedReply) :
    CallResult (List UInt8) :=
  let saddr := encode endian address port none
  if saddr.e.isSome then ⟨0, saddr.e, handed⟩
  else Socket.writeToCalledBack memory buffer handed reply

theorem writeToCallback_eq
    (memory : Nat → UInt8)
    (buffer : Nat)
    (address : IPAddress)
    (port : UInt16)
    (handed : List UInt8)
    (reply : OverlappedReply) :
    writeToCallback endian memory buffer address port handed reply =
      Socket.writeToCalledBack memory buffer handed reply := by
  rw [writeToCallback]
  simp only [encode_e, Option.isSome_none, Bool.false_eq_true, if_false]

/-- Every way through the callback form allocates the buffer, deletes it and
then calls the callback, once each. -/
theorem readFromCallback_events
    (stream : Nat → UInt8)
    (buffer : Nat)
    (endpoint : UDPEndpoint)
    (inbound : Inbound)
    (saddr : Sockaddr)
    (saddrSize : Int)
    (reply : OverlappedReply) :
    (readFromCallback endian stream buffer endpoint inbound saddr saddrSize
        reply).events =
      [.allocated, .deleted, .called] := by
  simp only [readFromCallback]
  split
  · rfl
  · split
    · rfl
    · rfl

/-- The two forms have come to the same.  Of the errors only their presence is
compared, since the messages differ: each form names the call that it makes. -/
structure SameReadFrom
    (pair : (UInt64 × UDPEndpoint) × ExceptionPtr × Inbound)
    (call : ReadFromCall) : Prop where
  count : call.count = pair.1.1
  endpoint : call.endpoint = pair.1.2
  error : call.e.isSome = pair.2.1.isSome
  inbound : call.inbound = pair.2.2

/-- The form that returns a pair, by the outcome of the call. -/
theorem readFromPair_of_none
    (stream : Nat → UInt8)
    (buffer : Nat)
    (endpoint : UDPEndpoint)
    (inbound : Inbound)
    {reply : Recvfrom}
    (failed : callOutcome reply.ret = none) :
    readFromPair endian stream buffer endpoint none inbound reply =
      ((0, .empty), some (IOException "::recvfrom failed"), inbound) := by
  have call :=
    @Channel.call_of_none _ (receiving stream) buffer none inbound _ failed
  simp only [readFromPair, readFrom, Socket.readFrom, call,
    Option.isSome_some, if_true]
  rfl

/-- An accepted address is reported, and any other one is an error. -/
theorem readFromPair_of_some
    (stream : Nat → UInt8)
    (buffer : Nat)
    (endpoint : UDPEndpoint)
    (inbound : Inbound)
    {reply : Recvfrom}
    {moved : UInt64}
    (received : callOutcome reply.ret = some moved) :
    readFromPair endian stream buffer endpoint none inbound reply =
      let sender :=
        fromSockaddr endian reply.saddr reply.saddrSize endpoint.address
          endpoint.port none
      if sender.e.isSome then
        ((0, .empty), sender.e, inbound.receive stream buffer moved.toNat)
      else
        ((moved, ⟨sender.address, sender.port⟩), none,
          inbound.receive stream buffer moved.toNat) := by
  have call :=
    @Channel.call_of_some _ (receiving stream) buffer none inbound _ _
      received
  simp only [readFromPair, readFrom, Socket.readFrom, call,
    Option.isSome_none, Bool.false_eq_true, if_false]
  split
  · simp only
    rfl
  · next decoded =>
      have noError := Option.not_isSome_iff_eq_none.mp decoded
      simp only [noError]
      rfl

theorem readFromCallback_of_none
    (stream : Nat → UInt8)
    (buffer : Nat)
    (endpoint : UDPEndpoint)
    (inbound : Inbound)
    (saddr : Sockaddr)
    (saddrSize : Int)
    {reply : OverlappedReply}
    (failed : reply.outcome = none) :
    let call :=
      readFromCallback endian stream buffer endpoint inbound saddr saddrSize
        reply
    call.e.isSome = true ∧
      call.count = (Socket.readFromCalledBack stream buffer inbound reply).value ∧
      call.endpoint = .empty ∧ call.inbound = inbound := by
  have isError :=
    @Channel.operation_of_none _ (receiving stream) buffer inbound _ failed
  have still :=
    @Channel.operation_of_failed_world _ (receiving stream) buffer inbound _
      failed
  simp only [readFromCallback, Socket.readFromCalledBack, isError, if_true]
  exact ⟨trivial, trivial, trivial, still⟩

theorem readFromCallback_of_some
    (stream : Nat → UInt8)
    (buffer : Nat)
    (endpoint : UDPEndpoint)
    (inbound : Inbound)
    (saddr : Sockaddr)
    (saddrSize : Int)
    {reply : OverlappedReply}
    {moved : UInt64}
    (received : reply.outcome = some moved) :
    readFromCallback endian stream buffer endpoint inbound saddr saddrSize
        reply =
      let sender :=
        fromSockaddr endian saddr saddrSize endpoint.address endpoint.port none
      let after := inbound.receive stream buffer moved.toNat
      let events := [.allocated, .deleted, .called]
      if sender.e.isSome then ⟨sender.e, 0, .empty, after, events⟩
      else ⟨none, moved, ⟨sender.address, sender.port⟩, after, events⟩ := by
  have operation :=
    @Channel.operation_of_some _ (receiving stream) buffer inbound _ _ received
  simp only [readFromCallback, Socket.readFromCalledBack, operation,
    Option.isSome_none, Bool.false_eq_true, if_false]
  rfl

/-- The count in the completion of a failed operation is zero. -/
def NoCountOnFailure (completion : OverlappedReply) : Prop :=
  ∀ byteCount, completion = .completed false byteCount → byteCount = 0

theorem value_eq_zero_iff
    (stream : Nat → UInt8)
    (buffer : Nat)
    (inbound : Inbound)
    {completion : OverlappedReply}
    (failed : completion.outcome = none) :
    (Socket.readFromCalledBack stream buffer inbound completion).value = 0 ↔
      NoCountOnFailure completion := by
  cases completion with
  | rejected =>
      refine ⟨fun _ byteCount impossible => ?_, fun _ => rfl⟩
      cases impossible
  | completed success byteCount =>
      cases success with
      | true => cases failed
      | false =>
          constructor
          · intro zero other same
            cases same
            exact UInt32.toNat_inj.mp (congrArg UInt64.toNat zero)
          · intro zero
            rw [zero byteCount rfl]
            rfl

theorem noCountOnFailure_of_some
    {completion : OverlappedReply}
    {moved : UInt64}
    (succeeded : completion.outcome = some moved) :
    NoCountOnFailure completion := by
  rintro byteCount rfl
  cases succeeded

/-- The references are written by both forms or by neither. -/
theorem readFromCallbackInto_endpoint
    (stream : Nat → UInt8)
    (buffer : Nat)
    (endpoint : UDPEndpoint)
    (address : IPAddress)
    (port : UInt16)
    (inbound : Inbound)
    (reply : Recvfrom)
    (completion : OverlappedReply)
    (sameOutcome : callOutcome reply.ret = completion.outcome) :
    let call :=
      readFromCallbackInto endian stream buffer endpoint address port inbound
        reply.saddr reply.saddrSize completion
    let ret :=
      readFrom endian stream buffer address port none inbound reply
    call.address = ret.address ∧ call.port = ret.port := by
  cases outcome : completion.outcome with
  | none =>
      rw [outcome] at sameOutcome
      have called :=
        readFromCallback_of_none endian stream buffer endpoint inbound
          reply.saddr reply.saddrSize outcome
      have returned :=
        @Channel.call_of_none _ (receiving stream) buffer none inbound _
          sameOutcome
      simp [readFromCallbackInto, called.1, readFrom, Socket.readFrom,
        returned]
  | some moved =>
      rw [outcome] at sameOutcome
      have called :=
        readFromCallback_of_some endian stream buffer endpoint inbound
          reply.saddr reply.saddrSize outcome
      have returned :=
        @Channel.call_of_some _ (receiving stream) buffer none inbound _ _
          sameOutcome
      by_cases accepted : reply.saddr.Accepted reply.saddrSize
      · rcases fromSockaddr_accepted endian accepted endpoint.address
            endpoint.port none with ⟨sender, senderPort, holds, reads⟩
        rcases fromSockaddr_accepted endian accepted address port none with
          ⟨sender', senderPort', holds', reads'⟩
        rw [holds, Option.some.injEq, Prod.mk.injEq] at holds'
        simp [readFromCallbackInto, called, reads, readFrom, Socket.readFrom,
          returned, reads', holds']
      · rcases fromSockaddr_rejected endian accepted endpoint.address
            endpoint.port none with ⟨message, reads⟩
        rcases fromSockaddr_rejected endian accepted address port none with
          ⟨message', reads'⟩
        simp [readFromCallbackInto, called, reads, readFrom, Socket.readFrom,
          returned, reads']

/-- For one outcome of their calls, the form that returns a pair and the
callback form come to the same exactly unless an accepted operation fails with
a number of bytes: the same count, endpoint and buffer, and an error in both or
in none, though its message is not the same.  In any case the buffer for the
address is allocated once and deleted once, before the callback is called, and
the forms with references leave the same address and port in them. -/
theorem readFrom_forms_agree_iff
    (stream : Nat → UInt8)
    (buffer : Nat)
    (endpoint : UDPEndpoint)
    (address : IPAddress)
    (port : UInt16)
    (inbound : Inbound)
    (reply : Recvfrom)
    (completion : OverlappedReply)
    (sameOutcome : callOutcome reply.ret = completion.outcome) :
    let pair := readFromPair endian stream buffer endpoint none inbound reply
    let call :=
      readFromCallback endian stream buffer endpoint inbound reply.saddr
        reply.saddrSize completion
    let into :=
      readFromCallbackInto endian stream buffer endpoint address port inbound
        reply.saddr reply.saddrSize completion
    let ret := readFrom endian stream buffer address port none inbound reply
    (SameReadFrom pair call ↔ NoCountOnFailure completion) ∧
      call.events = [.allocated, .deleted, .called] ∧
      into.address = ret.address ∧ into.port = ret.port := by
  refine ⟨?_, readFromCallback_events endian stream buffer endpoint inbound _ _
    completion, readFromCallbackInto_endpoint endian stream buffer endpoint
    address port inbound reply completion sameOutcome⟩
  cases outcome : completion.outcome with
  | none =>
      rw [outcome] at sameOutcome
      have pair :=
        readFromPair_of_none endian stream buffer endpoint inbound sameOutcome
      have call :=
        readFromCallback_of_none endian stream buffer endpoint inbound
          reply.saddr reply.saddrSize outcome
      rw [pair, ← value_eq_zero_iff stream buffer inbound outcome]
      constructor
      · intro same
        exact call.2.1.symm.trans same.count
      · intro zero
        exact ⟨call.2.1.trans zero, call.2.2.1, call.1, call.2.2.2⟩
  | some moved =>
      rw [outcome] at sameOutcome
      have pair :=
        readFromPair_of_some endian stream buffer endpoint inbound sameOutcome
      have call :=
        readFromCallback_of_some endian stream buffer endpoint inbound
          reply.saddr reply.saddrSize outcome
      refine ⟨fun _ => noCountOnFailure_of_some outcome, fun _ => ?_⟩
      rw [pair, call]
      simp only
      split
      · exact ⟨rfl, rfl, rfl, rfl⟩
      · exact ⟨rfl, rfl, rfl, rfl⟩

/-- An operation on a buffer that was too small is completed with what has been
put into it. -/
theorem readFrom_forms_differ :
    let reply : Recvfrom := ⟨-1, .unset, 16⟩
    let completion : OverlappedReply := .completed false 4
    ¬ SameReadFrom
        (readFromPair .swap (fun _ => 7) 0 .empty none ⟨fun _ => 0, 0⟩ reply)
        (readFromCallback .swap (fun _ => 7) 0 .empty ⟨fun _ => 0, 0⟩
          reply.saddr reply.saddrSize completion) := by
  intro reply completion same
  have agree :=
    readFrom_forms_agree_iff .swap (fun _ => 7) 0 .empty (.IPv4 (.ofUInt32 0)) 0
      ⟨fun _ => 0, 0⟩ reply completion rfl
  exact absurd (agree.1.mp same 4 rfl) (by decide)

end UDPSocket

end Netycat.Network
