import Netycat.Network.Endpoints
import Netycat.Impl.ReadWriteAll

/-!
# Datagrams

`UDPSocket::readFrom` reads a datagram and then decodes the address of its
sender; `UDPSocket::writeTo` encodes the address of the receiver and then
writes.  The bytes are copied as by `::recv` and `::send`.
-/

namespace Netycat.Impl

open Netycat.Corecat

def receiving (stream : Nat → UInt8) : Channel Inbound where
  effect := (reading stream).effect
  callFailed := "::recvfrom failed"
  operationFailed := "::WSARecvFrom failed"

def sending (memory : Nat → UInt8) : Channel (List UInt8) where
  effect := (writing memory).effect
  callFailed := "::sendto failed"
  operationFailed := "::WSASendTo failed"

/-- What `::recvfrom` comes to: the number that it returns, and the address
that it writes. -/
structure Recvfrom where
  ret : Int
  saddr : Sockaddr
  saddrSize : Int
deriving DecidableEq, Repr

namespace Socket

/-- `Socket::readFrom`. -/
def readFrom (stream : Nat → UInt8)
    (buffer : Nat) (e : ExceptionPtr) (inbound : Inbound)
    (reply : Recvfrom) : CallResult Inbound :=
  (receiving stream).call buffer e inbound reply.ret

/-- `Socket::writeTo`; `ret` is what `::sendto` returns. -/
def writeTo (memory : Nat → UInt8)
    (buffer : Nat) (e : ExceptionPtr) (handed : List UInt8) (ret : Int) :
    CallResult (List UInt8) :=
  (sending memory).call buffer e handed ret

end Socket

end Netycat.Impl

namespace Netycat.Network

open Netycat.Corecat Netycat.IP Netycat.Impl

variable (endian : Endian)

/-- What `UDPSocket::readFrom` returns and leaves in its parameters. -/
structure ReadFrom where
  value : UInt64
  address : IPAddress
  port : UInt16
  e : ExceptionPtr
  inbound : Inbound

/-- `UDPSocket::readFrom`, the `ExceptionPtr` form with an address and a
port. -/
def UDPSocket.readFrom (stream : Nat → UInt8)
    (buffer : Nat) (address : IPAddress) (port : UInt16) (e : ExceptionPtr)
    (inbound : Inbound) (reply : Recvfrom) : ReadFrom :=
  let ret := Socket.readFrom stream buffer e inbound reply
  if ret.e.isSome then ⟨0, address, port, ret.e, ret.world⟩
  else
    let sender :=
      fromSockaddr endian reply.saddr reply.saddrSize address port ret.e
    if sender.e.isSome then
      ⟨0, sender.address, sender.port, sender.e, ret.world⟩
    else ⟨ret.value, sender.address, sender.port, sender.e, ret.world⟩

/-- `UDPSocket::writeTo`, the `ExceptionPtr` form. -/
def UDPSocket.writeTo (memory : Nat → UInt8)
    (buffer : Nat) (address : IPAddress) (port : UInt16) (e : ExceptionPtr)
    (handed : List UInt8) (ret : Int) : CallResult (List UInt8) :=
  let saddr := encode endian address port e
  if saddr.e.isSome then ⟨0, saddr.e, handed⟩
  else Socket.writeTo memory buffer saddr.e handed ret

/-- Without an error from before, the call is made and decides. -/
theorem UDPSocket.writeTo_eq
    (memory : Nat → UInt8) (buffer : Nat) (address : IPAddress)
    (port : UInt16) (handed : List UInt8) (ret : Int) :
    UDPSocket.writeTo endian memory buffer address port none handed ret =
      Socket.writeTo memory buffer none handed ret := by
  rw [UDPSocket.writeTo]
  simp only [encode_e, Option.isSome_none, Bool.false_eq_true, if_false]

/-- A datagram comes with the address that it was sent from, whatever the
parameters held before. -/
theorem UDPSocket.readFrom_encoded
    (stream : Nat → UInt8) (buffer : Nat) (address sender : IPAddress)
    (port senderPort : UInt16) (inbound : Inbound)
    {ret : Int} {moved : UInt64}
    (received : callOutcome ret = some moved) :
    UDPSocket.readFrom endian stream buffer address port none inbound
        ⟨ret, encoded endian sender senderPort, sockaddrSize sender⟩ =
      ⟨moved, sender, senderPort, none,
        inbound.receive stream buffer moved.toNat⟩ := by
  have accepted := encoded_accepted endian sender senderPort
  rcases fromSockaddr_accepted endian accepted address port none with
    ⟨decodedAddress, decodedPort, holds, reads⟩
  rw [decoded_encoded, Option.some.injEq, Prod.mk.injEq] at holds
  rw [UDPSocket.readFrom, Socket.readFrom,
    (receiving stream).call_of_some received]
  simp only [Option.isSome_none, Bool.false_eq_true, if_false, reads]
  rw [← holds.1, ← holds.2]
  rfl

end Netycat.Network
