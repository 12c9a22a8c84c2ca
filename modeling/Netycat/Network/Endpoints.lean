import Netycat.Impl.Owner

/-!
# Opening an endpoint

`TCPSocket::connect`, `TCPServer::listen` and `UDPSocket::bind` make a socket
for the family of an address, encode the address and make the remaining calls,
closing the socket again at the first error.  They differ in the type of the
socket and in the calls, so the common course is `openEndpoint` and each of
them is that course with its own calls.  The callback form of `connect` goes
the same way up to its last call.

An `ExceptionPtr` may already hold an error when it is passed in.  The code
tests it after `Socket::socket`, so it then returns with the new socket open.
-/

namespace Netycat.Network

open Netycat.Corecat Netycat.IP Netycat.Impl

def SOCK_STREAM : Int := 1

def SOCK_DGRAM : Int := 2

def IPPROTO_TCP : Int := 6

def IPPROTO_UDP : Int := 17

/-- The address family that the functions select by `address.getType()`. -/
def familyOf : IPAddress → Int
  | .IPv4 _ => AF_INET.toNat
  | .IPv6 _ => AF_INET6.toNat

variable (endian : Endian)

/-- `Impl::toSockaddr` into a `sockaddr_storage`. -/
def encode (address : IPAddress) (port : UInt16) (e : ExceptionPtr) :
    ToSockaddr :=
  toSockaddr endian .unset sizeofSockaddrStorage address port e

@[simp]
theorem encode_e (address : IPAddress) (port : UInt16) (e : ExceptionPtr) :
    (encode endian address port e).e = e := by
  rw [encode, toSockaddr_fits endian (sockaddrSize_le_storage address)]

/-- Make the calls in order; at the first error close the socket. -/
def finish (socket : Owner) (e : ExceptionPtr) :
    List (ExceptionPtr → ExceptionPtr) → Owner × ExceptionPtr
  | [] => (socket, e)
  | call :: calls =>
      if (call e).isSome then (socket.close, call e)
      else finish socket (call e) calls

/-- The common course of the three functions. -/
def openEndpoint
    (socket : Owner) (type protocol : Int)
    (address : IPAddress) (port : UInt16)
    (calls : List (ExceptionPtr → ExceptionPtr))
    (reply : HandleReply) (attached : Bool) (e : ExceptionPtr) :
    Option (Owner × ExceptionPtr) :=
  (socket.socket (familyOf address) type protocol reply attached e).map
    fun (socket, e) =>
      if e.isSome then (socket, e)
      else
        let saddr := encode endian address port e
        if saddr.e.isSome then (socket.close, saddr.e)
        else finish socket saddr.e calls

/-- `TCPSocket::connect`, the `ExceptionPtr` form. -/
def TCPSocket.connect
    (socket : Owner) (address : IPAddress) (port : UInt16)
    (reply : HandleReply) (attached connected : Bool) (e : ExceptionPtr) :
    Option (Owner × ExceptionPtr) :=
  openEndpoint endian socket SOCK_STREAM IPPROTO_TCP address port
    [Socket.connect connected] reply attached e

/-- `TCPServer::listen`. -/
def TCPServer.listen
    (socket : Owner) (address : IPAddress) (port : UInt16)
    (reply : HandleReply) (attached bound listening : Bool)
    (e : ExceptionPtr) :
    Option (Owner × ExceptionPtr) :=
  openEndpoint endian socket SOCK_STREAM IPPROTO_TCP address port
    [Socket.bind bound, Socket.listen listening] reply attached e

/-- `UDPSocket::bind`. -/
def UDPSocket.bind
    (socket : Owner) (address : IPAddress) (port : UInt16)
    (reply : HandleReply) (attached bound : Bool) (e : ExceptionPtr) :
    Option (Owner × ExceptionPtr) :=
  openEndpoint endian socket SOCK_DGRAM IPPROTO_UDP address port
    [Socket.bind bound] reply attached e

/-- `TCPSocket::connect`, the callback form, up to `WSA::ConnectEx`. -/
def TCPSocket.connectCallback
    (socket : Owner) (address : IPAddress) (port : UInt16)
    (reply : HandleReply) (attached : Bool)
    (info : Option SocketInfo) (bound : Bool) :
    Option (Owner × Started Unit) :=
  (socket.socket (familyOf address) SOCK_STREAM IPPROTO_TCP reply attached
      none).map
    fun (socket, e) =>
      match e with
      | some e => (socket, .error e)
      | none =>
          match (encode endian address port none).e with
          | some e => (socket.close, .error e)
          | none =>
              let started := socket.self.connectCallback info bound
              ({ socket with self := started.1 }, started.2)

/-! ## What becomes of the handle -/

/-- The socket that was made stays in the field or is closed at once. -/
inductive Settles (socket : Owner) (reply : HandleReply) (next : Owner) :
    Prop where
  | kept (acquires : Owner.Acquires socket reply next)
  | closed (handle : OpenHandle) (middle : Owner)
      (opened : reply = some handle)
      (acquires : Owner.Acquires socket (some handle) middle)
      (closed : next = middle.close)

theorem Settles.exact
    {socket next : Owner} {reply : HandleReply}
    (settles : Settles socket reply next)
    (exact_ : socket.Exact) (free : socket.self.holds = []) :
    next.Exact := by
  cases settles with
  | kept acquires => exact acquires.exact exact_ free
  | closed handle middle opened acquires closed =>
      rw [closed]
      apply Owner.close_exact (acquires.exact exact_ free)
      rw [Ne, Socket.holds_eq_nil_iff, acquires.handle]
      exact not_or.mpr handle.valid

theorem Settles.broken
    {socket next : Owner} {reply : HandleReply}
    (settles : Settles socket reply next)
    (exact_ : socket.Exact) (held : socket.self.holds ≠ []) :
    next.Broken := by
  cases settles with
  | kept acquires => exact acquires.broken exact_ held
  | closed handle middle opened acquires closed =>
      rw [closed]
      exact (acquires.broken exact_ held).close

theorem finish_settles
    {socket middle : Owner} {handle : OpenHandle}
    (acquires : Owner.Acquires socket (some handle) middle)
    (e : ExceptionPtr) (calls : List (ExceptionPtr → ExceptionPtr)) :
    Settles socket (some handle) (finish middle e calls).1 := by
  induction calls generalizing e with
  | nil => exact .kept acquires
  | cons call calls induction =>
      rw [finish]
      split
      · exact .closed handle middle rfl acquires rfl
      · exact induction (call e)

/-- `Socket::socket` leaves no error only when the call succeeded. -/
theorem socket_succeeded
    {socket next : Owner} {family type protocol : Int}
    {reply : HandleReply} {attached : Bool} {e : ExceptionPtr}
    (done :
      socket.socket family type protocol reply attached e =
        some (next, none)) :
    ∃ handle, reply = some handle := by
  cases reply with
  | some handle => exact ⟨handle, rfl⟩
  | none => simp [Owner.socket] at done

theorem openEndpoint_settles
    {socket next : Owner} {type protocol : Int}
    {address : IPAddress} {port : UInt16}
    {calls : List (ExceptionPtr → ExceptionPtr)}
    {reply : HandleReply} {attached : Bool} {e e' : ExceptionPtr}
    (done :
      openEndpoint endian socket type protocol address port calls reply
        attached e = some (next, e')) :
    Settles socket reply next := by
  rw [openEndpoint, Option.map_eq_some_iff] at done
  rcases done with ⟨⟨middle, error⟩, made, same⟩
  have acquires := Owner.socket_acquires made
  cases error with
  | some error =>
      cases same
      exact .kept acquires
  | none =>
      rcases socket_succeeded made with ⟨handle, rfl⟩
      simp only [encode_e, Option.isSome_none, Bool.false_eq_true,
        if_false] at same
      have settles := finish_settles acquires none calls
      rw [same] at settles
      exact settles

theorem TCPSocket.connectCallback_settles
    {socket next : Owner} {address : IPAddress} {port : UInt16}
    {reply : HandleReply} {attached bound : Bool}
    {info : Option SocketInfo} {started : Started Unit}
    (done :
      TCPSocket.connectCallback endian socket address port reply attached
        info bound = some (next, started)) :
    Settles socket reply next := by
  rw [TCPSocket.connectCallback, Option.map_eq_some_iff] at done
  rcases done with ⟨⟨middle, error⟩, made, same⟩
  have acquires := Owner.socket_acquires made
  cases error with
  | some error =>
      cases same
      exact .kept acquires
  | none =>
      simp only [encode_e] at same
      cases same
      apply Settles.kept
      constructor
      · rw [Socket.connectCallback_handle, acquires.handle]
      · exact acquires.os

end Netycat.Network
