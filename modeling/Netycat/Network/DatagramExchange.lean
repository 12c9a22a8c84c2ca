import Netycat.Impl.Chunks
import Netycat.Lib.Pool
import Netycat.Lib.TransitionSystem
import Netycat.Network.DatagramForms

/-!
# Sockets that exchange datagrams

Any number of UDP sockets write to endpoints and read what comes.  The network
may lose a datagram, deliver it more than once, and deliver in any order.  A
socket gets what is addressed to an endpoint that it answers to, and what it
writes leaves from such an endpoint; this is the system's affair and an
argument here.

What `readFrom` reports, in either form, has been written to the socket by
another call, with the same bytes, from the endpoint that is reported.
-/

namespace Netycat.Network

open Netycat.Corecat Netycat.IP Netycat.Impl

/-- Bytes for one datagram. -/
structure Payload where
  data : List UInt8
  fits : data.length ≤ 65507

/-- The buffer that `writeTo` is given, from address zero on. -/
def Payload.memory (payload : Payload) : Nat → UInt8 :=
  fun address => payload.data.getD address 0

/-- A datagram in the network, with its addresses as the system writes them. -/
structure Datagram where
  source : Sockaddr
  sourceSize : Int
  target : Sockaddr
  data : List UInt8

variable (endian : Endian)

/-- `UDPSocket::writeTo` in one of its forms.  The system takes the whole
datagram or refuses the call. -/
def writeTo (form : Form) (payload : Payload) (endpoint : UDPEndpoint)
    (accepts : Bool) : CallResult (List UInt8) :=
  match form with
  | .exceptionPtr =>
      UDPSocket.writeTo endian payload.memory 0 endpoint.address endpoint.port
        none [] (if accepts then payload.data.length else -1)
  | .callback =>
      UDPSocket.writeToCallback endian payload.memory 0 endpoint.address
        endpoint.port []
        (if accepts then .completed true (UInt32.ofNat payload.data.length)
        else .rejected)

/-- `UDPSocket::readFrom` in one of its forms, into a buffer of `count` bytes at
address zero.  The call fails when the datagram is longer. -/
def readFrom (form : Form) (count : UInt64) (datagram : Datagram) : ReadFrom :=
  let stream := fun index => datagram.data.getD index 0
  let room := form.request count
  let length := datagram.data.length
  match form with
  | .exceptionPtr =>
      UDPSocket.readFrom endian stream 0 UDPEndpoint.empty.address
        UDPEndpoint.empty.port none ⟨fun _ => 0, 0⟩
        { ret := if length ≤ room then length else -1
          saddr := datagram.source
          saddrSize := datagram.sourceSize }
  | .callback =>
      UDPSocket.readFromCallbackInto endian stream 0 .empty
        UDPEndpoint.empty.address UDPEndpoint.empty.port ⟨fun _ => 0, 0⟩
        datagram.source datagram.sourceSize
        (if length ≤ room then .completed true (UInt32.ofNat length)
        else .completed false (UInt32.ofNat room))

/-- What stands in the buffer after a read. -/
def ReadFrom.data (read : ReadFrom) : List UInt8 :=
  bytesAt read.inbound.memory 0 read.value.toNat

def ReadFrom.endpoint (read : ReadFrom) : UDPEndpoint where
  address := read.address
  port := read.port

/-- A call of `writeTo` that succeeded. -/
structure Written (Peer : Type) where
  peer : Peer
  source : UDPEndpoint
  target : UDPEndpoint
  payload : Payload

/-- A call of `readFrom` that succeeded. -/
structure Received (Peer : Type) where
  peer : Peer
  data : List UInt8
  endpoint : UDPEndpoint

/-- The datagrams in the network, and the calls that have succeeded. -/
structure Exchange (Peer : Type) where
  network : List Datagram
  written : List (Written Peer)
  received : List (Received Peer)

inductive ExchangeAction (Peer : Type) where
  | write (form : Form) (peer : Peer) (source target : UDPEndpoint)
      (payload : Payload) (accepts : Bool)
  | read (form : Form) (peer : Peer) (count : UInt64) (index : Nat)
  | lose (index : Nat)
  | duplicate (index : Nat)

variable {Peer : Type}

/-- The socket answers to the endpoint that the datagram is addressed to. -/
def Datagram.isFor (names : Peer → UDPEndpoint → Bool) (datagram : Datagram)
    (peer : Peer) : Bool :=
  match datagram.target.decoded endian with
  | some (address, port) => names peer ⟨address, port⟩
  | none => false

/-- What a call of `writeTo` puts into the network. -/
def Written.datagram (written : Written Peer) (data : List UInt8) :
    Datagram where
  source := encoded endian written.source.address written.source.port
  sourceSize := sockaddrSize written.source.address
  target := (encode endian written.target.address written.target.port none).saddr
  data := data

namespace Exchange

/-- `writeTo` is called. -/
def write (exchange : Exchange Peer) (form : Form) (written : Written Peer)
    (accepts : Bool) : Exchange Peer :=
  let result := writeTo endian form written.payload written.target accepts
  if result.e.isSome then exchange
  else
    { exchange with
        network := written.datagram endian result.world :: exchange.network
        written := written :: exchange.written }

/-- `readFrom` is called and gets this datagram. -/
def read (exchange : Exchange Peer) (form : Form) (peer : Peer)
    (count : UInt64) (datagram : Datagram) (others : List Datagram) :
    Exchange Peer :=
  let result := readFrom endian form count datagram
  if result.e.isSome then { exchange with network := others }
  else
    { exchange with
        network := others
        received := ⟨peer, result.data, result.endpoint⟩ :: exchange.received }

end Exchange

/-- All calls and all that the network does, in any order. -/
def exchange (names : Peer → UDPEndpoint → Bool) :
    TransitionSystem (Exchange Peer) (ExchangeAction Peer) where
  init := ⟨[], [], []⟩
  step := fun state action =>
    match action with
    | .write form peer source target payload accepts =>
        if names peer source then
          some
            (state.write endian form ⟨peer, source, target, payload⟩ accepts)
        else none
    | .read form peer count index =>
        (Pool.take? state.network index).bind fun (datagram, others) =>
          if datagram.isFor endian names peer then
            some (state.read endian form peer count datagram others)
          else none
    | .lose index =>
        (Pool.take? state.network index).map fun (_, others) =>
          { state with network := others }
    | .duplicate index =>
        (Pool.take? state.network index).map fun (datagram, _) =>
          { state with network := datagram :: state.network }

/-! ## The calls -/

theorem bytesAt_memory (payload : Payload) :
    bytesAt payload.memory 0 payload.data.length = payload.data := by
  apply List.ext_getElem
  · simp [bytesAt]
  · intro index first second
    simp [bytesAt, Payload.memory, List.getElem?_eq_getElem second]

theorem callOutcome_length
    {length : Nat}
    (fits : length ≤ 65507) :
    ∃ moved : UInt64,
      callOutcome (length : Int) = some moved ∧
        (OverlappedReply.completed true (UInt32.ofNat length)).outcome =
          some moved ∧
        moved.toNat = length := by
  have size : UInt32.size = 2 ^ 32 := rfl
  have large : UInt64.size = 2 ^ 64 := rfl
  have small : (UInt64.ofNat length).toNat = length :=
    UInt64.toNat_ofNat_of_lt' (by omega)
  refine ⟨UInt64.ofNat length, ?_, ?_, small⟩
  · rw [callOutcome, if_neg (Int.not_lt.mpr (Int.natCast_nonneg length)),
      Int.toNat_natCast]
  · rw [OverlappedReply.outcome]
    apply congrArg some
    apply UInt64.toNat_inj.mp
    rw [UInt32.toNat_toUInt64, UInt32.toNat_ofNat_of_lt' (by omega), small]

/-- A call that is accepted hands over the payload, and one that is not
fails. -/
theorem writeTo_cases
    (form : Form)
    (payload : Payload)
    (endpoint : UDPEndpoint)
    (accepts : Bool) :
    (writeTo endian form payload endpoint accepts).e.isSome = !accepts ∧
      (accepts = true →
        (writeTo endian form payload endpoint accepts).world =
          payload.data) := by
  rcases callOutcome_length payload.fits with ⟨moved, sent, completed, isMoved⟩
  have handed : bytesAt payload.memory 0 moved.toNat = payload.data := by
    rw [isMoved, bytesAt_memory]
  cases form with
  | exceptionPtr =>
      rw [writeTo, UDPSocket.writeTo_eq, Socket.writeTo]
      cases accepts with
      | false => exact ⟨rfl, fun impossible => by cases impossible⟩
      | true =>
          rw [if_pos rfl, Channel.call_of_some _ sent]
          exact ⟨rfl, fun _ => handed⟩
  | callback =>
      rw [writeTo, UDPSocket.writeToCallback_eq, Socket.writeToCalledBack]
      cases accepts with
      | false => exact ⟨rfl, fun impossible => by cases impossible⟩
      | true =>
          rw [if_pos rfl, Channel.operation_of_some _ completed]
          exact ⟨rfl, fun _ => handed⟩

/-- The bytes of a datagram, read from its beginning. -/
theorem bytesAt_datagram (data : List UInt8) :
    bytesAt
        (Inbound.receive (fun index => data.getD index 0) 0 data.length
          ⟨fun _ => 0, 0⟩).memory 0 data.length =
      data := by
  have whole := @bytesAt_receive data 0 data.length (by simp)
  rw [List.drop_zero, List.take_length] at whole
  exact whole

/-- A datagram that fits is read with the endpoint that it comes from. -/
theorem readFrom_fits
    (form : Form)
    {count : UInt64}
    {datagram : Datagram}
    {address : IPAddress}
    {port : UInt16}
    (size : datagram.data.length ≤ 65507)
    (source : datagram.source = encoded endian address port)
    (sourceSize : datagram.sourceSize = sockaddrSize address)
    (fits : datagram.data.length ≤ form.request count) :
    (readFrom endian form count datagram).e = none ∧
      (readFrom endian form count datagram).data = datagram.data ∧
      (readFrom endian form count datagram).endpoint = ⟨address, port⟩ := by
  rcases callOutcome_length size with ⟨moved, received, completed, isMoved⟩
  have whole := bytesAt_datagram datagram.data
  cases form with
  | exceptionPtr =>
      simp only [readFrom, if_pos fits, source, sourceSize]
      rw [UDPSocket.readFrom_encoded endian _ _ _ _ _ _ _ received]
      refine ⟨rfl, ?_, rfl⟩
      simp only [ReadFrom.data, isMoved]
      exact whole
  | callback =>
      have called :=
        UDPSocket.readFromCallback_of_some endian
          (fun index => datagram.data.getD index 0) 0 .empty ⟨fun _ => 0, 0⟩
          (encoded endian address port) (sockaddrSize address) completed
      have accepted := encoded_accepted endian address port
      rcases fromSockaddr_accepted endian accepted UDPEndpoint.empty.address
          UDPEndpoint.empty.port none with ⟨sender, senderPort, holds, reads⟩
      rw [decoded_encoded, Option.some.injEq, Prod.mk.injEq] at holds
      simp only [readFrom, if_pos fits, source, sourceSize,
        UDPSocket.readFromCallbackInto, called, reads, Option.isSome_none,
        Bool.false_eq_true, if_false]
      refine ⟨trivial, ?_, ?_⟩
      · simp only [ReadFrom.data, isMoved]
        exact whole
      · simp [ReadFrom.endpoint, holds]

/-- A datagram that does not fit is an error. -/
theorem readFrom_tooLong
    (form : Form)
    {count : UInt64}
    {datagram : Datagram}
    (long : ¬ datagram.data.length ≤ form.request count) :
    (readFrom endian form count datagram).e.isSome = true := by
  cases form with
  | exceptionPtr =>
      simp only [readFrom, if_neg long]
      rfl
  | callback =>
      simp only [readFrom, if_neg long]
      rfl

/-- What is reported without an error is not longer than the buffer. -/
theorem readFrom_length
    (form : Form)
    {count : UInt64}
    {datagram : Datagram}
    (room : form.request count ≤ 65507)
    (noError : (readFrom endian form count datagram).e = none) :
    (readFrom endian form count datagram).data.length ≤
      form.request count := by
  have length :
      (readFrom endian form count datagram).data.length =
        (readFrom endian form count datagram).value.toNat := by
    simp [ReadFrom.data, bytesAt]
  rw [length]
  by_cases fits : datagram.data.length ≤ form.request count
  · rcases callOutcome_length (fits.trans room) with
      ⟨moved, received, completed, isMoved⟩
    rw [← isMoved] at fits
    cases form with
    | exceptionPtr =>
        have call :=
          @Channel.call_of_some _
            (receiving fun index => datagram.data.getD index 0) 0 none
            ⟨fun _ => 0, 0⟩ _ _ received
        rw [isMoved] at fits
        simp only [readFrom, if_pos fits, UDPSocket.readFrom, Socket.readFrom,
          call, Option.isSome_none, Bool.false_eq_true, if_false]
        rw [← isMoved] at fits
        split
        · exact Nat.zero_le _
        · exact fits
    | callback =>
        have called :=
          UDPSocket.readFromCallback_of_some endian
            (fun index => datagram.data.getD index 0) 0 .empty
            ⟨fun _ => 0, 0⟩ datagram.source datagram.sourceSize completed
        rw [isMoved] at fits
        simp only [readFrom, if_pos fits, UDPSocket.readFromCallbackInto,
          called]
        rw [← isMoved] at fits
        split
        · exact Nat.zero_le _
        · exact fits
  · have failed := readFrom_tooLong endian form fits
    rw [noError] at failed
    cases failed

/-! ## Whole runs -/

section Runs

variable {names : Peer → UDPEndpoint → Bool}

/-- The datagram is what a call has written. -/
def Datagram.From (datagram : Datagram) (written : Written Peer) : Prop :=
  datagram = written.datagram endian written.payload.data

/-- Every datagram in the network and every report has been written. -/
structure Exchange.Genuine (names : Peer → UDPEndpoint → Bool)
    (state : Exchange Peer) : Prop where
  leaves : ∀ written ∈ state.written, names written.peer written.source = true
  network :
    ∀ datagram ∈ state.network,
      ∃ written ∈ state.written, datagram.From endian written
  received :
    ∀ report ∈ state.received,
      ∃ written ∈ state.written,
        report.data = written.payload.data ∧
          report.endpoint = written.source ∧
          names report.peer written.target = true

/-- The network drops, repeats or hands on, and nothing new comes up. -/
theorem Exchange.Genuine.fewer
    {state : Exchange Peer}
    {network : List Datagram}
    (genuine : state.Genuine endian names)
    (among : ∀ datagram ∈ network, datagram ∈ state.network) :
    ({ state with network := network } : Exchange Peer).Genuine endian names where
  leaves := genuine.leaves
  network := fun datagram inside =>
    genuine.network datagram (among datagram inside)
  received := genuine.received

theorem Exchange.Genuine.write
    {state : Exchange Peer}
    (genuine : state.Genuine endian names)
    (form : Form)
    {written : Written Peer}
    (named : names written.peer written.source = true)
    (accepts : Bool) :
    (state.write endian form written accepts).Genuine endian names := by
  have cases_ :=
    writeTo_cases endian form written.payload written.target accepts
  rw [Exchange.write]
  cases accepts with
  | false =>
      simp only [cases_.1, Bool.not_false, if_true]
      exact genuine
  | true =>
      simp only [cases_.1, Bool.not_true, Bool.false_eq_true, if_false,
        cases_.2 rfl]
      constructor
      · intro other inside
        rcases List.mem_cons.mp inside with rfl | old
        · exact named
        · exact genuine.leaves other old
      · intro datagram inside
        rcases List.mem_cons.mp inside with rfl | old
        · exact ⟨written, List.mem_cons_self, rfl⟩
        · rcases genuine.network datagram old with ⟨earlier, before, from_⟩
          exact ⟨earlier, List.mem_cons_of_mem _ before, from_⟩
      · intro report inside
        rcases genuine.received report inside with ⟨earlier, before, same⟩
        exact ⟨earlier, List.mem_cons_of_mem _ before, same⟩

/-- What a datagram that has been written is addressed to. -/
theorem Datagram.From.isFor_iff
    {datagram : Datagram}
    {written : Written Peer}
    (from_ : datagram.From endian written)
    (peer : Peer) :
    datagram.isFor endian names peer = names peer written.target := by
  rw [Datagram.From] at from_
  subst from_
  rw [Datagram.isFor, Written.datagram, encode,
    toSockaddr_fits endian (sockaddrSize_le_storage written.target.address)]
  simp only [decoded_encoded]

/-- What is reported of a datagram that has been written. -/
theorem Datagram.From.reported
    {datagram : Datagram}
    {written : Written Peer}
    (from_ : datagram.From endian written)
    (form : Form)
    {count : UInt64}
    (noError : (readFrom endian form count datagram).e.isSome = false) :
    (readFrom endian form count datagram).data = written.payload.data ∧
      (readFrom endian form count datagram).endpoint = written.source := by
  rw [Datagram.From] at from_
  subst from_
  by_cases fits : written.payload.data.length ≤ form.request count
  · exact
      (readFrom_fits endian form written.payload.fits rfl rfl fits).2
  · have failed :=
      @readFrom_tooLong endian form count
        (written.datagram endian written.payload.data) fits
    rw [noError] at failed
    cases failed

theorem Exchange.Genuine.read
    {state : Exchange Peer}
    (genuine : state.Genuine endian names)
    (form : Form)
    {peer : Peer}
    (count : UInt64)
    {datagram : Datagram}
    {others : List Datagram}
    (taken : state.network.Perm (datagram :: others))
    (isFor : datagram.isFor endian names peer = true) :
    (state.read endian form peer count datagram others).Genuine endian
      names := by
  have kept :=
    genuine.fewer endian fun other (inside : other ∈ others) =>
      taken.mem_iff.mpr (List.mem_cons_of_mem _ inside)
  rcases genuine.network datagram (taken.mem_iff.mpr List.mem_cons_self) with
    ⟨written, before, from_⟩
  rw [Exchange.read]
  cases failed : (readFrom endian form count datagram).e.isSome with
  | true =>
      simp only [if_true]
      exact kept
  | false =>
      simp only [Bool.false_eq_true, if_false]
      refine ⟨kept.leaves, kept.network, ?_⟩
      intro report inside
      rcases List.mem_cons.mp inside with rfl | old
      · have reported := from_.reported endian form failed
        refine ⟨written, before, reported.1, reported.2, ?_⟩
        exact (from_.isFor_iff endian peer).symm.trans isFor
      · exact kept.received report old

theorem Exchange.Genuine.step
    {state next : Exchange Peer}
    {action : ExchangeAction Peer}
    (genuine : state.Genuine endian names)
    (stepped : (exchange endian names).step state action = some next) :
    next.Genuine endian names := by
  cases action with
  | write form peer source target payload accepts =>
      simp only [exchange] at stepped
      split at stepped
      · next named =>
          cases stepped
          exact genuine.write endian form named accepts
      · cases stepped
  | read form peer count index =>
      rcases Option.bind_eq_some_iff.mp stepped with
        ⟨⟨datagram, others⟩, taken, reads⟩
      simp only at reads
      split at reads
      · next isFor =>
          cases reads
          exact
            genuine.read endian form count (Pool.take?_perm taken) isFor
      · cases reads
  | lose index =>
      rcases Option.map_eq_some_iff.mp stepped with
        ⟨⟨datagram, others⟩, taken, rfl⟩
      exact
        genuine.fewer endian fun other inside =>
          (Pool.take?_perm taken).mem_iff.mpr (List.mem_cons_of_mem _ inside)
  | duplicate index =>
      rcases Option.map_eq_some_iff.mp stepped with
        ⟨⟨datagram, others⟩, taken, rfl⟩
      refine genuine.fewer endian fun other inside => ?_
      rcases List.mem_cons.mp inside with rfl | old
      · exact (Pool.take?_perm taken).mem_iff.mpr List.mem_cons_self
      · exact old

end Runs

end Netycat.Network
