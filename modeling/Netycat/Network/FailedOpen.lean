import Netycat.Network.Endpoints
import Netycat.Impl.Transfer

/-!
# Endpoints that could not be opened

An operation that fails on a closed object is to leave a closed object.  The
`ExceptionPtr` forms close the socket they have made at every error after
`Socket::socket`.  They do nothing about the errors of `Socket::socket` itself:
a failed `::socket` leaves the error value in the field, and a handle that
cannot be attached ends the program.

The callback form of `connect` hands the rest of the work to
`Socket::connect`, which knows nothing of the clean-up.  Whatever fails there
or later leaves the object open.
-/

namespace Netycat.Network

open Netycat.Corecat Netycat.IP Netycat.Impl

/-- What a closed object has acquired and closed before. -/
structure ClosedObject where
  os : Winsock
  nothing : os.owned = []

/-- The object, with or without an executor. -/
def ClosedObject.owner (object : ClosedObject) (executor : Bool) : Owner where
  self := { executor := executor }
  os := object.os

/-- No handle is open, and the fields are those of a closed object. -/
structure Closed (owner : Owner) : Prop where
  handle : owner.self.handle = 0
  family : owner.self.family = 0
  type : owner.self.type = 0
  protocol : owner.self.protocol = 0
  nothing : owner.os.owned = []

/-- What is asked of a function that succeeds when all calls of the operating
system do: it returns, it has set `e` unless it succeeds, and when it has set
`e` the object is closed. -/
structure CleanFailure
    (succeeds : Prop) (result : Option (Owner × ExceptionPtr)) : Prop where
  returns : result.isSome = true
  reports : ¬ succeeds → ∃ next e, result = some (next, some e)
  closes : ∀ next e, result = some (next, some e) → Closed next

/-- It is enough to ask for it of a function that succeeds more rarely. -/
theorem CleanFailure.of_imp
    {succeeds succeeds' : Prop} {result : Option (Owner × ExceptionPtr)}
    (clean : CleanFailure succeeds result)
    (rarer : succeeds → succeeds') :
    CleanFailure succeeds' result where
  returns := clean.returns
  reports := fun fails => clean.reports (mt rarer fails)
  closes := clean.closes

/-- The object after `Socket::socket` has succeeded. -/
def ClosedObject.opened
    (object : ClosedObject) (executor : Bool) (family type protocol : Int)
    (handle : OpenHandle) : Owner where
  self :=
    { executor := executor
      handle := handle.value
      family := family
      type := type
      protocol := protocol }
  os := object.os.open_ handle

/-- `Socket::socket` on a closed object. -/
theorem ClosedObject.socket_eq
    (object : ClosedObject) (executor : Bool) (family type protocol : Int)
    (reply : HandleReply) (attached : Bool) (e : ExceptionPtr) :
    (object.owner executor).socket family type protocol reply attached e =
      match reply with
      | none =>
          some
            (⟨{ executor := executor, handle := INVALID_SOCKET }, object.os⟩,
              some (IOException "::socket failed"))
      | some handle =>
          if executor && !attached then none
          else some (object.opened executor family type protocol handle, e) := by
  cases reply with
  | none => rfl
  | some handle =>
      have valid : handle.value ≠ INVALID_SOCKET := handle.valid.2
      show
        (if handle.value = INVALID_SOCKET then some _
          else
            Option.map _
              (if executor && !attached then none else some _)) = _
      rw [if_neg valid]
      cases executor && !attached with
      | true => rfl
      | false => rfl

theorem ClosedObject.close_opened
    (object : ClosedObject) (executor : Bool) (family type protocol : Int)
    (handle : OpenHandle) :
    Closed (object.opened executor family type protocol handle).close := by
  refine ⟨rfl, rfl, rfl, rfl, ?_⟩
  have member : handle.value ∈ (object.os.open_ handle).owned :=
    List.mem_cons_self ..
  have owned := (Winsock.closesocket_owned member).1
  show ((object.os.open_ handle).closesocket handle.value).owned = []
  rw [owned]
  show (handle.value :: object.os.owned).erase handle.value = []
  rw [List.erase_cons_head, object.nothing]

/-- The calls after `Socket::socket` report their failures and clean up behind
themselves. -/
theorem finish_clean
    {socket : Owner} (closes : Closed socket.close)
    (calls : List (ExceptionPtr → ExceptionPtr)) :
    CleanFailure (∀ call ∈ calls, call none = none)
      (some (finish socket none calls)) := by
  induction calls with
  | nil =>
      refine ⟨rfl, fun fails => absurd (by simp) fails, ?_⟩
      intro next e same
      cases same
  | cons call calls induction =>
      rw [finish]
      cases failed : call none with
      | none =>
          apply induction.of_imp
          intro others other member
          rcases List.mem_cons.mp member with rfl | later
          · exact failed
          · exact others other later
      | some exception =>
          refine ⟨rfl, fun _ => ⟨_, _, rfl⟩, ?_⟩
          intro next e same
          cases same
          exact closes

/-- `::socket` has succeeded, and the handle has been attached if there is an
executor. -/
def Opens (executor : Bool) (reply : HandleReply) (attached : Bool) : Prop :=
  reply.isSome = true ∧ (executor = true → attached = true)

variable (endian : Endian)

theorem openEndpoint_clean_iff
    (object : ClosedObject) (executor : Bool) (type protocol : Int)
    (address : IPAddress) (port : UInt16)
    (calls : List (ExceptionPtr → ExceptionPtr))
    (reply : HandleReply) (attached : Bool) :
    CleanFailure
        (Opens executor reply attached ∧ ∀ call ∈ calls, call none = none)
        (openEndpoint endian (object.owner executor) type protocol address
          port calls reply attached none) ↔
      Opens executor reply attached := by
  rw [openEndpoint, object.socket_eq]
  cases reply with
  | none =>
      constructor
      · intro clean
        have handle : INVALID_SOCKET = 0 := (clean.closes _ _ rfl).handle
        cases handle
      · rintro ⟨made, _⟩
        cases made
  | some handle =>
      cases fails : executor && !attached with
      | true =>
          simp only [Bool.and_eq_true, Bool.not_eq_true'] at fails
          constructor
          · intro clean
            cases clean.returns
          · rintro ⟨_, attaches⟩
            rw [attaches fails.1] at fails
            cases fails.2
      | false =>
          have opens : Opens executor (some handle) attached := by
            refine ⟨rfl, ?_⟩
            rintro rfl
            simpa using fails
          refine ⟨fun _ => opens, fun _ => ?_⟩
          have closes :=
            object.close_opened executor (familyOf address) type protocol
              handle
          simp only [Bool.false_eq_true, if_false, Option.map_some,
            Option.isSome_none, encode_e]
          exact (finish_clean closes calls).of_imp fun done => ⟨opens, done⟩

/-- A call that only reports leaves no error exactly if it succeeds. -/
theorem reportUnless_none_iff (success : Bool) (message : String) :
    Socket.reportUnless success message none = none ↔ success = true := by
  cases success with
  | false => simp [Socket.reportUnless]
  | true => simp [Socket.reportUnless]

/--
Each of the three functions succeeds when `::socket`, the attaching of the
handle and its own calls do.  Whenever one of these fails it returns with `e`
set and leaves a closed object, exactly if `Socket::socket` does not fail.
-/
theorem failures_clean_iff
    (object : ClosedObject) (executor : Bool)
    (address : IPAddress) (port : UInt16)
    (reply : HandleReply) (attached connected bound listening : Bool) :
    (CleanFailure
          (Opens executor reply attached ∧ connected = true)
          (TCPSocket.connect endian (object.owner executor) address port
            reply attached connected none) ↔
        Opens executor reply attached) ∧
      (CleanFailure
          (Opens executor reply attached ∧ bound = true ∧ listening = true)
          (TCPServer.listen endian (object.owner executor) address port
            reply attached bound listening none) ↔
        Opens executor reply attached) ∧
      (CleanFailure
          (Opens executor reply attached ∧ bound = true)
          (UDPSocket.bind endian (object.owner executor) address port reply
            attached bound none) ↔
        Opens executor reply attached) := by
  have connects :
      (∀ call ∈ [Socket.connect connected], call none = none) ↔
        connected = true := by
    simp only [List.mem_singleton, forall_eq, Socket.connect,
      reportUnless_none_iff]
  have listens :
      (∀ call ∈ [Socket.bind bound, Socket.listen listening],
          call none = none) ↔
        bound = true ∧ listening = true := by
    simp only [List.forall_mem_cons, List.mem_singleton, forall_eq,
      Socket.bind, Socket.listen, reportUnless_none_iff]
  have binds :
      (∀ call ∈ [Socket.bind bound], call none = none) ↔ bound = true := by
    simp only [List.mem_singleton, forall_eq, Socket.bind,
      reportUnless_none_iff]
  rw [← connects, ← listens, ← binds]
  exact
    ⟨openEndpoint_clean_iff endian object _ _ _ address port _ reply attached,
      openEndpoint_clean_iff endian object _ _ _ address port _ reply
        attached,
      openEndpoint_clean_iff endian object _ _ _ address port _ reply
        attached⟩

/-- A fresh object. -/
def ClosedObject.fresh : ClosedObject where
  os := Winsock.empty
  nothing := rfl

def localhost : IPAddress :=
  .IPv4 ⟨#v[127, 0, 0, 1]⟩

theorem newHandle_valid :
    (276 : SOCKET) ≠ 0 ∧ (276 : SOCKET) ≠ INVALID_SOCKET := by
  decide

/-- When `::socket` fails, the error value stays in the field.  When the handle
cannot be attached, the program ends. -/
theorem socket_failures_not_clean :
    let connected :=
      TCPSocket.connect .swap (ClosedObject.fresh.owner false) localhost 80
        none true true none
    let listened :=
      TCPServer.listen .swap (ClosedObject.fresh.owner true) localhost 80
        (some ⟨276, newHandle_valid⟩) false true true none
    connected.map (fun result => (result.1.self.handle, result.2)) =
        some (INVALID_SOCKET, some (IOException "::socket failed")) ∧
      ¬ CleanFailure (Opens false none true ∧ true = true) connected ∧
      listened = none ∧
      ¬ CleanFailure
          (Opens true (some ⟨276, newHandle_valid⟩) false ∧
            true = true ∧ true = true)
          listened := by
  refine ⟨rfl, ?_, rfl, ?_⟩
  · intro clean
    have handle : INVALID_SOCKET = 0 := (clean.closes _ _ rfl).handle
    cases handle
  · intro clean
    cases clean.returns

/-! ## The callback form of `connect` -/

/-- The object and the error when the callback is called: by the function
itself, also when `WSA::ConnectEx` is rejected, or by the closure, which does
nothing else. -/
def connectTold (reply : OverlappedReply) :
    Owner × Started Unit → Owner × ExceptionPtr
  | (owner, .error e) => (owner, some e)
  | (owner, .ok closure) =>
      match reply with
      | .rejected => (owner, some (IOException closure.rejection))
      | .completed false _ =>
          (owner, some (IOException "::GetQueuedCompletionStatus failed"))
      | .completed true _ => (owner, none)

/--
The callback form leaves the object as the `ExceptionPtr` form does that
succeeds or fails like it: closed if there is an error, and with the open
handle otherwise.
-/
def LeavesSame (handle : OpenHandle)
    (callback : Option (Owner × ExceptionPtr))
    (exceptionPtr : Bool → Option (Owner × ExceptionPtr)) : Prop :=
  ∃ owner e e',
    callback = some (owner, e) ∧
      exceptionPtr e.isNone = some (owner, e') ∧
      e'.isSome = e.isSome ∧
      if e.isSome then Closed owner
      else owner.self.handle = handle.value ∧ owner.os.owned = [handle.value]

theorem connect_eq
    (object : ClosedObject) (address : IPAddress) (port : UInt16)
    (handle : OpenHandle) (connected : Bool) :
    TCPSocket.connect endian (object.owner true) address port (some handle)
        true connected none =
      let opened :=
        object.opened true (familyOf address) SOCK_STREAM IPPROTO_TCP handle
      if connected then some (opened, none)
      else
        some (opened.close, some (IOException "::connect failed")) := by
  rw [TCPSocket.connect, openEndpoint, object.socket_eq]
  cases connected with
  | true =>
      simp [finish, Socket.connect, Socket.reportUnless]
  | false =>
      simp [finish, Socket.connect, Socket.reportUnless]

/-- The family, type and protocol are known, so nothing asks for them. -/
theorem connectCallback_eq
    (object : ClosedObject) (address : IPAddress) (port : UInt16)
    (handle : OpenHandle) (info : Option SocketInfo) (bound : Bool) :
    TCPSocket.connectCallback endian (object.owner true) address port
        (some handle) true info bound =
      some
        (object.opened true (familyOf address) SOCK_STREAM IPPROTO_TCP handle,
          if bound then .ok .connect
          else .error (IOException "::bind failed")) := by
  have known :
      (object.opened true (familyOf address) SOCK_STREAM IPPROTO_TCP
        handle).self.unknown = false := by
    simp [Socket.unknown, ClosedObject.opened, SOCK_STREAM]
  rw [TCPSocket.connectCallback, object.socket_eq]
  simp only [Bool.not_true, Bool.and_false, Bool.false_eq_true, if_false,
    Option.map_some, encode_e, Socket.connectCallback,
    Socket.ensureSocketInfo, known]
  cases bound with
  | true => rfl
  | false => rfl

/-- Nothing closes the object when the callback is called. -/
theorem connectTold_owner
    (reply : OverlappedReply) (owner : Owner) (started : Started Unit) :
    (connectTold reply (owner, started)).1 = owner := by
  cases started with
  | error e => rfl
  | ok closure =>
      cases reply with
      | rejected => rfl
      | completed success byteCount =>
          cases success with
          | true => rfl
          | false => rfl

theorem connectTold_none_iff
    (reply : OverlappedReply) (owner : Owner) (bound : Bool) :
    (connectTold reply
        (owner,
          if bound then .ok .connect
          else .error (IOException "::bind failed"))).2 = none ↔
      bound = true ∧ ∃ byteCount, reply = .completed true byteCount := by
  cases bound with
  | false => simp [connectTold]
  | true =>
      cases reply with
      | rejected => simp [connectTold]
      | completed success byteCount =>
          cases success with
          | true => simp [connectTold]
          | false => simp [connectTold]

/--
The two forms leave the object alike exactly if nothing fails after the socket
has been made.
-/
theorem connect_forms_same_iff
    (object : ClosedObject) (address : IPAddress) (port : UInt16)
    (handle : OpenHandle) (info : Option SocketInfo) (bound : Bool)
    (reply : OverlappedReply) :
    LeavesSame handle
        ((TCPSocket.connectCallback endian (object.owner true) address port
          (some handle) true info bound).map (connectTold reply))
        (fun connected =>
          TCPSocket.connect endian (object.owner true) address port
            (some handle) true connected none) ↔
      bound = true ∧ ∃ byteCount, reply = .completed true byteCount := by
  let opened :=
    object.opened true (familyOf address) SOCK_STREAM IPPROTO_TCP handle
  rw [connectCallback_eq, Option.map_some, ← connectTold_none_iff _ opened]
  have kept := connectTold_owner reply opened
    (if bound then .ok .connect else .error (IOException "::bind failed"))
  constructor
  · rintro ⟨owner, e, e', told, _, _, left⟩
    have isOpened : owner = opened := by
      rw [← kept, Option.some.inj told]
    cases e with
    | none => rw [Option.some.inj told]
    | some e =>
        have closed : Closed owner := left
        have handle_ := closed.handle
        rw [isOpened] at handle_
        exact absurd handle_ handle.valid.1
  · intro succeeded
    refine ⟨opened, none, none, ?_, ?_, rfl, ?_⟩
    · exact congrArg some (Prod.ext kept succeeded)
    · exact connect_eq endian object address port handle true
    · refine ⟨rfl, ?_⟩
      show handle.value :: object.os.owned = [handle.value]
      rw [object.nothing]

/-- An error that the completion brings leaves the object with the open
handle, where the other form closes it. -/
theorem connectCallback_stays_open :
    let object := ClosedObject.fresh
    let handle : OpenHandle := ⟨276, newHandle_valid⟩
    let opened := object.opened true 2 1 6 handle
    let told :=
      (TCPSocket.connectCallback .swap (object.owner true) localhost 80
        (some handle) true none true).map (connectTold (.completed false 0))
    let connect := fun connected =>
      TCPSocket.connect .swap (object.owner true) localhost 80 (some handle)
        true connected none
    told =
        some
          (opened,
            some (IOException "::GetQueuedCompletionStatus failed")) ∧
      opened.self.handle = 276 ∧ opened.os.owned = [276] ∧
      connect false =
        some (opened.close, some (IOException "::connect failed")) ∧
      opened.close.self.handle = 0 ∧ opened.close.os.owned = [] ∧
      ¬ LeavesSame handle told connect := by
  refine ⟨rfl, rfl, rfl, rfl, rfl, rfl, ?_⟩
  rintro ⟨owner, e, e', told, _, _, left⟩
  cases told
  have closed : (276 : SOCKET) = 0 := left.handle
  cases closed

end Netycat.Network
