import Netycat.Impl.Socket

/-!
# Callback forms of the socket operations

A callback form first makes some calls that may fail, in which case it reports
to its callback at once.  Otherwise it makes an `Overlapped` and starts the
overlapped call, and what is left to do is the closure kept in the
`Overlapped`.  The closure runs when `IOExecutor::run` dispatches the
completion; when the overlapped call is rejected it is discarded instead and
the function reports the rejection itself.
-/

namespace Netycat.Impl

open Netycat.Corecat

/-- What a closure has to do around the call of the user's callback. -/
inductive Closure (Target : Type*) where
  | connect
  | accept (h : OpenHandle) (target : Target)
  | transfer (message : String)
deriving DecidableEq, Repr

/--
What an operation does that can be seen from outside.  A socket is opened for
the target that `accept` was called with.
-/
inductive OperationEvent (Target : Type*) where
  | opened (h : OpenHandle) (target : Target)
  | newBuffer
  | deleteBuffer
  | closesocket (h : OpenHandle)
  | setHandle (target : Target) (h : OpenHandle)
  | callback (e : ExceptionPtr) (count : Option Nat)
deriving DecidableEq, Repr

/-- A callback form that has come to its overlapped call, or ended early. -/
abbrev Started (Target : Type*) := Except Exception (Closure Target)

namespace Closure

variable {Target : Type*}

/-- The message reported when the overlapped call is rejected. -/
def rejection : Closure Target → String
  | .connect => "::ConnectEx failed"
  | .accept _ _ => "::AccpetEx failed"
  | .transfer message => message

/-- What the function has done when it comes to the overlapped call. -/
def begun : Closure Target → List (OperationEvent Target)
  | .connect => []
  | .accept h target => [.opened h target, .newBuffer]
  | .transfer _ => []

/-- `delete[] buffer`. -/
def release : Closure Target → List (OperationEvent Target)
  | .connect => []
  | .accept _ _ => [.deleteBuffer]
  | .transfer _ => []

/-- The rest of the closure, and of the function after a rejection. -/
def report (e : ExceptionPtr) (byteCount : Nat) :
    Closure Target → List (OperationEvent Target)
  | .connect => [.callback e none]
  | .accept h target =>
      [if e.isSome then .closesocket h else .setHandle target h,
        .callback e none]
  | .transfer _ => [.callback e (some byteCount)]

/-- Only a closure of `accept` that is given no error stores a handle. -/
theorem setHandle_mem_report
    {closure : Closure Target} {e : ExceptionPtr} {byteCount : Nat}
    {target : Target} {h : OpenHandle}
    (member : .setHandle target h ∈ closure.report e byteCount) :
    closure = .accept h target ∧ e = none := by
  cases closure with
  | connect => simp [Closure.report] at member
  | accept opened stored =>
      cases e with
      | none =>
          simp only [Closure.report, Option.isSome_none, Bool.false_eq_true,
            if_false, List.mem_cons, OperationEvent.setHandle.injEq] at member
          rcases member with ⟨rfl, rfl⟩ | impossible
          · exact ⟨rfl, rfl⟩
          · simp at impossible
      | some e => simp [Closure.report] at member
  | transfer message => simp [Closure.report] at member

end Closure

namespace Socket

variable {Target : Type*}

/-- `Socket::connect`, the callback form, up to `WSA::ConnectEx`. -/
def connectCallback
    (self : Socket) (info : Option SocketInfo) (bound : Bool) :
    Socket × Started Target :=
  match self.ensureSocketInfo info with
  | (self, some e) => (self, .error e)
  | (self, none) =>
      if bound then (self, .ok .connect)
      else (self, .error (IOException "::bind failed"))

/-- `Socket::accept`, the callback form, up to `WSA::AcceptEx`. -/
def acceptCallback
    (self : Socket) (target : Target)
    (info : Option SocketInfo) (h : HandleReply) :
    Socket × Started Target :=
  match self.ensureSocketInfo info with
  | (self, some e) => (self, .error e)
  | (self, none) =>
      match h with
      | none => (self, .error (IOException "::socket failed"))
      | some h => (self, .ok (.accept h target))

/-- The four transfers have no call before the overlapped one. -/
def transferCallback (self : Socket) (message : String) :
    Socket × Started Target :=
  (self, .ok (.transfer message))

/-- `Socket::read`, the callback form, up to `::WSARecv`. -/
def readCallback (self : Socket) : Socket × Started Target :=
  self.transferCallback "::WSARecv failed"

/-- `Socket::readFrom`, the callback form, up to `::WSARecvFrom`. -/
def readFromCallback (self : Socket) : Socket × Started Target :=
  self.transferCallback "::WSARecvFrom failed"

/-- `Socket::write`, the callback form, up to `::WSASend`. -/
def writeCallback (self : Socket) : Socket × Started Target :=
  self.transferCallback "::WSASend failed"

/-- `Socket::writeTo`, the callback form, up to `::WSASendTo`. -/
def writeToCallback (self : Socket) : Socket × Started Target :=
  self.transferCallback "::WSASendTo failed"

@[simp]
theorem connectCallback_handle
    (self : Socket) (info : Option SocketInfo) (bound : Bool) :
    (self.connectCallback info bound : Socket × Started Target).1.handle =
      self.handle := by
  have kept := self.ensureSocketInfo_handle info
  rw [connectCallback]
  cases looked : self.ensureSocketInfo info with
  | mk next e =>
      rw [looked] at kept
      cases e with
      | some e => exact kept
      | none =>
          cases bound with
          | true => exact kept
          | false => exact kept

end Socket

/-- A callback form with the outcomes of the calls before the overlapped one. -/
inductive Operation (Target : Type*) where
  | connect (info : Option SocketInfo) (bound : Bool)
  | accept (target : Target) (info : Option SocketInfo) (h : HandleReply)
  | read
  | readFrom
  | write
  | writeTo
deriving DecidableEq, Repr

/-- Call the function, up to its overlapped call. -/
def Operation.start {Target : Type*} (self : Socket) :
    Operation Target → Socket × Started Target
  | .connect info bound => self.connectCallback info bound
  | .accept target info h => self.acceptCallback target info h
  | .read => self.readCallback
  | .readFrom => self.readFromCallback
  | .write => self.writeCallback
  | .writeTo => self.writeToCallback

end Netycat.Impl
