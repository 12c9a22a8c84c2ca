import Netycat.Corecat

/-!
# The socket object

`Impl::Socket` keeps a handle and, once it is known, the family, type and
protocol of the socket behind it.  The functions below are those of the object
alone; what they need from the operating system is an argument, and what they
write through a reference is a result.  Most of them are `noexcept`, so an
exception thrown by `IOExecutor::attachHandle` ends the program: such a call
has the result `none`.
-/

namespace Netycat.Impl

open Netycat.Corecat

abbrev SOCKET := UInt64

def INVALID_SOCKET : SOCKET := 0xFFFFFFFFFFFFFFFF

/-- A handle of an open socket, which is neither null nor the error value. -/
structure OpenHandle where
  value : SOCKET
  valid : value ≠ 0 ∧ value ≠ INVALID_SOCKET
deriving DecidableEq, Repr

/-- The outcome of `::socket` or `::accept`, `none` when the call failed. -/
abbrev HandleReply := Option OpenHandle

/-- The number that the call returns. -/
def HandleReply.value : HandleReply → SOCKET
  | some handle => handle.value
  | none => INVALID_SOCKET

@[simp]
theorem HandleReply.value_some (handle : OpenHandle) :
    HandleReply.value (some handle) = handle.value := rfl

@[simp]
theorem HandleReply.value_none :
    HandleReply.value none = INVALID_SOCKET := rfl

/-- The fields of `WSAPROTOCOL_INFOW` that are read. -/
structure SocketInfo where
  iAddressFamily : Int
  iSocketType : Int
  iProtocol : Int
deriving DecidableEq, Repr

/-- `Impl::Socket`; `executor` says whether the pointer is set. -/
structure Socket where
  executor : Bool
  handle : SOCKET := 0
  family : Int := 0
  type : Int := 0
  protocol : Int := 0
deriving DecidableEq, Repr

namespace Socket

/-- The handle in the field, if the field holds one. -/
def holds (self : Socket) : List SOCKET :=
  if self.handle = 0 ∨ self.handle = INVALID_SOCKET then [] else [self.handle]

/-- The field of a fresh object, and what a failed `::socket` leaves in it. -/
theorem holds_eq_nil_iff (self : Socket) :
    self.holds = [] ↔ self.handle = 0 ∨ self.handle = INVALID_SOCKET := by
  simp [holds, or_iff_not_imp_left]

theorem holds_of_handle_eq
    {first second : Socket} (same : first.handle = second.handle) :
    first.holds = second.holds := by
  rw [holds, holds, same]

theorem holds_length_le_one (self : Socket) : self.holds.length ≤ 1 := by
  rw [holds]
  split <;> simp

/-- `IOExecutor::attachHandle`, called when there is an executor. -/
def attachHandle (self : Socket) (attached : Bool) : Option Socket :=
  if self.executor && !attached then none else some self

theorem attachHandle_eq_some
    {self next : Socket} {attached : Bool}
    (done : self.attachHandle attached = some next) :
    next = self := by
  rw [attachHandle] at done
  split at done
  · cases done
  · exact (Option.some.inj done).symm

/-- `Socket::setHandle`: the handle is attached before it is stored. -/
def setHandle
    (self : Socket) (handle_ : SOCKET) (attached : Bool) : Option Socket :=
  (self.attachHandle attached).map fun self => { self with handle := handle_ }

theorem setHandle_eq_some
    {self next : Socket} {handle_ : SOCKET} {attached : Bool}
    (done : self.setHandle handle_ attached = some next) :
    next = { self with handle := handle_ } := by
  rw [setHandle, Option.map_eq_some_iff] at done
  rcases done with ⟨same, reached, rfl⟩
  rw [attachHandle_eq_some reached]

/-- `Socket::getSocketInfo`, `info` being what `::getsockopt` reads. -/
def getSocketInfo
    (self : Socket) (info : Option SocketInfo) (e : ExceptionPtr) :
    Socket × ExceptionPtr :=
  match info with
  | none => (self, some (IOException "::getsockopt failed"))
  | some info =>
      ({ self with
          family := info.iAddressFamily
          type := info.iSocketType
          protocol := info.iProtocol }, e)

/-- The object does not know yet what its handle refers to. -/
def unknown (self : Socket) : Bool :=
  self.family = 0 && self.type = 0 && self.protocol = 0

/-- How the callback forms of `connect` and `accept` begin. -/
def ensureSocketInfo
    (self : Socket) (info : Option SocketInfo) : Socket × ExceptionPtr :=
  if self.unknown then self.getSocketInfo info none else (self, none)

@[simp]
theorem ensureSocketInfo_handle
    (self : Socket) (info : Option SocketInfo) :
    (self.ensureSocketInfo info).1.handle = self.handle := by
  rw [ensureSocketInfo]
  split
  · cases info <;> rfl
  · rfl

/-! ## Calls that only report -/

/-- An error is stored in `e` when the call did not succeed. -/
def reportUnless
    (success : Bool) (message : String) (e : ExceptionPtr) : ExceptionPtr :=
  if success then e else some (IOException message)

/-- `Socket::bind`. -/
def bind (bound : Bool) (e : ExceptionPtr) : ExceptionPtr :=
  reportUnless bound "::bind failed" e

/-- `Socket::connect`, the `ExceptionPtr` form. -/
def connect (connected : Bool) (e : ExceptionPtr) : ExceptionPtr :=
  reportUnless connected "::connect failed" e

/-- `Socket::listen`. -/
def listen (listening : Bool) (e : ExceptionPtr) : ExceptionPtr :=
  reportUnless listening "::listen failed" e

end Socket

end Netycat.Impl
