import Netycat.Impl.Address
import Netycat.Impl.AsyncSocket

/-!
# A socket object and the handles it has acquired

`Winsock` is the account of one object: the handles the system has given it,
those it has closed and those still open, as lists because the system may give
the same number again after it was closed.  A value passed to `::closesocket`
that is not an open handle of the object is `stray`.  The two sides of the
account agree by construction.

`Owner` is the object with its account, and carries the functions of
`Impl::Socket` that acquire or close a handle.
-/

namespace Netycat.Impl

open Netycat.Corecat

/-- The account of the handles of one object. -/
structure Winsock where
  acquired : List SOCKET
  closed : List SOCKET
  owned : List SOCKET
  stray : List SOCKET
  balanced : acquired.Perm (closed ++ owned)
  owned_valid : ∀ h ∈ owned, h ≠ 0 ∧ h ≠ INVALID_SOCKET

namespace Winsock

def empty : Winsock where
  acquired := []
  closed := []
  owned := []
  stray := []
  balanced := List.Perm.refl []
  owned_valid := by simp

/-- The system gives the object an open handle. -/
def open_ (os : Winsock) (handle : OpenHandle) : Winsock where
  acquired := handle.value :: os.acquired
  closed := os.closed
  owned := handle.value :: os.owned
  stray := os.stray
  balanced :=
    (os.balanced.cons handle.value).trans List.perm_middle.symm
  owned_valid := by
    rintro h (_ | ⟨_, member⟩)
    · exact handle.valid
    · exact os.owned_valid h member

/-- What the object acquires by a call that may have failed. -/
def acquire (os : Winsock) : HandleReply → Winsock
  | some handle => os.open_ handle
  | none => os

@[simp]
theorem acquire_some_owned (os : Winsock) (handle : OpenHandle) :
    (os.acquire (some handle)).owned = handle.value :: os.owned := rfl

@[simp]
theorem acquire_none (os : Winsock) : os.acquire none = os := rfl

@[simp]
theorem acquire_stray (os : Winsock) (reply : HandleReply) :
    (os.acquire reply).stray = os.stray := by
  cases reply <;> rfl

/-- `::closesocket`. -/
def closesocket (os : Winsock) (h : SOCKET) : Winsock :=
  if member : h ∈ os.owned then
    { acquired := os.acquired
      closed := h :: os.closed
      owned := os.owned.erase h
      stray := os.stray
      balanced := by
        have front : os.owned.Perm (h :: os.owned.erase h) :=
          List.perm_cons_erase member
        have moved :
            (os.closed ++ h :: os.owned.erase h).Perm
              (h :: os.closed ++ os.owned.erase h) :=
          List.perm_middle
        exact os.balanced.trans ((front.append_left os.closed).trans moved)
      owned_valid := fun other kept =>
        os.owned_valid other (List.mem_of_mem_erase kept) }
  else
    { os with stray := h :: os.stray }

theorem closesocket_owned
    {os : Winsock} {h : SOCKET} (member : h ∈ os.owned) :
    (os.closesocket h).owned = os.owned.erase h ∧
      (os.closesocket h).stray = os.stray := by
  rw [closesocket, dif_pos member]
  exact ⟨rfl, rfl⟩

theorem closesocket_not_owned
    {os : Winsock} {h : SOCKET} (absent : h ∉ os.owned) :
    (os.closesocket h).stray = h :: os.stray := by
  rw [closesocket, dif_neg absent]

theorem closesocket_stray_ne_nil
    {os : Winsock} (h : SOCKET) (strayed : os.stray ≠ []) :
    (os.closesocket h).stray ≠ [] := by
  rw [closesocket]
  split
  · exact strayed
  · exact List.cons_ne_nil _ _

/-- Neither of the two values that stand for no handle is ever owned. -/
theorem not_owned
    (os : Winsock) {h : SOCKET} (none : h = 0 ∨ h = INVALID_SOCKET) :
    h ∉ os.owned := by
  intro member
  rcases none with isZero | isInvalid
  · exact (os.owned_valid h member).1 isZero
  · exact (os.owned_valid h member).2 isInvalid

end Winsock

/-- A socket object with the account of its handles. -/
structure Owner where
  self : Socket
  os : Winsock

namespace Owner

/-- `Socket::socket`: the field is written before anything is checked. -/
def socket
    (owner : Owner) (family_ type_ protocol_ : Int)
    (reply : HandleReply) (attached : Bool) (e : ExceptionPtr) :
    Option (Owner × ExceptionPtr) :=
  let self := { owner.self with handle := reply.value }
  let os := owner.os.acquire reply
  if self.handle = INVALID_SOCKET then
    some (⟨self, os⟩, some (IOException "::socket failed"))
  else
    (self.attachHandle attached).map fun self =>
      (⟨{ self with
            family := family_, type := type_, protocol := protocol_ }, os⟩, e)

/-- `Socket::close`: the field is not tested. -/
def close (owner : Owner) : Owner where
  self := { owner.self with handle := 0, family := 0, type := 0, protocol := 0 }
  os := owner.os.closesocket owner.self.handle

/-- `Socket::setHandle`, with a handle that becomes the object's. -/
def setHandle
    (owner : Owner) (handle_ : OpenHandle) (attached : Bool) : Option Owner :=
  (owner.self.setHandle handle_.value attached).map fun self =>
    ⟨self, owner.os.open_ handle_⟩

/-- `Socket::accept`, seen by the target: `sock` is what `::accept` returns. -/
def acceptInto
    (owner : Owner) (sock : HandleReply) (attached : Bool)
    (e : ExceptionPtr) : Option (Owner × ExceptionPtr) :=
  match sock with
  | none => some (owner, some (IOException "::accept failed"))
  | some sock => (owner.setHandle sock attached).map fun owner => (owner, e)

/--
The closure of `Socket::accept`, seen by the target.  When it is given an error
it closes `h`, which the target has never had.
-/
def acceptCompleted
    (owner : Owner) (h : OpenHandle) (attached : Bool) :
    ExceptionPtr → Option Owner
  | some _ => some owner
  | none => owner.setHandle h attached

/-- `Socket::~Socket`. -/
def destroy (owner : Owner) : Owner :=
  if owner.self.handle ≠ 0 then owner.close else owner

/-! ## What the operations do to the account -/

/-- The field has taken what the call gave, and so has the account. -/
structure Acquires (owner : Owner) (reply : HandleReply) (next : Owner) :
    Prop where
  handle : next.self.handle = reply.value
  os : next.os = owner.os.acquire reply

theorem socket_acquires
    {owner next : Owner} {family_ type_ protocol_ : Int}
    {reply : HandleReply} {attached : Bool} {e e' : ExceptionPtr}
    (done :
      owner.socket family_ type_ protocol_ reply attached e =
        some (next, e')) :
    Acquires owner reply next := by
  simp only [socket] at done
  split at done
  · cases done
    exact ⟨rfl, rfl⟩
  · rw [Option.map_eq_some_iff] at done
    rcases done with ⟨self, reached, same⟩
    cases same
    rw [Socket.attachHandle_eq_some reached]
    exact ⟨rfl, rfl⟩

theorem setHandle_acquires
    {owner next : Owner} {handle_ : OpenHandle} {attached : Bool}
    (done : owner.setHandle handle_ attached = some next) :
    Acquires owner (some handle_) next := by
  rw [setHandle, Option.map_eq_some_iff] at done
  rcases done with ⟨self, reached, rfl⟩
  rw [Socket.setHandle_eq_some reached]
  exact ⟨rfl, rfl⟩

theorem acceptInto_cases
    {owner next : Owner} {sock : HandleReply} {attached : Bool}
    {e e' : ExceptionPtr}
    (done : owner.acceptInto sock attached e = some (next, e')) :
    (sock = none ∧ next = owner) ∨
      (sock ≠ none ∧ Acquires owner sock next) := by
  cases sock with
  | none =>
      cases done
      exact Or.inl ⟨rfl, rfl⟩
  | some sock =>
      rw [acceptInto, Option.map_eq_some_iff] at done
      rcases done with ⟨middle, reached, same⟩
      cases same
      exact Or.inr ⟨Option.some_ne_none sock, setHandle_acquires reached⟩

theorem acceptCompleted_cases
    {owner next : Owner} {h : OpenHandle} {attached : Bool}
    {e : ExceptionPtr}
    (done : owner.acceptCompleted h attached e = some next) :
    (e ≠ none ∧ next = owner) ∨
      (e = none ∧ Acquires owner (some h) next) := by
  cases e with
  | some e =>
      cases done
      exact Or.inl ⟨Option.some_ne_none e, rfl⟩
  | none => exact Or.inr ⟨rfl, setHandle_acquires done⟩

/-- The open handles of the object are the one in its field, if any. -/
structure Exact (owner : Owner) : Prop where
  owned : owner.os.owned = owner.self.holds
  stray : owner.os.stray = []

/-- The object has lost a handle, or has closed something it did not own. -/
def Broken (owner : Owner) : Prop :=
  owner.self.holds.length < owner.os.owned.length ∨ owner.os.stray ≠ []

/-- Nothing about the account changes. -/
theorem Exact.keep
    {owner next : Owner} (exact_ : Exact owner)
    (handle : next.self.handle = owner.self.handle)
    (os : next.os = owner.os) :
    Exact next :=
  ⟨by rw [os, exact_.owned, Socket.holds_of_handle_eq handle],
    by rw [os, exact_.stray]⟩

theorem Acquires.exact
    {owner next : Owner} {reply : HandleReply}
    (acquires : Acquires owner reply next)
    (exact_ : Exact owner) (free : owner.self.holds = []) :
    Exact next := by
  have nothingOwned : owner.os.owned = [] := exact_.owned.trans free
  constructor
  · cases reply with
    | none =>
        have empty : next.self.holds = [] :=
          next.self.holds_eq_nil_iff.mpr (Or.inr acquires.handle)
        rw [acquires.os, Winsock.acquire_none, nothingOwned, empty]
    | some handle =>
        have holds : next.self.holds = [handle.value] := by
          rw [Socket.holds, acquires.handle, HandleReply.value_some]
          exact if_neg (not_or.mpr handle.valid)
        rw [acquires.os, Winsock.acquire_some_owned, nothingOwned, holds]
  · rw [acquires.os, Winsock.acquire_stray, exact_.stray]

/-- A handle in the field is lost when the field is written. -/
theorem Acquires.broken
    {owner next : Owner} {reply : HandleReply}
    (acquires : Acquires owner reply next)
    (exact_ : Exact owner) (held : owner.self.holds ≠ []) :
    Broken next := by
  have positive : 0 < owner.os.owned.length := by
    rw [exact_.owned]
    exact List.length_pos_iff.mpr held
  apply Or.inl
  cases reply with
  | none =>
      have empty : next.self.holds = [] :=
        next.self.holds_eq_nil_iff.mpr (Or.inr acquires.handle)
      rw [empty, acquires.os, Winsock.acquire_none]
      exact positive
  | some handle =>
      have bound := next.self.holds_length_le_one
      rw [acquires.os, Winsock.acquire_some_owned, List.length_cons]
      exact Nat.lt_of_le_of_lt bound (Nat.succ_lt_succ positive)

theorem close_holds (owner : Owner) : owner.close.self.holds = [] := by
  apply owner.close.self.holds_eq_nil_iff.mpr
  exact Or.inl rfl

theorem close_exact
    {owner : Owner} (exact_ : Exact owner)
    (held : owner.self.holds ≠ []) :
    Exact owner.close := by
  have holds : owner.self.holds = [owner.self.handle] := by
    rw [Ne, Socket.holds_eq_nil_iff] at held
    rw [Socket.holds, if_neg held]
  have owned : owner.os.owned = [owner.self.handle] :=
    exact_.owned.trans holds
  have member : owner.self.handle ∈ owner.os.owned := by
    rw [owned]
    exact List.mem_singleton_self _
  have closed := Winsock.closesocket_owned member
  constructor
  · rw [close_holds]
    show (owner.os.closesocket owner.self.handle).owned = []
    rw [closed.1, owned, List.erase_cons_head]
  · show (owner.os.closesocket owner.self.handle).stray = []
    rw [closed.2, exact_.stray]

/-- Closing what stands for no handle is a stray call. -/
theorem close_broken_of_free
    {owner : Owner} (free : owner.self.holds = []) :
    Broken owner.close := by
  have none := owner.self.holds_eq_nil_iff.mp free
  apply Or.inr
  show (owner.os.closesocket owner.self.handle).stray ≠ []
  rw [Winsock.closesocket_not_owned (owner.os.not_owned none)]
  exact List.cons_ne_nil _ _

/-- Closing the field does not bring back a handle that was lost. -/
theorem Broken.close {owner : Owner} (broken : Broken owner) :
    Broken owner.close := by
  rcases broken with lost | strayed
  · cases free : owner.self.holds with
    | nil => exact close_broken_of_free free
    | cons h rest =>
        by_cases member : owner.self.handle ∈ owner.os.owned
        · have closed := Winsock.closesocket_owned member
          apply Or.inl
          rw [close_holds]
          show 0 < (owner.os.closesocket owner.self.handle).owned.length
          rw [closed.1, List.length_erase_of_mem member]
          rw [free, List.length_cons] at lost
          omega
        · apply Or.inr
          show (owner.os.closesocket owner.self.handle).stray ≠ []
          rw [Winsock.closesocket_not_owned member]
          exact List.cons_ne_nil _ _
  · exact
      Or.inr (Winsock.closesocket_stray_ne_nil owner.self.handle strayed)

end Owner

end Netycat.Impl
