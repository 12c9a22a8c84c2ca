import Netycat.Impl.Transfer
import Netycat.Lib.Pool
import Netycat.Lib.TransitionSystem

/-!
# Sockets that closures hold on to

Most closures of `Impl::Socket` keep nothing but the callback of the user.  That
of `accept` keeps a reference to the socket it is to fill, and those of
`readAllImpl` and `writeAllImpl` keep a pointer to their own socket, through
which they go on after a chunk.  Nothing keeps these sockets alive, and nothing
keeps them on the handle on which the operation began.

A closure does not touch its socket when it is given an error, and when a handle
is closed the operating system ends what is underway on it with one.  So a
socket may be destroyed in the middle of a transfer; what it may not do is to go
while a chunk that succeeded is waiting for the thread of `run`.  The results
say for whole programs which steps are safe.
-/

namespace Netycat.Network.CapturedSockets

open Netycat.Impl

/-- What a closure keeps beside the callback. -/
inductive Capture (Target : Type*) where
  | nothing
  | target (s : Target) (h : Nat)
  | self (self : Target) (n : UInt64)
deriving DecidableEq, Repr

/-- An overlapped operation on a handle, with what it has come to. -/
structure Underway (Target : Type*) where
  capture : Capture Target
  handle : Nat
  completion : Option (Bool × UInt32) := none
deriving DecidableEq, Repr

inductive Phase where
  | unborn
  | alive
  | destroyed
deriving DecidableEq, Repr

/-- A socket object; handles are numbered in the order they are made in. -/
structure Object where
  phase : Phase := .unborn
  handle : Option Nat := none
deriving DecidableEq, Repr

/-- What a closure must not do: touch a socket that is not there, or go on with
a handle on which its operation did not begin. -/
inductive Harm (Target : Type*) where
  | dead (socket : Target)
  | strayed (socket : Target)
deriving DecidableEq, Repr

structure State (Target : Type*) where
  objects : Target → Object
  handles : Nat
  opened : List Nat
  underway : List (Underway Target)
  harms : List (Harm Target)

/-- The steps of the user, of the operating system, and of the thread of `run`.
A call that the system rejects is one that is not `accepted`. -/
inductive Action (Target : Type*) where
  | construct (socket : Target)
  | open_ (socket : Target)
  | close (socket : Target)
  | destroy (socket : Target)
  | transfer (self : Target) (accepted : Bool)
  | all (self : Target) (n : UInt64) (accepted : Bool)
  | accept (self s : Target) (accepted : Bool)
  | complete (index : Nat) (success : Bool) (byteCount : UInt32)
  | dispatch (index : Nat) (accepted : Bool)
deriving DecidableEq, Repr

variable {Target : Type*}

/-- The most bytes that an operation can transfer, if it transfers any. -/
def Capture.request : Capture Target → Option Nat
  | .self _ n => some (ulongLength n)
  | _ => none

/-- The number of bytes fits into the buffer of the operation. -/
def Capture.admits (capture : Capture Target) (byteCount : UInt32) : Bool :=
  capture.request.all fun request => byteCount.toNat ≤ request

namespace State

/-- The overlapped call reaches the system and is accepted. -/
def submits (state : State Target) (self : Target) (accepted : Bool) :
    Bool :=
  accepted &&
    (state.objects self).handle.any fun handle => handle ∈ state.opened

/-- An overlapped call with a closure that keeps this. -/
def submit (state : State Target) (capture : Capture Target)
    (self : Target) (accepted : Bool) : State Target :=
  match (state.objects self).handle with
  | some handle =>
      if state.submits self accepted then
        { state with
          underway := ⟨capture, handle, none⟩ :: state.underway }
      else state
  | none => state

/-- `::closesocket` on the handle of a socket, if it has one. -/
def openedWithout (state : State Target) (socket : Target) : List Nat :=
  match (state.objects socket).handle with
  | some handle => state.opened.erase handle
  | none => state.opened

variable [DecidableEq Target]

/-- `Socket::close`. -/
def close (state : State Target) (socket : Target) : State Target :=
  { state with
    objects :=
      Function.update state.objects socket
        { state.objects socket with handle := none }
    opened := state.openedWithout socket }

/-- `Socket::~Socket`. -/
def destroy (state : State Target) (socket : Target) : State Target :=
  { state with
    objects :=
      Function.update state.objects socket ⟨.destroyed, none⟩
    opened := state.openedWithout socket }

/-- A handle that is new, from `::socket` or given to `setHandle`. -/
def open_ (state : State Target) (socket : Target) : State Target :=
  { state with
    objects :=
      Function.update state.objects socket
        { state.objects socket with handle := some state.handles }
    handles := state.handles + 1
    opened := state.handles :: state.opened }

/-- `Socket::accept`, the callback form.  The handle that it opens is closed
again when the overlapped call is rejected. -/
def accept (state : State Target) (self s : Target) (accepted : Bool) :
    State Target :=
  if state.submits self accepted then
    { state.submit (.target s state.handles) self accepted with
      handles := state.handles + 1
      opened := state.handles :: state.opened }
  else { state with handles := state.handles + 1 }

/-- `self->readAllImpl` or `self->writeAllImpl` out of a closure. -/
def resume (state : State Target) (self : Target) (n : UInt64)
    (handle : Nat) (accepted : Bool) : State Target :=
  if (state.objects self).phase = .alive then
    let next := state.submit (.self self n) self accepted
    if state.submits self accepted &&
        (state.objects self).handle != some handle then
      { next with harms := state.harms ++ [.strayed self] }
    else next
  else { state with harms := state.harms ++ [.dead self] }

/-- The closure of an operation, called by `run`. -/
def call (state : State Target) (underway : Underway Target)
    (success : Bool) (byteCount : UInt32) (accepted : Bool) :
    State Target :=
  match underway.capture with
  | .nothing => state
  | .target s h =>
      if success then
        if (state.objects s).phase = .alive then
          { state with
            objects :=
              Function.update state.objects s
                { state.objects s with handle := some h } }
        else { state with harms := state.harms ++ [.dead s] }
      else { state with opened := state.opened.erase h }
  | .self self n =>
      if !success || n == byteCount.toUInt64 then state
      else
        state.resume self (n - byteCount.toUInt64) underway.handle accepted

/-- One step.  User code uses a socket only while it is there, and an operation
succeeds only while its handle is open. -/
def step (state : State Target) : Action Target → Option (State Target)
  | .construct socket =>
      if (state.objects socket).phase = .unborn then
        some
          { state with
            objects :=
              Function.update state.objects socket ⟨.alive, none⟩ }
      else none
  | .open_ socket =>
      if (state.objects socket).phase = .alive then
        some (state.open_ socket)
      else none
  | .close socket =>
      if (state.objects socket).phase = .alive then
        some (state.close socket)
      else none
  | .destroy socket =>
      if (state.objects socket).phase = .alive then
        some (state.destroy socket)
      else none
  | .transfer self accepted =>
      if (state.objects self).phase = .alive then
        some (state.submit .nothing self accepted)
      else none
  | .all self n accepted =>
      if (state.objects self).phase = .alive then
        some (state.submit (.self self n) self accepted)
      else none
  | .accept self s accepted =>
      if (state.objects self).phase = .alive ∧
          (state.objects s).phase = .alive then
        some (state.accept self s accepted)
      else none
  | .complete index success byteCount =>
      (Pool.take? state.underway index).bind fun (underway, others) =>
        if underway.completion = none ∧
            (success = true → underway.handle ∈ state.opened) ∧
            underway.capture.admits byteCount = true then
          some
            { state with
              underway :=
                { underway with completion := some (success, byteCount) } ::
                  others }
        else none
  | .dispatch index accepted =>
      (Pool.take? state.underway index).bind fun (underway, others) =>
        underway.completion.map fun (success, byteCount) =>
          ({ state with underway := others } : State Target).call underway
            success byteCount accepted

end State

/-- No socket has been constructed. -/
def program [DecidableEq Target] :
    TransitionSystem (State Target) (Action Target) where
  init := ⟨fun _ => {}, 0, [], [], []⟩
  step := State.step

/-! ## What can still be touched -/

namespace Underway

/-- The closure will use its capture, or may still come to do so. -/
def live (opened : List Nat) (underway : Underway Target) : Bool :=
  match underway.capture, underway.completion with
  | .nothing, _ => false
  | .target _ _, none => underway.handle ∈ opened
  | .target _ _, some (success, _) => success
  | .self _ n, none => underway.handle ∈ opened && n != 0
  | .self _ n, some (success, byteCount) =>
      success && n != byteCount.toUInt64

/-- Closing handles ends nothing that is queued, and revives nothing. -/
theorem live_of_subset {opened others : List Nat}
    {underway : Underway Target}
    (fewer : underway.handle ∈ opened → underway.handle ∈ others)
    (isLive : underway.live opened = true) :
    underway.live others = true := by
  rcases underway with ⟨_ | ⟨s, h⟩ | ⟨self, n⟩, handle, _ | ⟨success, count⟩⟩
  · exact isLive
  · exact isLive
  · simp only [live, decide_eq_true_eq] at isLive ⊢
    exact fewer isLive
  · exact isLive
  · simp only [live, Bool.and_eq_true, decide_eq_true_eq] at isLive ⊢
    exact ⟨fewer isLive.1, isLive.2⟩
  · exact isLive

/-- What can still be touched after a completion could be before it. -/
theorem live_of_completed {opened : List Nat} {success : Bool}
    {byteCount : UInt32}
    (underway : Underway Target)
    (pending : underway.completion = none)
    (isOpen : success = true → underway.handle ∈ opened)
    (admits : underway.capture.admits byteCount = true)
    (isLive :
      ({ underway with completion := some (success, byteCount) } :
        Underway Target).live opened = true) :
    underway.live opened = true := by
  rcases underway with ⟨_ | ⟨s, h⟩ | ⟨self, n⟩, handle, completion⟩
  · exact isLive
  · cases pending
    simp only [live] at isLive ⊢
    exact decide_eq_true (isOpen isLive)
  · cases pending
    simp only [live, Bool.and_eq_true, bne_iff_ne] at isLive ⊢
    refine ⟨decide_eq_true (isOpen isLive.1), ?_⟩
    rintro rfl
    apply isLive.2
    have none_ : byteCount.toNat ≤ 0 := of_decide_eq_true admits
    apply UInt64.toNat_inj.mp
    rw [UInt32.toNat_toUInt64]
    exact (Nat.le_zero.mp none_).symm

end Underway

/-- The socket that a closure may touch. -/
def Capture.touched : Capture Target → Option Target
  | .nothing => none
  | .target s _ => some s
  | .self socket _ => some socket

/-- The handle that a closure is to store. -/
def Capture.stored : Capture Target → Option Nat
  | .target _ h => some h
  | _ => none

/-- Something with this capture is live on this handle. -/
def State.Live (state : State Target) (capture : Capture Target)
    (handle : Nat) : Prop :=
  ∃ underway ∈ state.underway,
    underway.live state.opened = true ∧ underway.capture = capture ∧
      underway.handle = handle

/-- What the handles are like in every state: those that are to be stored are
open, each for one closure, and no socket has them yet. -/
structure Handles (state : State Target) : Prop where
  underway : ∀ underway ∈ state.underway, underway.handle < state.handles
  objects : ∀ socket handle,
    (state.objects socket).handle = some handle → handle < state.handles
  stored : ∀ underway ∈ state.underway, ∀ h,
    underway.capture.stored = some h →
      h < state.handles ∧ h ∈ state.opened ∧
        ∀ socket, (state.objects socket).handle ≠ some h
  apart : (state.underway.filterMap (·.capture.stored)).Nodup

/-! ## Handles -/

theorem mem_openedWithout {state : State Target} {socket : Target} {h : Nat}
    (opened : h ∈ state.opened)
    (apart : (state.objects socket).handle ≠ some h) :
    h ∈ state.openedWithout socket := by
  rw [State.openedWithout]
  split
  case h_1 handle same =>
    refine (List.mem_erase_of_ne ?_).mpr opened
    rintro rfl
    exact apart same
  case h_2 => exact opened

theorem openedWithout_subset {state : State Target} {socket : Target}
    {h : Nat} (opened : h ∈ state.openedWithout socket) :
    h ∈ state.opened := by
  rw [State.openedWithout] at opened
  split at opened
  · exact List.mem_of_mem_erase opened
  · exact opened

/-- The call is rejected and changes nothing, or an operation is underway on the
handle of the socket. -/
theorem submit_cases (state : State Target) (capture : Capture Target)
    (self : Target) (accepted : Bool) :
    (state.submits self accepted = false ∧
        state.submit capture self accepted = state) ∨
      ∃ handle,
        state.submits self accepted = true ∧
          (state.objects self).handle = some handle ∧
          handle ∈ state.opened ∧
          state.submit capture self accepted =
            { state with
              underway := ⟨capture, handle, none⟩ :: state.underway } := by
  cases submits : state.submits self accepted with
  | false =>
      refine .inl ⟨rfl, ?_⟩
      rw [State.submit, submits]
      split <;> rfl
  | true =>
      have reaches := submits
      rw [State.submits, Bool.and_eq_true] at reaches
      cases held : (state.objects self).handle with
      | none =>
          rw [held] at reaches
          cases reaches.2
      | some handle =>
          rw [held] at reaches
          have opened : handle ∈ state.opened := by
            simpa using reaches.2
          refine .inr ⟨handle, rfl, rfl, opened, ?_⟩
          rw [State.submit, held, submits]
          rfl

namespace Handles

variable {state : State Target}

/-- An operation has been started, and a handle that it is to store is free. -/
theorem start (handles : Handles state) {capture : Capture Target}
    {handle : Nat} (inside : handle < state.handles)
    (free : ∀ h, capture.stored = some h →
      h < state.handles ∧ h ∈ state.opened ∧
        (∀ socket, (state.objects socket).handle ≠ some h) ∧
        ∀ underway ∈ state.underway,
          underway.capture.stored ≠ some h) :
    Handles
      { state with
        underway := ⟨capture, handle, none⟩ :: state.underway } where
  underway underway among := by
    rcases List.mem_cons.mp among with rfl | among
    · exact inside
    · exact handles.underway underway among
  objects := handles.objects
  stored underway among h stored := by
    rcases List.mem_cons.mp among with rfl | among
    · rcases free h stored with ⟨bound, opened, unused, _⟩
      exact ⟨bound, opened, unused⟩
    · exact handles.stored underway among h stored
  apart := by
    rw [List.filterMap_cons]
    cases stores : capture.stored with
    | none => exact handles.apart
    | some h =>
        refine List.nodup_cons.mpr ⟨?_, handles.apart⟩
        intro among
        rcases List.mem_filterMap.mp among with ⟨underway, stood, stored⟩
        exact (free h stores).2.2.2 underway stood stored

/-- A handle has been made, and may have been opened. -/
theorem make (handles : Handles state) {opened : List Nat}
    (grows : ∀ h ∈ state.opened, h ∈ opened) :
    Handles
      { state with handles := state.handles + 1, opened := opened } where
  underway underway among :=
    Nat.lt_succ_of_lt (handles.underway underway among)
  objects socket held field :=
    Nat.lt_succ_of_lt (handles.objects socket held field)
  stored underway among h stored := by
    rcases handles.stored underway among h stored with
      ⟨bound, isOpen, free⟩
    exact ⟨Nat.lt_succ_of_lt bound, grows h isOpen, free⟩
  apart := handles.apart

/-- The handle that is made next is neither held nor to be stored. -/
theorem fresh (handles : Handles state) :
    (∀ socket, (state.objects socket).handle ≠ some state.handles) ∧
      ∀ underway ∈ state.underway,
        underway.handle ≠ state.handles ∧
          underway.capture.stored ≠ some state.handles := by
  refine ⟨?_, ?_⟩
  · intro socket held
    exact Nat.lt_irrefl _ (handles.objects socket _ held)
  · intro underway among
    refine ⟨(handles.underway underway among).ne, ?_⟩
    intro stored
    exact Nat.lt_irrefl _ (handles.stored underway among _ stored).1

/-- A handle that one closure is to store is not for another. -/
theorem apart_of_taken (handles : Handles state)
    {underway : Underway Target} {others : List (Underway Target)}
    (taken : state.underway.Perm (underway :: others)) :
    (others.filterMap (·.capture.stored)).Nodup ∧
      ∀ h, underway.capture.stored = some h →
        ∀ other ∈ others, other.capture.stored ≠ some h := by
  have apart := (taken.filterMap (·.capture.stored)).nodup handles.apart
  rw [List.filterMap_cons] at apart
  cases stores : underway.capture.stored with
  | none =>
      simp only [stores] at apart
      refine ⟨apart, ?_⟩
      intro h absent
      cases absent
  | some stored =>
      simp only [stores, List.nodup_cons] at apart
      refine ⟨apart.2, ?_⟩
      intro h same other among stored
      cases same
      exact apart.1 (List.mem_filterMap.mpr ⟨other, among, stored⟩)

/-- An operation has left, whether or not its closure was called. -/
theorem leave (handles : Handles state) {underway : Underway Target}
    {others : List (Underway Target)}
    (taken : state.underway.Perm (underway :: others)) :
    Handles { state with underway := others } where
  underway other among :=
    handles.underway other
      (taken.mem_iff.mpr (List.mem_cons_of_mem _ among))
  objects := handles.objects
  stored other among :=
    handles.stored other
      (taken.mem_iff.mpr (List.mem_cons_of_mem _ among))
  apart := (handles.apart_of_taken taken).1

/-- An operation has been completed. -/
theorem complete (handles : Handles state) {underway : Underway Target}
    {others : List (Underway Target)}
    (taken : state.underway.Perm (underway :: others))
    (completion : Option (Bool × UInt32)) :
    Handles
      { state with
        underway :=
          { underway with completion := completion } :: others } where
  underway other among := by
    rcases List.mem_cons.mp among with rfl | among
    · exact
        handles.underway underway (taken.mem_iff.mpr List.mem_cons_self)
    · exact (handles.leave taken).underway other among
  objects := handles.objects
  stored other among := by
    rcases List.mem_cons.mp among with rfl | among
    · exact handles.stored underway (taken.mem_iff.mpr List.mem_cons_self)
    · exact (handles.leave taken).stored other among
  apart := (taken.filterMap (·.capture.stored)).nodup handles.apart

/-- The handle of an operation that failed has been closed. -/
theorem discard (handles : Handles state) {h : Nat}
    (unstored : ∀ underway ∈ state.underway,
      underway.capture.stored ≠ some h) :
    Handles { state with opened := state.opened.erase h } where
  underway := handles.underway
  objects := handles.objects
  stored underway among h' stored := by
    rcases handles.stored underway among h' stored with
      ⟨bound, opened, free⟩
    refine ⟨bound, (List.mem_erase_of_ne ?_).mpr opened, free⟩
    rintro rfl
    exact unstored underway among stored
  apart := handles.apart

variable [DecidableEq Target]

/-- A socket is left without a handle, and no other handle is closed. -/
theorem vacate (handles : Handles state) (socket : Target) (phase : Phase)
    {opened : List Nat}
    (kept : ∀ h ∈ state.opened, (state.objects socket).handle ≠ some h →
      h ∈ opened) :
    Handles
      { state with
        objects := Function.update state.objects socket ⟨phase, none⟩
        opened := opened } where
  underway := handles.underway
  objects other handle held := by
    by_cases same : other = socket
    · subst same
      simp only [Function.update_self] at held
      cases held
    · simp only [Function.update_of_ne same] at held
      exact handles.objects other handle held
  stored underway among h stored := by
    rcases handles.stored underway among h stored with
      ⟨bound, isOpen, free⟩
    refine ⟨bound, kept h isOpen (free socket), ?_⟩
    intro other held
    by_cases same : other = socket
    · subst same
      simp only [Function.update_self] at held
      cases held
    · simp only [Function.update_of_ne same] at held
      exact free other held
  apart := handles.apart

/-- A free handle has been stored in a socket. -/
theorem store (handles : Handles state) (s : Target) {h : Nat}
    (bound : h < state.handles)
    (unstored : ∀ underway ∈ state.underway,
      underway.capture.stored ≠ some h) :
    Handles
      { state with
        objects :=
          Function.update state.objects s
            { state.objects s with handle := some h } } where
  underway := handles.underway
  objects socket handle held := by
    by_cases same : socket = s
    · subst same
      simp only [Function.update_self] at held
      cases held
      exact bound
    · simp only [Function.update_of_ne same] at held
      exact handles.objects socket handle held
  stored underway among h' stored := by
    rcases handles.stored underway among h' stored with
      ⟨bound, opened, free⟩
    refine ⟨bound, opened, ?_⟩
    intro socket held
    by_cases same : socket = s
    · subst same
      simp only [Function.update_self] at held
      cases held
      exact unstored underway among stored
    · simp only [Function.update_of_ne same] at held
      exact free socket held
  apart := handles.apart

theorem open_ (handles : Handles state) (socket : Target) :
    Handles (state.open_ socket) :=
  (handles.make fun _ => List.mem_cons_of_mem _).store socket
    (Nat.lt_succ_self _) fun underway among =>
      (handles.fresh.2 underway among).2

end Handles

end Netycat.Network.CapturedSockets
