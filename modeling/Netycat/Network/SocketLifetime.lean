import Netycat.Lib.TransitionSystem
import Netycat.Network.Endpoints

/-!
# The life of one socket object

The object is constructed, used in any way and any order, and destroyed.  An
action carries what the operating system answers, and `e` is the user's
`ExceptionPtr`, which keeps its value from one call to the next unless the user
takes a fresh one.  A callback is always the last thing that a function does,
so what a callback does to the object is another action after it.

`handle` says "no handle" in two ways, zero and the value of a failed
`::socket`, and the code tests for neither before it overwrites or closes the
field.  Every acquired handle is closed exactly once precisely along the runs
that never overwrite an open handle, never close an absent one and do not
destroy the object after a failed `::socket`.
-/

namespace Netycat.Network.SocketLifetime

open Netycat.Corecat Netycat.IP Netycat.Impl

/-- What can be done with a living object. -/
inductive Use where
  | freshError
  | socket (family_ type_ protocol_ : Int)
      (reply : HandleReply) (attached : Bool)
  | bind (bound : Bool)
  | connect (connected : Bool)
  | connectCallback (info : Option SocketInfo) (bound : Bool)
  | listen (listening : Bool)
  | acceptInto (sock : HandleReply) (attached : Bool)
  | acceptCompleted (h : OpenHandle) (attached : Bool) (e : ExceptionPtr)
  | setHandle (handle_ : OpenHandle) (attached : Bool)
  | close
  | tcpConnect (address : IPAddress) (port : UInt16)
      (reply : HandleReply) (attached connected : Bool)
  | tcpConnectCallback (address : IPAddress) (port : UInt16)
      (reply : HandleReply) (attached : Bool)
      (info : Option SocketInfo) (bound : Bool)
  | tcpListen (address : IPAddress) (port : UInt16)
      (reply : HandleReply) (attached bound listening : Bool)
  | udpBind (address : IPAddress) (port : UInt16)
      (reply : HandleReply) (attached bound : Bool)
deriving DecidableEq, Repr

inductive Action where
  | construct (executor : Bool)
  | constructFrom (executor : Bool) (handle_ : OpenHandle) (attached : Bool)
  | use (use : Use)
  | destroy
deriving DecidableEq, Repr

inductive Phase where
  | unborn
  | alive
  | destroyed
deriving DecidableEq, Repr

structure State where
  phase : Phase
  owner : Owner
  e : ExceptionPtr

/-- What a use does to the field: it is read, overwritten or closed. -/
inductive Effect where
  | reads
  | overwrites (reply : HandleReply)
  | closes
deriving DecidableEq, Repr

def Use.effect : Use → Effect
  | .freshError => .reads
  | .socket _ _ _ reply _ => .overwrites reply
  | .bind _ => .reads
  | .connect _ => .reads
  | .connectCallback _ _ => .reads
  | .listen _ => .reads
  | .acceptInto none _ => .reads
  | .acceptInto (some sock) _ => .overwrites (some sock)
  | .acceptCompleted _ _ (some _) => .reads
  | .acceptCompleted h _ none => .overwrites (some h)
  | .setHandle handle_ _ => .overwrites (some handle_)
  | .close => .closes
  | .tcpConnect _ _ reply _ _ => .overwrites reply
  | .tcpConnectCallback _ _ reply _ _ _ => .overwrites reply
  | .tcpListen _ _ reply _ _ _ => .overwrites reply
  | .udpBind _ _ reply _ _ => .overwrites reply

/-- The system does not give out a handle that the object still has open. -/
def Effect.fresh (os : Winsock) : Effect → Bool
  | .overwrites (some handle) => handle.value ∉ os.owned
  | _ => true

variable (endian : Endian)

/-- Call the function; `none` when the program ends in it. -/
def perform (owner : Owner) (e : ExceptionPtr) :
    Use → Option (Owner × ExceptionPtr)
  | .freshError => some (owner, none)
  | .socket family_ type_ protocol_ reply attached =>
      owner.socket family_ type_ protocol_ reply attached e
  | .bind bound => some (owner, Socket.bind bound e)
  | .connect connected => some (owner, Socket.connect connected e)
  | .connectCallback info bound =>
      let started : Socket × Started Unit :=
        owner.self.connectCallback info bound
      some ({ owner with self := started.1 }, e)
  | .listen listening => some (owner, Socket.listen listening e)
  | .acceptInto sock attached => owner.acceptInto sock attached e
  | .acceptCompleted h attached error =>
      (owner.acceptCompleted h attached error).map fun owner => (owner, e)
  | .setHandle handle_ attached =>
      (owner.setHandle handle_ attached).map fun owner => (owner, e)
  | .close => some (owner.close, e)
  | .tcpConnect address port reply attached connected =>
      TCPSocket.connect endian owner address port reply attached connected e
  | .tcpConnectCallback address port reply attached info bound =>
      (TCPSocket.connectCallback endian owner address port reply attached
        info bound).map fun result => (result.1, e)
  | .tcpListen address port reply attached bound listening =>
      TCPServer.listen endian owner address port reply attached bound
        listening e
  | .udpBind address port reply attached bound =>
      UDPSocket.bind endian owner address port reply attached bound e

/-- The object that the constructors without a handle make. -/
def constructed (executor : Bool) : Owner where
  self := { executor := executor }
  os := .empty

def step (state : State) : Action → Option State
  | .construct executor =>
      if state.phase = .unborn then
        some { state with phase := .alive, owner := constructed executor }
      else none
  | .constructFrom executor handle_ attached =>
      if state.phase = .unborn then
        ((constructed executor).setHandle handle_ attached).map fun owner =>
          { state with phase := .alive, owner := owner }
      else none
  | .use use =>
      if state.phase = .alive ∧ use.effect.fresh state.owner.os then
        (perform endian state.owner state.e use).map fun result =>
          { state with owner := result.1, e := result.2 }
      else none
  | .destroy =>
      if state.phase = .alive then
        some { state with phase := .destroyed, owner := state.owner.destroy }
      else none

/-- One object, before its construction. -/
def lifetime : TransitionSystem State Action where
  init := ⟨.unborn, constructed false, none⟩
  step := step endian

/--
The acquired handles are those already closed and the one in the field, nothing
else has been closed, and at the end all of them are closed.
-/
structure Accounted (state : State) : Prop where
  ledger :
    state.owner.os.acquired.Perm
      (state.owner.os.closed ++ state.owner.self.holds)
  stray : state.owner.os.stray = []
  destroyed :
    state.phase = .destroyed →
      state.owner.os.acquired.Perm state.owner.os.closed

/-- What the user has to see to before an action. -/
def Careful (state : State) : Action → Prop
  | .construct _ => True
  | .constructFrom _ _ _ => True
  | .use use =>
      match use.effect with
      | .reads => True
      | .overwrites _ => state.owner.self.holds = []
      | .closes => state.owner.self.holds ≠ []
  | .destroy => state.owner.self.handle ≠ INVALID_SOCKET

/-! ## One step -/

theorem step_construct
    {state next : State} {executor : Bool}
    (stepped : step endian state (.construct executor) = some next) :
    next =
      { state with phase := .alive, owner := constructed executor } := by
  simp only [step] at stepped
  split at stepped
  · cases stepped
    rfl
  · cases stepped

theorem step_constructFrom
    {state next : State} {executor attached : Bool} {handle_ : OpenHandle}
    (stepped :
      step endian state (.constructFrom executor handle_ attached) =
        some next) :
    ∃ owner,
      (constructed executor).setHandle handle_ attached = some owner ∧
        next = { state with phase := .alive, owner := owner } := by
  simp only [step] at stepped
  split at stepped
  · rw [Option.map_eq_some_iff] at stepped
    rcases stepped with ⟨owner, stored, rfl⟩
    exact ⟨owner, stored, rfl⟩
  · cases stepped

theorem step_use
    {state next : State} {use : Use}
    (stepped : step endian state (.use use) = some next) :
    state.phase = .alive ∧
      ∃ owner e,
        perform endian state.owner state.e use = some (owner, e) ∧
          next = { state with owner := owner, e := e } := by
  simp only [step] at stepped
  split at stepped
  case isTrue enabled =>
    rw [Option.map_eq_some_iff] at stepped
    rcases stepped with ⟨⟨owner, e⟩, done, rfl⟩
    exact ⟨enabled.1, owner, e, done, rfl⟩
  case isFalse => cases stepped

theorem step_destroy
    {state next : State}
    (stepped : step endian state .destroy = some next) :
    next =
      { state with phase := .destroyed, owner := state.owner.destroy } := by
  simp only [step] at stepped
  split at stepped
  · cases stepped
    rfl
  · cases stepped

/-- The functions do to the field what the table of effects says. -/
theorem perform_effect
    {owner next : Owner} {e e' : ExceptionPtr} {use : Use}
    (done : perform endian owner e use = some (next, e')) :
    match use.effect with
    | .reads =>
        next.self.handle = owner.self.handle ∧ next.os = owner.os
    | .overwrites reply => Settles owner reply next
    | .closes => next = owner.close := by
  cases use with
  | freshError =>
      cases done
      exact ⟨rfl, rfl⟩
  | socket family_ type_ protocol_ reply attached =>
      exact .kept (Owner.socket_acquires done)
  | bind bound =>
      cases done
      exact ⟨rfl, rfl⟩
  | connect connected =>
      cases done
      exact ⟨rfl, rfl⟩
  | connectCallback info bound =>
      cases done
      exact ⟨Socket.connectCallback_handle _ _ _, rfl⟩
  | listen listening =>
      cases done
      exact ⟨rfl, rfl⟩
  | acceptInto sock attached =>
      rcases Owner.acceptInto_cases done with ⟨rfl, rfl⟩ | ⟨given, acquires⟩
      · exact ⟨rfl, rfl⟩
      · cases sock with
        | none => exact absurd rfl given
        | some sock => exact .kept acquires
  | acceptCompleted h attached error =>
      rw [perform, Option.map_eq_some_iff] at done
      rcases done with ⟨middle, completed, same⟩
      cases same
      rcases Owner.acceptCompleted_cases completed with
        ⟨failed, rfl⟩ | ⟨rfl, acquires⟩
      · cases error with
        | none => exact absurd rfl failed
        | some error => exact ⟨rfl, rfl⟩
      · exact .kept acquires
  | setHandle handle_ attached =>
      rw [perform, Option.map_eq_some_iff] at done
      rcases done with ⟨middle, stored, same⟩
      cases same
      exact .kept (Owner.setHandle_acquires stored)
  | close =>
      cases done
      rfl
  | tcpConnect address port reply attached connected =>
      exact openEndpoint_settles endian done
  | tcpConnectCallback address port reply attached info bound =>
      rw [perform, Option.map_eq_some_iff] at done
      rcases done with ⟨⟨middle, started⟩, connected, same⟩
      cases same
      exact TCPSocket.connectCallback_settles endian connected
  | tcpListen address port reply attached bound listening =>
      exact openEndpoint_settles endian done
  | udpBind address port reply attached bound =>
      exact openEndpoint_settles endian done

theorem constructed_exact (executor : Bool) : (constructed executor).Exact :=
  ⟨rfl, rfl⟩

/-- The destructor closes the field unless it is zero. -/
theorem destroy_exact
    {owner : Owner} (exact_ : owner.Exact)
    (careful : owner.self.handle ≠ INVALID_SOCKET) :
    owner.destroy.Exact ∧ owner.destroy.self.holds = [] := by
  rw [Owner.destroy]
  split
  case isTrue nonzero =>
    refine ⟨Owner.close_exact exact_ ?_, owner.close_holds⟩
    rw [Ne, Socket.holds_eq_nil_iff]
    exact not_or.mpr ⟨nonzero, careful⟩
  case isFalse isZero =>
    refine ⟨exact_, owner.self.holds_eq_nil_iff.mpr ?_⟩
    exact Or.inl (not_not.mp isZero)

theorem destroy_broken
    {owner : Owner} (invalid : owner.self.handle = INVALID_SOCKET) :
    owner.destroy.Broken := by
  have nonzero : owner.self.handle ≠ 0 := by
    rw [invalid]
    decide
  rw [Owner.destroy, if_pos nonzero]
  apply Owner.close_broken_of_free
  exact owner.self.holds_eq_nil_iff.mpr (Or.inr invalid)

/-- The account is exact, and nothing is held after the destruction. -/
structure Sound (state : State) : Prop where
  exact : state.owner.Exact
  released : state.phase = .destroyed → state.owner.self.holds = []

theorem Sound.accounted {state : State} (sound : Sound state) :
    Accounted state := by
  have ledger := state.owner.os.balanced
  rw [sound.exact.owned] at ledger
  constructor
  · exact ledger
  · exact sound.exact.stray
  · intro destroyed
    rw [sound.released destroyed, List.append_nil] at ledger
    exact ledger

/-- A broken account cannot be accounted for. -/
theorem Accounted.not_broken {state : State} (accounted : Accounted state) :
    ¬ state.owner.Broken := by
  rintro (lost | strayed)
  · have same :=
      (state.owner.os.balanced.symm.trans accounted.ledger).length_eq
    rw [List.length_append, List.length_append] at same
    omega
  · exact strayed accounted.stray

/-- A careful step keeps the account exact. -/
theorem Sound.step
    {state next : State} {action : Action}
    (careful : Careful state action) (sound : Sound state)
    (stepped : SocketLifetime.step endian state action = some next) :
    Sound next := by
  cases action with
  | construct executor =>
      rw [step_construct endian stepped]
      exact ⟨constructed_exact executor, fun destroyed => by cases destroyed⟩
  | constructFrom executor handle_ attached =>
      rcases step_constructFrom endian stepped with ⟨owner, stored, rfl⟩
      have acquires := Owner.setHandle_acquires stored
      exact
        ⟨acquires.exact (constructed_exact executor) rfl,
          fun destroyed => by cases destroyed⟩
  | use use =>
      rcases step_use endian stepped with ⟨alive, owner, e, done, rfl⟩
      have effect := perform_effect endian done
      constructor
      · show owner.Exact
        cases kind : use.effect with
        | reads =>
            rw [kind] at effect
            exact sound.exact.keep effect.1 effect.2
        | overwrites reply =>
            rw [kind] at effect
            simp only [Careful, kind] at careful
            exact Settles.exact effect sound.exact careful
        | closes =>
            rw [kind] at effect
            simp only [Careful, kind] at careful
            rw [show owner = state.owner.close from effect]
            exact Owner.close_exact sound.exact careful
      · intro destroyed
        rw [alive] at destroyed
        cases destroyed
  | destroy =>
      rw [step_destroy endian stepped]
      have released := destroy_exact sound.exact careful
      exact ⟨released.1, fun _ => released.2⟩

/-- A careless step breaks the account at once. -/
theorem Sound.step_broken
    {state next : State} {action : Action}
    (careless : ¬ Careful state action) (sound : Sound state)
    (stepped : SocketLifetime.step endian state action = some next) :
    next.owner.Broken := by
  cases action with
  | construct executor => exact absurd trivial careless
  | constructFrom executor handle_ attached => exact absurd trivial careless
  | use use =>
      rcases step_use endian stepped with ⟨-, owner, e, done, rfl⟩
      have effect := perform_effect endian done
      show owner.Broken
      cases kind : use.effect with
      | reads =>
          simp only [Careful, kind, not_true_eq_false] at careless
      | overwrites reply =>
          rw [kind] at effect
          simp only [Careful, kind] at careless
          exact Settles.broken effect sound.exact careless
      | closes =>
          rw [kind] at effect
          simp only [Careful, kind, not_not] at careless
          rw [show owner = state.owner.close from effect]
          exact Owner.close_broken_of_free careless
  | destroy =>
      rw [step_destroy endian stepped]
      exact destroy_broken (not_not.mp careless)

/-! ## Whole lives -/

theorem Sound.init : Sound (lifetime endian).init :=
  ⟨⟨rfl, rfl⟩, fun destroyed => by cases destroyed⟩

/--
Throughout a life every acquired handle is closed exactly once or still in the
field, and all are closed at the end, exactly when no step of the life writes
over an open handle, closes an absent one, or destroys the object with the
value of a failed `::socket` in the field.
-/
theorem accounted_iff_careful
    {actions : List Action} {last : State}
    (taken : (lifetime endian).run actions = some last) :
    (lifetime endian).Throughout Accounted actions ↔
      (lifetime endian).Along Careful actions := by
  have kept :
      ∀ state action next,
        Careful state action → Sound state →
          step endian state action = some next → Sound next :=
    fun _ _ _ careful sound stepped => sound.step endian careful stepped
  have detected :
      ∀ state action next,
        ¬ Careful state action → Sound state →
          step endian state action = some next → ¬ Accounted next :=
    fun _ _ _ careless sound stepped accounted =>
      accounted.not_broken (sound.step_broken endian careless stepped)
  exact
    TransitionSystem.throughout_iff_along (lifetime endian)
      (Sound.init endian) kept (fun _ sound => sound.accounted) detected taken

theorem firstHandle_valid :
    (260 : SOCKET) ≠ 0 ∧ (260 : SOCKET) ≠ INVALID_SOCKET := by
  decide

/-- A socket that is opened, closed and opened again before its destruction. -/
def reopening : List Action :=
  [.construct true,
    .use (.socket 2 1 6 (some ⟨260, firstHandle_valid⟩) true),
    .use .close,
    .use (.socket 23 2 17 (some ⟨264, by decide⟩) true),
    .destroy]

theorem reopening_accounted_iff_careful :
    ∃ last,
      (lifetime Endian.swap).run reopening = some last ∧
        last.owner.os.closed = [264, 260] ∧
        ((lifetime Endian.swap).Throughout Accounted reopening ↔
          (lifetime Endian.swap).Along Careful reopening) :=
  ⟨_, rfl, by decide, accounted_iff_careful Endian.swap rfl⟩

/--
When `::socket` fails its error value stays in the field, where the destructor
takes it for a handle.
-/
theorem failedSocket_not_accounted :
    ¬ ∀ actions last,
        (lifetime Endian.swap).run actions = some last →
          (lifetime Endian.swap).Throughout Accounted actions := by
  intro always
  have accounted :=
    (always
      [.construct false, .use (.socket 2 1 6 none true), .destroy] _ rfl).last
      (lifetime Endian.swap) rfl
  cases accounted.stray

end Netycat.Network.SocketLifetime
