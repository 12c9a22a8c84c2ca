import Netycat.Impl.Owner
import Netycat.Lib.TransitionSystem

/-!
# The cached family, type and protocol of a socket object

`Impl::Socket` keeps the family, type and protocol of its socket next to the
handle.  `socket` sets them, the callback forms of `connect` and `accept` ask
the system for them when all three are zero, and `close` clears them.
`setHandle`, through which both forms of `accept` store the new socket, replaces
the handle and leaves them alone; so does a `socket` that fails.

The system below takes the operations of one object in any order.  Next to the
object its state has what the system knows about the socket in `handle`, if
there is one.  What the object remembers is about that socket exactly in the
runs in which no socket is put in the place of one of another kind that the
object has already been told about.
-/

namespace Netycat.Impl.CachedInfo

open Netycat.Corecat

/-- The three fields together. -/
def cached (self : Socket) : SocketInfo :=
  ⟨self.family, self.type, self.protocol⟩

/-- A socket that the operating system has just made. -/
abbrev Created := OpenHandle × SocketInfo

structure State where
  owner : Owner
  held : Option SocketInfo

/-- What `::getsockopt` reads from the socket in `handle`, if it succeeds. -/
def State.getsockopt (state : State) (success : Bool) : Option SocketInfo :=
  if success then state.held else none

/-- The operations, each with what its calls of the system come to. -/
inductive Action where
  | socket (family_ type_ protocol_ : Int)
      (reply : Option Created) (attached : Bool)
  | close
  | setHandle (handle_ : SOCKET) (behind : Option SocketInfo)
      (attached : Bool)
  | acceptInto (sock : Option Created) (attached : Bool)
  | acceptCompleted (h : Created) (attached : Bool) (e : ExceptionPtr)
  | connectCallback (success bound : Bool)
  | acceptCallback (success : Bool) (reply : HandleReply)
deriving DecidableEq, Repr

def State.withSelf (state : State) (self : Socket) : State :=
  { state with owner := { state.owner with self := self } }

def step (state : State) : Action → Option State
  | .socket family_ type_ protocol_ reply attached =>
      (state.owner.socket family_ type_ protocol_
          (reply.map Prod.fst) attached none).map fun done =>
        ⟨done.1, reply.map Prod.snd⟩
  | .close => some ⟨state.owner.close, none⟩
  | .setHandle handle_ behind attached =>
      (state.owner.self.setHandle handle_ attached).map fun self =>
        { state.withSelf self with held := behind }
  | .acceptInto none attached =>
      (state.owner.acceptInto none attached none).map fun done =>
        { state with owner := done.1 }
  | .acceptInto (some sock) attached =>
      (state.owner.acceptInto (some sock.1) attached none).map fun done =>
        ⟨done.1, some sock.2⟩
  | .acceptCompleted h attached none =>
      (state.owner.acceptCompleted h.1 attached none).map fun owner =>
        ⟨owner, some h.2⟩
  | .acceptCompleted h attached (some e) =>
      (state.owner.acceptCompleted h.1 attached (some e)).map fun owner =>
        { state with owner := owner }
  | .connectCallback success bound =>
      let done : Socket × Started Unit :=
        state.owner.self.connectCallback (state.getsockopt success) bound
      some (state.withSelf done.1)
  | .acceptCallback success reply =>
      let done : Socket × Started Unit :=
        state.owner.self.acceptCallback () (state.getsockopt success) reply
      some (state.withSelf done.1)

/-- A socket object and the operations on it, from the default constructor. -/
def system (executor : Bool) : TransitionSystem State Action where
  init := ⟨⟨{ executor := executor }, Winsock.empty⟩, none⟩
  step := step

/-! ## What the cache is for -/

/-- The cache is empty or tells the truth about the socket in `handle`. -/
def Describes (state : State) : Prop :=
  state.owner.self.unknown = true ∨
    state.held = some (cached state.owner.self)

/-- The arguments with which the callback form of `accept` calls `::socket`,
unless it reports an error before. -/
def socketArguments
    (self : Socket) (info : Option SocketInfo) : Option SocketInfo :=
  match self.ensureSocketInfo info with
  | (_, some _) => none
  | (self, none) => some (cached self)

/-- The `ss_family` with which the callback form of `connect` calls `::bind`,
unless it reports an error before. -/
def boundFamily
    (self : Socket) (info : Option SocketInfo) : Option UInt16 :=
  match self.ensureSocketInfo info with
  | (_, some _) => none
  | (self, none) => some (UInt16.ofInt self.family)

/-- `accept` gets as far as its overlapped call exactly when it has arguments
for `::socket` and the call succeeds. -/
theorem acceptCallback_ok_iff
    (self : Socket) (info : Option SocketInfo) (reply : HandleReply) :
    (∃ closure, (self.acceptCallback () info reply).2 = .ok closure) ↔
      (socketArguments self info).isSome ∧ reply.isSome := by
  rw [Socket.acceptCallback, socketArguments]
  cases self.ensureSocketInfo info with
  | mk next e =>
      cases e with
      | some e => simp
      | none =>
          cases reply with
          | none => simp
          | some h => simp

/-- `connect` gets as far as its overlapped call exactly when it has a family
for `::bind` and the call succeeds. -/
theorem connectCallback_ok_iff
    (self : Socket) (info : Option SocketInfo) (bound : Bool) :
    (∃ closure,
        (self.connectCallback info bound : Socket × Started Unit).2 =
          .ok closure) ↔
      (boundFamily self info).isSome ∧ bound = true := by
  rw [Socket.connectCallback, boundFamily]
  cases self.ensureSocketInfo info with
  | mk next e =>
      cases e with
      | some e => simp
      | none =>
          cases bound with
          | true => simp
          | false => simp

/-- Whatever `::getsockopt` does, the callback forms act for the socket in
`handle`. -/
structure ActsForHeld (state : State) : Prop where
  accept :
    ∀ success arguments,
      socketArguments state.owner.self (state.getsockopt success) =
          some arguments →
        state.held = some arguments
  connect :
    ∀ success family,
      boundFamily state.owner.self (state.getsockopt success) =
          some family →
        ∃ info, state.held = some info ∧
          family = UInt16.ofInt info.iAddressFamily

theorem unknown_iff (self : Socket) :
    self.unknown = true ↔ cached self = ⟨0, 0, 0⟩ := by
  simp [Socket.unknown, cached, and_assoc]

/-- The cache is used as it is, or filled with what the system answers. -/
theorem ensureSocketInfo_cases
    {self next : Socket} {info : Option SocketInfo}
    (done : self.ensureSocketInfo info = (next, none)) :
    (self.unknown = false ∧ next = self) ∨
      (self.unknown = true ∧ info = some (cached next)) := by
  rw [Socket.ensureSocketInfo] at done
  cases unknown : self.unknown with
  | false =>
      rw [unknown] at done
      exact Or.inl ⟨rfl, (Prod.mk.inj done).1.symm⟩
  | true =>
      rw [unknown, if_pos rfl] at done
      cases info with
      | none => cases (Prod.mk.inj done).2
      | some info =>
          obtain rfl := (Prod.mk.inj done).1
          exact Or.inr ⟨rfl, rfl⟩

theorem Describes.held
    {state : State} (describes : Describes state)
    {success : Bool} {next : Socket}
    (done :
      state.owner.self.ensureSocketInfo (state.getsockopt success) =
        (next, none)) :
    state.held = some (cached next) := by
  rcases ensureSocketInfo_cases done with ⟨known, rfl⟩ | ⟨_, answer⟩
  · rcases describes with unknown | same
    · rw [known] at unknown
      cases unknown
    · exact same
  · cases success with
    | false => cases answer
    | true => exact answer

/-- The cache is right exactly when the callback forms act for the socket that
is held. -/
theorem describes_iff_actsForHeld (state : State) :
    Describes state ↔ ActsForHeld state := by
  constructor
  · intro describes
    constructor
    · intro success arguments called
      rw [socketArguments] at called
      split at called
      · cases called
      case h_2 next done =>
        rw [← called]
        exact describes.held done
    · intro success family called
      rw [boundFamily] at called
      split at called
      · cases called
      case h_2 next done =>
        exact ⟨_, describes.held done, (Option.some.inj called).symm⟩
  · intro acts
    cases unknown : state.owner.self.unknown with
    | true => exact Or.inl unknown
    | false =>
        apply Or.inr
        apply acts.accept false
        simp [socketArguments, Socket.ensureSocketInfo, unknown]

/-! ## What one operation does to the cache -/

theorem socket_failed_cached
    {owner next : Owner} {family_ type_ protocol_ : Int}
    {attached : Bool} {e e' : ExceptionPtr}
    (done :
      owner.socket family_ type_ protocol_ none attached e =
        some (next, e')) :
    cached next.self = cached owner.self := by
  cases done
  rfl

theorem socket_succeeded_cached
    {owner next : Owner} {family_ type_ protocol_ : Int}
    {handle : OpenHandle} {attached : Bool} {e e' : ExceptionPtr}
    (done :
      owner.socket family_ type_ protocol_ (some handle) attached e =
        some (next, e')) :
    cached next.self = ⟨family_, type_, protocol_⟩ := by
  simp only [Owner.socket] at done
  split at done
  case isTrue invalid => exact absurd invalid handle.valid.2
  case isFalse =>
    rw [Option.map_eq_some_iff] at done
    rcases done with ⟨self, _, same⟩
    cases same
    rfl

theorem socket_setHandle_cached
    {self next : Socket} {handle_ : SOCKET} {attached : Bool}
    (done : self.setHandle handle_ attached = some next) :
    cached next = cached self := by
  rw [Socket.setHandle_eq_some done]
  rfl

theorem owner_setHandle_cached
    {owner next : Owner} {handle_ : OpenHandle} {attached : Bool}
    (done : owner.setHandle handle_ attached = some next) :
    cached next.self = cached owner.self := by
  rw [Owner.setHandle, Option.map_eq_some_iff] at done
  rcases done with ⟨self, reached, rfl⟩
  exact socket_setHandle_cached reached

/-! ## The condition -/

/-- The object has not been told about its socket, or the new one is of the
same kind as the one it replaces. -/
def Replaces (state : State) (behind : Option SocketInfo) : Prop :=
  state.owner.self.unknown = true ∨ behind = state.held

/--
The socket that an operation puts in `handle` may stand there with the cache as
it is.  For `socket` that means that the system makes what it is asked for.
-/
def Respects (state : State) : Action → Prop
  | .socket family_ type_ protocol_ (some created) _ =>
      (family_ = 0 ∧ type_ = 0 ∧ protocol_ = 0) ∨
        created.2 = ⟨family_, type_, protocol_⟩
  | .socket _ _ _ none _ => state.owner.self.unknown = true
  | .setHandle _ behind _ => Replaces state behind
  | .acceptInto (some sock) _ => Replaces state (some sock.2)
  | .acceptCompleted h _ none => Replaces state (some h.2)
  | .close | .acceptInto none _ | .acceptCompleted _ _ (some _)
  | .connectCallback _ _ | .acceptCallback _ _ => True

/-- The handle is replaced and the cache is left as it is. -/
theorem describes_replaced_iff
    {state next : State} {behind : Option SocketInfo}
    (describes : Describes state)
    (same : cached next.owner.self = cached state.owner.self)
    (held : next.held = behind) :
    Describes next ↔ Replaces state behind := by
  rw [Describes, Replaces, unknown_iff, unknown_iff, same, held]
  rcases describes with unknown | known
  · rw [unknown_iff] at unknown
    simp [unknown]
  · rw [known]

theorem describes_ensured
    {state : State} (describes : Describes state) (success : Bool) :
    Describes
      (state.withSelf
        (state.owner.self.ensureSocketInfo (state.getsockopt success)).1) := by
  cases looked :
      state.owner.self.ensureSocketInfo (state.getsockopt success) with
  | mk next e =>
      cases e with
      | none => exact Or.inr (describes.held looked)
      | some e =>
          rw [Socket.ensureSocketInfo] at looked
          split at looked
          · cases answer : state.getsockopt success with
            | none =>
                rw [answer] at looked
                obtain rfl := (Prod.mk.inj looked).1
                exact describes
            | some info =>
                rw [answer] at looked
                cases (Prod.mk.inj looked).2
          · cases (Prod.mk.inj looked).2

theorem connectCallback_self
    (self : Socket) (info : Option SocketInfo) (bound : Bool) :
    (self.connectCallback info bound : Socket × Started Unit).1 =
      (self.ensureSocketInfo info).1 := by
  rw [Socket.connectCallback]
  split
  case h_1 looked => rw [looked]
  case h_2 looked => rw [looked]; split <;> rfl

theorem acceptCallback_self
    (self : Socket) (info : Option SocketInfo) (h : HandleReply) :
    (self.acceptCallback () info h).1 =
      (self.ensureSocketInfo info).1 := by
  rw [Socket.acceptCallback]
  split
  case h_1 looked => rw [looked]
  case h_2 looked => rw [looked]; cases h <;> rfl

/-- After a step the cache is right exactly when the step meets the condition. -/
theorem describes_step_iff
    {state next : State} {action : Action}
    (describes : Describes state)
    (stepped : step state action = some next) :
    Describes next ↔ Respects state action := by
  cases action with
  | socket family_ type_ protocol_ reply attached =>
      rw [step, Option.map_eq_some_iff] at stepped
      rcases stepped with ⟨done, reached, rfl⟩
      cases reply with
      | none =>
          have same := socket_failed_cached reached
          rw [Describes, unknown_iff, same, Respects, unknown_iff]
          simp
      | some created =>
          have same := socket_succeeded_cached reached
          rw [Describes, unknown_iff, same, Respects]
          simp
  | close =>
      cases stepped
      exact iff_of_true (Or.inl rfl) trivial
  | setHandle handle_ behind attached =>
      rw [step, Option.map_eq_some_iff] at stepped
      rcases stepped with ⟨self, reached, rfl⟩
      exact describes_replaced_iff describes
        (socket_setHandle_cached reached) rfl
  | acceptInto sock attached =>
      cases sock with
      | none =>
          cases stepped
          exact iff_of_true describes trivial
      | some sock =>
          rw [step, Option.map_eq_some_iff] at stepped
          rcases stepped with ⟨done, reached, rfl⟩
          rw [Owner.acceptInto, Option.map_eq_some_iff] at reached
          rcases reached with ⟨owner, stored, rfl⟩
          exact
            describes_replaced_iff describes
              (owner_setHandle_cached stored) rfl
  | acceptCompleted h attached e =>
      rw [step.eq_def] at stepped
      cases e with
      | none =>
          rw [Option.map_eq_some_iff] at stepped
          rcases stepped with ⟨owner, stored, rfl⟩
          exact
            describes_replaced_iff describes
              (owner_setHandle_cached stored) rfl
      | some e =>
          cases stepped
          exact iff_of_true describes trivial
  | connectCallback success bound =>
      cases stepped
      refine iff_of_true ?_ trivial
      rw [connectCallback_self]
      exact describes_ensured describes success
  | acceptCallback success reply =>
      cases stepped
      refine iff_of_true ?_ trivial
      rw [acceptCallback_self]
      exact describes_ensured describes success

/-! ## Runs -/

/--
Along a run the cache always tells the truth, and the callback forms always act
for the socket that is held, exactly when no operation puts a socket in the
place of one of another kind that the object has been told about.
-/
theorem cache_describes_iff
    {executor : Bool} {actions : List Action} {last : State}
    (taken : (system executor).run actions = some last) :
    ((system executor).Throughout Describes actions ↔
        (system executor).Along Respects actions) ∧
      ((system executor).Throughout ActsForHeld actions ↔
        (system executor).Along Respects actions) := by
  have described :
      (system executor).Throughout Describes actions ↔
        (system executor).Along Respects actions := by
    refine
      (system executor).throughout_iff_along ?_ ?_
        (fun state describes => describes) ?_ taken
    · exact Or.inl rfl
    · intro state action next respects describes stepped
      exact (describes_step_iff describes stepped).mpr respects
    · intro state action next violates describes stepped holds
      exact violates ((describes_step_iff describes stepped).mp holds)
  have same :
      (system executor).Throughout ActsForHeld actions ↔
        (system executor).Throughout Describes actions := by
    constructor
    · intro acts
      exact acts.mono _ fun state =>
        (describes_iff_actsForHeld state).mpr
    · intro describes
      exact describes.mono _ fun state =>
        (describes_iff_actsForHeld state).mp
  exact ⟨described, same.trans described⟩

/-- A connected socket that is closed before it becomes the target of an
`accept` of the other family. -/
def reusing : List Action :=
  [.socket 2 1 6 (some (⟨268, by decide⟩, ⟨2, 1, 6⟩)) true,
    .connectCallback true true,
    .close,
    .acceptInto (some (⟨272, by decide⟩, ⟨23, 1, 6⟩)) true,
    .acceptCallback true none]

theorem reusing_cache_describes_iff :
    ∃ last,
      (system false).run reusing = some last ∧
        cached last.owner.self = ⟨23, 1, 6⟩ ∧
        ((system false).Throughout Describes reusing ↔
            (system false).Along Respects reusing) ∧
          ((system false).Throughout ActsForHeld reusing ↔
            (system false).Along Respects reusing) :=
  ⟨_, rfl, rfl, cache_describes_iff rfl⟩

/--
A socket object that was made for IPv6 is given the handle of an IPv4 socket:
`accept` creates the next socket with the old family, and `connect` binds to it.
-/
theorem setHandle_leaves_cache :
    ∃ last,
      (system false).run
          [.socket 23 1 6 (some (⟨260, by decide⟩, ⟨23, 1, 6⟩)) true,
            .setHandle 264 (some ⟨2, 1, 6⟩) true] = some last ∧
        ¬ Describes last ∧
        last.held = some ⟨2, 1, 6⟩ ∧
        socketArguments last.owner.self (last.getsockopt true) =
          some ⟨23, 1, 6⟩ ∧
        boundFamily last.owner.self (last.getsockopt true) = some 23 := by
  refine ⟨_, rfl, ?_, rfl, rfl, rfl⟩
  rintro (unknown | same)
  · exact absurd unknown (by decide)
  · exact absurd same (by decide)

end Netycat.Impl.CachedInfo
