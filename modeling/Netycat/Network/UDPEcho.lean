import Netycat.Network.DatagramExchange
import Netycat.Network.Echo

/-!
# The datagram echo example

The client writes its text to the server's endpoint and waits for one datagram;
the server waits for one, prints it, and writes it back to the endpoint that
`readFrom` has reported.  Nobody writes twice.  So nothing but the text is ever
printed, and the client comes to print as long as the datagram that is needed
next has not been lost.
-/

namespace Netycat.Network

open Netycat.Corecat Netycat.IP Netycat.Impl

namespace UDPEcho

inductive Peer where
  | client
  | server
deriving DecidableEq, Repr

/-- Where the client is, with what it has printed. -/
inductive Client where
  | begins
  | waits
  | printed (payload : Payload) (endpoint : UDPEndpoint)
  | failed

/-- Where the server is, with what it has printed. -/
inductive Server where
  | waits
  | got (payload : Payload) (endpoint : UDPEndpoint)
  | replied (payload : Payload) (endpoint : UDPEndpoint)
  | failed

end UDPEcho

structure UDPEcho where
  exchange : Exchange UDPEcho.Peer
  client : UDPEcho.Client
  server : UDPEcho.Server

namespace UDPEcho

inductive Action where
  | send (form : Form) (source : UDPEndpoint) (accepts : Bool)
  | serve (form : Form) (index : Nat)
  | reply (form : Form) (source : UDPEndpoint) (accepts : Bool)
  | receive (form : Form) (index : Nat)
  | lose (index : Nat)
  | duplicate (index : Nat)

/-- `sizeof(buffer)` -/
def bufferSize : UInt64 := 256

theorem bufferSize_fits (form : Form) :
    form.request bufferSize = 256 := by
  rw [Form.request_eq form (by decide)]
  decide

variable (endian : Endian)

/-- What is read into the buffer, unless the call fails. -/
def arrived (form : Form) (datagram : Datagram) :
    Option (Payload × UDPEndpoint) :=
  let result := readFrom endian form bufferSize datagram
  if noError : result.e = none then
    some
      ({ data := result.data
         fits := by
          have room := bufferSize_fits form
          have length :=
            readFrom_length endian form (by rw [room]; decide) noError
          rw [room] at length
          exact length.trans (by decide) },
        result.endpoint)
  else none

/-- The text as a payload. -/
def payload (text : Text) : Payload where
  data := text.data
  fits := by
    have fits := text.fits
    omega

/-- What waits for a socket, and the rest. -/
def takeFor (names : Peer → UDPEndpoint → Bool) (exchange : Exchange Peer)
    (peer : Peer) (index : Nat) : Option (Datagram × List Datagram) :=
  (Pool.take? exchange.network index).filter fun (datagram, _) =>
    datagram.isFor endian names peer

/-- `runClient` and `runServer`, and what the network does. -/
def step (names : Peer → UDPEndpoint → Bool) (listening : UDPEndpoint)
    (text : Text) (state : UDPEcho) : Action → Option UDPEcho
  | .send form source accepts =>
      match state.client with
      | .begins =>
          if names .client source then
            let written := ⟨.client, source, listening, payload text⟩
            some
              { state with
                  exchange := state.exchange.write endian form written accepts
                  client :=
                    if (writeTo endian form (payload text) listening
                        accepts).e.isSome then
                      .failed
                    else .waits }
          else none
      | _ => none
  | .serve form index =>
      match state.server with
      | .waits =>
          (takeFor endian names state.exchange .server index).map
            fun (datagram, others) =>
              { state with
                  exchange :=
                    state.exchange.read endian form .server bufferSize datagram
                      others
                  server :=
                    match arrived endian form datagram with
                    | some (payload, endpoint) => .got payload endpoint
                    | none => .failed }
      | _ => none
  | .reply form source accepts =>
      match state.server with
      | .got payload endpoint =>
          if names .server source then
            let written := ⟨.server, source, endpoint, payload⟩
            some
              { state with
                  exchange := state.exchange.write endian form written accepts
                  server :=
                    if (writeTo endian form payload endpoint
                        accepts).e.isSome then
                      .failed
                    else .replied payload endpoint }
          else none
      | _ => none
  | .receive form index =>
      match state.client with
      | .waits =>
          (takeFor endian names state.exchange .client index).map
            fun (datagram, others) =>
              { state with
                  exchange :=
                    state.exchange.read endian form .client bufferSize datagram
                      others
                  client :=
                    match arrived endian form datagram with
                    | some (payload, endpoint) => .printed payload endpoint
                    | none => .failed }
      | _ => none
  | .lose index =>
      (Pool.take? state.exchange.network index).map fun (_, others) =>
        { state with exchange := { state.exchange with network := others } }
  | .duplicate index =>
      (Pool.take? state.exchange.network index).map fun (datagram, _) =>
        { state with
            exchange :=
              { state.exchange with
                  network := datagram :: state.exchange.network } }

end UDPEcho

/-- The example under every schedule and every behaviour of the network. -/
def udpEcho (endian : Endian) (names : UDPEcho.Peer → UDPEndpoint → Bool)
    (listening : UDPEndpoint) (text : Text) :
    TransitionSystem UDPEcho UDPEcho.Action where
  init := ⟨⟨[], [], []⟩, .begins, .waits⟩
  step := UDPEcho.step endian names listening text

namespace UDPEcho

/-! ## What the sockets do -/

section Calls

variable (endian : Endian)

theorem write_accepted
    (exchange : Exchange Peer)
    (form : Form)
    (written : Written Peer) :
    exchange.write endian form written true =
      { exchange with
          network :=
            written.datagram endian written.payload.data :: exchange.network
          written := written :: exchange.written } := by
  have cases_ := writeTo_cases endian form written.payload written.target true
  simp only [Exchange.write, cases_.1, cases_.2 rfl, Bool.not_true,
    Bool.false_eq_true, if_false]

theorem write_refused
    (exchange : Exchange Peer)
    (form : Form)
    (written : Written Peer) :
    exchange.write endian form written false = exchange := by
  have cases_ := writeTo_cases endian form written.payload written.target false
  simp only [Exchange.write, cases_.1, Bool.not_false, if_true]

theorem read_network
    (exchange : Exchange Peer)
    (form : Form)
    (peer : Peer)
    (datagram : Datagram)
    (others : List Datagram) :
    (exchange.read endian form peer bufferSize datagram others).network =
        others ∧
      (exchange.read endian form peer bufferSize datagram others).written =
        exchange.written := by
  simp only [Exchange.read]
  split
  · exact ⟨rfl, rfl⟩
  · exact ⟨rfl, rfl⟩

theorem takeFor_eq_some
    {names : Peer → UDPEndpoint → Bool}
    {exchange : Exchange Peer}
    {peer : Peer}
    {index : Nat}
    {datagram : Datagram}
    {others : List Datagram}
    (taken : takeFor endian names exchange peer index = some (datagram, others)) :
    exchange.network.Perm (datagram :: others) ∧
      datagram.isFor endian names peer = true := by
  rcases Option.filter_eq_some_iff.mp taken with ⟨found, isFor⟩
  exact ⟨Pool.take?_perm found, isFor⟩

theorem exists_takeFor
    {names : Peer → UDPEndpoint → Bool}
    {exchange : Exchange Peer}
    {peer : Peer}
    {datagram : Datagram}
    (among : datagram ∈ exchange.network)
    (isFor : datagram.isFor endian names peer = true) :
    ∃ index others,
      takeFor endian names exchange peer index = some (datagram, others) := by
  rcases Pool.exists_take?_of_mem among with ⟨index, others, taken⟩
  exact ⟨index, others, Option.filter_eq_some_iff.mpr ⟨taken, isFor⟩⟩

end Calls

/-! ## What is printed -/

def Peer.other : Peer → Peer
  | .client => .server
  | .server => .client

/-- Where the two sockets are: no endpoint belongs to both. -/
structure Placed (names : Peer → UDPEndpoint → Bool)
    (listening : UDPEndpoint) : Prop where
  server : names .server listening = true
  apart :
    ∀ endpoint,
      names .client endpoint = true → names .server endpoint = true → False

section Printing

variable {endian : Endian} {names : Peer → UDPEndpoint → Bool}
variable {listening : UDPEndpoint} {text : Text}

/-- The client writes the text to the server, and the server to the client. -/
def Proper (names : Peer → UDPEndpoint → Bool) (listening : UDPEndpoint)
    (text : Text) (written : Written Peer) : Prop :=
  written.payload.data = text.data ∧
    (written.peer = .client → written.target = listening) ∧
    (written.peer = .server → names .client written.target = true)

/-- The text, from the other side. -/
def Right (names : Peer → UDPEndpoint → Bool) (text : Text) (peer : Peer)
    (payload : Payload) (endpoint : UDPEndpoint) : Prop :=
  payload.data = text.data ∧ names peer.other endpoint = true

structure Sound (endian : Endian) (names : Peer → UDPEndpoint → Bool)
    (listening : UDPEndpoint) (text : Text) (state : UDPEcho) : Prop where
  genuine : state.exchange.Genuine endian names
  written : ∀ written ∈ state.exchange.written, Proper names listening text written
  begins :
    state.client = .begins →
      state.exchange.written = [] ∧ state.server = .waits
  client :
    ∀ payload endpoint,
      state.client = .printed payload endpoint →
        Right names text .client payload endpoint
  got :
    ∀ payload endpoint,
      state.server = .got payload endpoint →
        Right names text .server payload endpoint
  replied :
    ∀ payload endpoint,
      state.server = .replied payload endpoint →
        Right names text .server payload endpoint

/-- What waits for a socket can be read, and is the text from the other
side. -/
theorem Sound.arrives
    {state : UDPEcho}
    (sound : Sound endian names listening text state)
    (placed : Placed names listening)
    (form : Form)
    {peer : Peer}
    {datagram : Datagram}
    (among : datagram ∈ state.exchange.network)
    (isFor : datagram.isFor endian names peer = true) :
    ∃ payload endpoint,
      arrived endian form datagram = some (payload, endpoint) ∧
        Right names text peer payload endpoint := by
  rcases sound.genuine.network datagram among with ⟨written, before, from_⟩
  rcases sound.written written before with ⟨data, toServer, toClient⟩
  have leaves := sound.genuine.leaves written before
  have target := (from_.isFor_iff endian peer).symm.trans isFor
  have room := bufferSize_fits form
  have short := text.fits
  rw [Datagram.From] at from_
  have fits : datagram.data.length ≤ form.request bufferSize := by
    rw [room, from_]
    show written.payload.data.length ≤ 256
    rw [data]
    exact Nat.le_of_lt short
  have read :=
    @readFrom_fits endian form bufferSize datagram written.source.address
      written.source.port (by rw [from_]; exact written.payload.fits)
      (by rw [from_]; rfl) (by rw [from_]; rfl) fits
  have same : datagram.data = text.data := by
    rw [from_]
    exact data
  refine ⟨_, _, dif_pos read.1, read.2.1.trans same, ?_⟩
  rw [read.2.2]
  cases sender : written.peer with
  | client =>
      rw [toServer sender] at target
      rw [sender] at leaves
      cases peer with
      | client => exact (placed.apart listening target placed.server).elim
      | server => exact leaves
  | server =>
      rw [sender] at leaves
      cases peer with
      | client => exact leaves
      | server =>
          exact (placed.apart written.target (toClient sender) target).elim

theorem Sound.fewer
    {state : UDPEcho}
    {network : List Datagram}
    (sound : Sound endian names listening text state)
    (among : ∀ datagram ∈ network, datagram ∈ state.exchange.network) :
    Sound endian names listening text
      { state with exchange := { state.exchange with network := network } } where
  genuine := sound.genuine.fewer endian among
  written := sound.written
  begins := sound.begins
  client := sound.client
  got := sound.got
  replied := sound.replied

/-- Nothing has been written before the client begins. -/
theorem Sound.nothing
    {state : UDPEcho}
    (sound : Sound endian names listening text state)
    (begins : state.client = .begins)
    {datagram : Datagram}
    (among : datagram ∈ state.exchange.network) :
    False := by
  rcases sound.genuine.network datagram among with ⟨written, before, _⟩
  rw [(sound.begins begins).1] at before
  cases before

theorem Sound.send
    {state next : UDPEcho}
    {form : Form}
    {source : UDPEndpoint}
    {accepts : Bool}
    (sound : Sound endian names listening text state)
    (stepped :
      state.step endian names listening text (.send form source accepts) =
        some next) :
    Sound endian names listening text next := by
  rw [step] at stepped
  split at stepped
  · next begins =>
      split at stepped
      · next named =>
          have quiet := sound.begins begins
          have genuine :=
            @Exchange.Genuine.write endian _ _ _ sound.genuine form
              ⟨.client, source, listening, payload text⟩ named accepts
          have cases_ :=
            writeTo_cases endian form (payload text) listening accepts
          rw [Option.some.injEq] at stepped
          subst stepped
          cases accepts with
          | false =>
              rw [write_refused] at genuine ⊢
              simp only [cases_.1, Bool.not_false, if_true]
              exact
                { genuine := genuine
                  written := sound.written
                  begins := fun impossible => by cases impossible
                  client := fun _ _ impossible => by cases impossible
                  got := sound.got
                  replied := sound.replied }
          | true =>
              rw [write_accepted] at genuine ⊢
              simp only [cases_.1, Bool.not_true, Bool.false_eq_true, if_false]
              refine
                { genuine := genuine
                  written := ?_
                  begins := fun impossible => by cases impossible
                  client := fun _ _ impossible => by cases impossible
                  got := sound.got
                  replied := sound.replied }
              intro written inside
              rcases List.mem_cons.mp inside with rfl | old
              · exact ⟨rfl, fun _ => rfl, fun impossible => by cases impossible⟩
              · exact sound.written written old
      · cases stepped
  · cases stepped

theorem Sound.reply
    {state next : UDPEcho}
    {form : Form}
    {source : UDPEndpoint}
    {accepts : Bool}
    (sound : Sound endian names listening text state)
    (stepped :
      state.step endian names listening text (.reply form source accepts) =
        some next) :
    Sound endian names listening text next := by
  rw [step] at stepped
  split at stepped
  · next bytes endpoint got =>
      split at stepped
      · next named =>
          have right := sound.got bytes endpoint got
          have genuine :=
            @Exchange.Genuine.write endian _ _ _ sound.genuine form
              ⟨.server, source, endpoint, bytes⟩ named accepts
          have cases_ := writeTo_cases endian form bytes endpoint accepts
          have begun : state.client ≠ .begins := by
            intro begins
            rw [(sound.begins begins).2] at got
            cases got
          rw [Option.some.injEq] at stepped
          subst stepped
          cases accepts with
          | false =>
              rw [write_refused] at genuine ⊢
              simp only [cases_.1, Bool.not_false, if_true]
              exact
                { genuine := genuine
                  written := sound.written
                  begins := fun begins => absurd begins begun
                  client := sound.client
                  got := fun _ _ impossible => by cases impossible
                  replied := fun _ _ impossible => by cases impossible }
          | true =>
              rw [write_accepted] at genuine ⊢
              simp only [cases_.1, Bool.not_true, Bool.false_eq_true, if_false]
              refine
                { genuine := genuine
                  written := ?_
                  begins := fun begins => absurd begins begun
                  client := sound.client
                  got := fun _ _ impossible => by cases impossible
                  replied := ?_ }
              · intro written inside
                rcases List.mem_cons.mp inside with rfl | old
                · refine ⟨right.1, fun impossible => ?_, fun _ => right.2⟩
                  cases impossible
                · exact sound.written written old
              · intro payload other same
                cases same
                exact right
      · cases stepped
  · cases stepped

/-- What reading does to the network. -/
theorem Sound.reads
    {state : UDPEcho}
    {peer : Peer}
    {datagram : Datagram}
    {others : List Datagram}
    (sound : Sound endian names listening text state)
    (form : Form)
    (network : state.exchange.network.Perm (datagram :: others))
    (isFor : datagram.isFor endian names peer = true) :
    let exchange :=
      state.exchange.read endian form peer bufferSize datagram others
    exchange.Genuine endian names ∧
      ∀ written ∈ exchange.written, Proper names listening text written := by
  have after := read_network endian state.exchange form peer datagram others
  refine ⟨sound.genuine.read endian form bufferSize network isFor, ?_⟩
  intro written inside
  rw [after.2] at inside
  exact sound.written written inside

theorem Sound.serve
    {state next : UDPEcho}
    {form : Form}
    {index : Nat}
    (sound : Sound endian names listening text state)
    (placed : Placed names listening)
    (stepped :
      state.step endian names listening text (.serve form index) = some next) :
    Sound endian names listening text next := by
  rw [step] at stepped
  split at stepped
  · rcases Option.map_eq_some_iff.mp stepped with
      ⟨⟨datagram, others⟩, taken, rfl⟩
    rcases takeFor_eq_some endian taken with ⟨network, isFor⟩
    have among := network.mem_iff.mpr List.mem_cons_self
    have reads := sound.reads form network isFor
    rcases sound.arrives placed form among isFor with
      ⟨bytes, endpoint, isArrived, right⟩
    simp only [isArrived]
    exact
      { genuine := reads.1
        written := reads.2
        begins := fun begins => (sound.nothing begins among).elim
        client := sound.client
        got := fun _ _ same => by cases same; exact right
        replied := fun _ _ impossible => by cases impossible }
  · cases stepped

theorem Sound.receive
    {state next : UDPEcho}
    {form : Form}
    {index : Nat}
    (sound : Sound endian names listening text state)
    (placed : Placed names listening)
    (stepped :
      state.step endian names listening text (.receive form index) =
        some next) :
    Sound endian names listening text next := by
  rw [step] at stepped
  split at stepped
  · rcases Option.map_eq_some_iff.mp stepped with
      ⟨⟨datagram, others⟩, taken, rfl⟩
    rcases takeFor_eq_some endian taken with ⟨network, isFor⟩
    have among := network.mem_iff.mpr List.mem_cons_self
    have reads := sound.reads form network isFor
    rcases sound.arrives placed form among isFor with
      ⟨bytes, endpoint, isArrived, right⟩
    simp only [isArrived]
    exact
      { genuine := reads.1
        written := reads.2
        begins := fun impossible => by cases impossible
        client := fun _ _ same => by cases same; exact right
        got := sound.got
        replied := sound.replied }
  · cases stepped

theorem Sound.step
    {state next : UDPEcho}
    {action : Action}
    (sound : Sound endian names listening text state)
    (placed : Placed names listening)
    (stepped : state.step endian names listening text action = some next) :
    Sound endian names listening text next := by
  cases action with
  | send form source accepts => exact sound.send stepped
  | serve form index => exact sound.serve placed stepped
  | reply form source accepts => exact sound.reply stepped
  | receive form index => exact sound.receive placed stepped
  | lose index =>
      rcases Option.map_eq_some_iff.mp stepped with
        ⟨⟨datagram, others⟩, taken, rfl⟩
      exact
        sound.fewer fun other inside =>
          (Pool.take?_perm taken).mem_iff.mpr (List.mem_cons_of_mem _ inside)
  | duplicate index =>
      rcases Option.map_eq_some_iff.mp stepped with
        ⟨⟨datagram, others⟩, taken, rfl⟩
      refine sound.fewer fun other inside => ?_
      rcases List.mem_cons.mp inside with rfl | old
      · exact (Pool.take?_perm taken).mem_iff.mpr List.mem_cons_self
      · exact old

theorem reachable_sound
    {state : UDPEcho}
    (placed : Placed names listening)
    (reachable : (udpEcho endian names listening text).Reachable state) :
    Sound endian names listening text state := by
  apply TransitionSystem.Reachable.induction _ _ _ reachable
  · exact
      { genuine :=
          { leaves := fun _ inside => by cases inside
            network := fun _ inside => by cases inside
            received := fun _ inside => by cases inside }
        written := fun _ inside => by cases inside
        begins := fun _ => ⟨rfl, rfl⟩
        client := fun _ _ impossible => by cases impossible
        got := fun _ _ impossible => by cases impossible
        replied := fun _ _ impossible => by cases impossible }
  · intro before action after _ sound stepped
    exact sound.step placed stepped

/-! ## Whether the client still comes to print -/

/-- The client has failed, or waits while neither the network nor the server has
anything for it. -/
def Hopeless (endian : Endian) (names : Peer → UDPEndpoint → Bool)
    (state : UDPEcho) : Prop :=
  state.client = .failed ∨
    state.client = .waits ∧
      (∀ datagram ∈ state.exchange.network,
        datagram.isFor endian names .client = false) ∧
      (∀ payload endpoint, state.server ≠ .got payload endpoint) ∧
      (state.server = .waits →
        ∀ datagram ∈ state.exchange.network,
          datagram.isFor endian names .server = false)

theorem Hopeless.fewer
    {state : UDPEcho}
    {network : List Datagram}
    (hopeless : Hopeless endian names state)
    (among : ∀ datagram ∈ network, datagram ∈ state.exchange.network) :
    Hopeless endian names
      { state with exchange := { state.exchange with network := network } } := by
  rcases hopeless with failed | ⟨waits, forClient, notGot, forServer⟩
  · exact Or.inl failed
  · refine Or.inr ⟨waits, ?_, notGot, ?_⟩
    · exact fun datagram inside => forClient datagram (among datagram inside)
    · exact fun idle datagram inside =>
        forServer idle datagram (among datagram inside)

theorem Hopeless.step
    {state next : UDPEcho}
    {action : Action}
    (hopeless : Hopeless endian names state)
    (stepped : state.step endian names listening text action = some next) :
    Hopeless endian names next := by
  cases action with
  | send form source accepts =>
      rw [UDPEcho.step] at stepped
      split at stepped
      · next begins =>
          rcases hopeless with failed | ⟨waits, _⟩
          · rw [begins] at failed
            cases failed
          · rw [begins] at waits
            cases waits
      · cases stepped
  | serve form index =>
      rw [UDPEcho.step] at stepped
      split at stepped
      · next idle =>
          rcases Option.map_eq_some_iff.mp stepped with
            ⟨⟨datagram, others⟩, taken, rfl⟩
          rcases takeFor_eq_some endian taken with ⟨network, isFor⟩
          rcases hopeless with failed | ⟨waits, forClient, notGot, forServer⟩
          · exact Or.inl failed
          · have never :=
              forServer idle datagram (network.mem_iff.mpr List.mem_cons_self)
            rw [isFor] at never
            cases never
      · cases stepped
  | reply form source accepts =>
      rw [UDPEcho.step] at stepped
      split at stepped
      · next bytes endpoint got =>
          split at stepped
          · rw [Option.some.injEq] at stepped
            subst stepped
            rcases hopeless with failed | ⟨waits, forClient, notGot, _⟩
            · exact Or.inl failed
            · exact absurd got (notGot bytes endpoint)
          · cases stepped
      · cases stepped
  | receive form index =>
      rw [UDPEcho.step] at stepped
      split at stepped
      · next waiting =>
          rcases Option.map_eq_some_iff.mp stepped with
            ⟨⟨datagram, others⟩, taken, rfl⟩
          rcases takeFor_eq_some endian taken with ⟨network, isFor⟩
          rcases hopeless with failed | ⟨waits, forClient, _⟩
          · rw [waiting] at failed
            cases failed
          · have never :=
              forClient datagram (network.mem_iff.mpr List.mem_cons_self)
            rw [isFor] at never
            cases never
      · cases stepped
  | lose index =>
      rcases Option.map_eq_some_iff.mp stepped with
        ⟨⟨datagram, others⟩, taken, rfl⟩
      exact
        hopeless.fewer fun other inside =>
          (Pool.take?_perm taken).mem_iff.mpr (List.mem_cons_of_mem _ inside)
  | duplicate index =>
      rcases Option.map_eq_some_iff.mp stepped with
        ⟨⟨datagram, others⟩, taken, rfl⟩
      refine hopeless.fewer fun other inside => ?_
      rcases List.mem_cons.mp inside with rfl | old
      · exact (Pool.take?_perm taken).mem_iff.mpr List.mem_cons_self
      · exact old

/-- The client has printed the text, or comes to do so. -/
def Prints (endian : Endian) (names : Peer → UDPEndpoint → Bool)
    (listening : UDPEndpoint) (text : Text) (state : UDPEcho) : Prop :=
  ∃ last payload endpoint,
    (udpEcho endian names listening text).Leads state last ∧
      last.client = .printed payload endpoint

theorem Prints.after
    {state next : UDPEcho}
    {action : Action}
    (prints : Prints endian names listening text next)
    (stepped : state.step endian names listening text action = some next) :
    Prints endian names listening text state := by
  rcases prints with ⟨last, bytes, endpoint, leads, printed⟩
  have first :=
    TransitionSystem.Leads.step (udpEcho endian names listening text) stepped
  exact ⟨last, bytes, endpoint, first.trans _ leads, printed⟩

/-- With a datagram for it, the client prints. -/
theorem Sound.prints_of_datagram
    {state : UDPEcho}
    {datagram : Datagram}
    (sound : Sound endian names listening text state)
    (placed : Placed names listening)
    (waits : state.client = .waits)
    (among : datagram ∈ state.exchange.network)
    (isFor : datagram.isFor endian names .client = true) :
    Prints endian names listening text state := by
  rcases exists_takeFor endian among isFor with ⟨index, others, taken⟩
  rcases sound.arrives placed .exceptionPtr among isFor with
    ⟨bytes, endpoint, isArrived, _⟩
  have stepped :
      state.step endian names listening text (.receive .exceptionPtr index) =
        some
          { state with
              exchange :=
                state.exchange.read endian .exceptionPtr .client bufferSize
                  datagram others
              client := .printed bytes endpoint } := by
    simp only [UDPEcho.step, waits, taken, Option.map_some, isArrived]
  exact Prints.after ⟨_, bytes, endpoint, .refl _ _, rfl⟩ stepped

/-- With the text at the server, the client prints. -/
theorem Sound.prints_of_got
    {state : UDPEcho}
    {bytes : Payload}
    {endpoint : UDPEndpoint}
    (sound : Sound endian names listening text state)
    (placed : Placed names listening)
    (waits : state.client = .waits)
    (got : state.server = .got bytes endpoint) :
    Prints endian names listening text state := by
  let written : Written Peer := ⟨.server, listening, endpoint, bytes⟩
  have cases_ := writeTo_cases endian .exceptionPtr bytes endpoint true
  let next : UDPEcho :=
    { state with
        exchange := state.exchange.write endian .exceptionPtr written true
        server := .replied bytes endpoint }
  have stepped :
      state.step endian names listening text
          (.reply .exceptionPtr listening true) =
        some next := by
    simp only [UDPEcho.step, got, placed.server, if_true, cases_.1,
      Bool.not_true, Bool.false_eq_true, if_false]
    rfl
  have network :
      written.datagram endian bytes.data ∈ next.exchange.network := by
    simp only [next, write_accepted]
    exact List.mem_cons_self
  have from_ : (written.datagram endian bytes.data).From endian written := rfl
  have isFor :=
    (@Datagram.From.isFor_iff endian _ names _ _ from_ .client).trans
      (sound.got bytes endpoint got).2
  exact
    ((sound.step placed stepped).prints_of_datagram placed waits network
      isFor).after stepped

/-- With a datagram for the server that waits, the client prints. -/
theorem Sound.prints_of_waiting
    {state : UDPEcho}
    {datagram : Datagram}
    (sound : Sound endian names listening text state)
    (placed : Placed names listening)
    (waits : state.client = .waits)
    (idle : state.server = .waits)
    (among : datagram ∈ state.exchange.network)
    (isFor : datagram.isFor endian names .server = true) :
    Prints endian names listening text state := by
  rcases exists_takeFor endian among isFor with ⟨index, others, taken⟩
  rcases sound.arrives placed .exceptionPtr among isFor with
    ⟨bytes, endpoint, isArrived, _⟩
  let next : UDPEcho :=
    { state with
        exchange :=
          state.exchange.read endian .exceptionPtr .server bufferSize datagram
            others
        server := .got bytes endpoint }
  have stepped :
      state.step endian names listening text (.serve .exceptionPtr index) =
        some next := by
    simp only [UDPEcho.step, idle, taken, Option.map_some, isArrived]
    rfl
  exact
    ((sound.step placed stepped).prints_of_got placed waits rfl).after stepped

/-- A client that begins sends its text. -/
theorem Sound.prints_of_begins
    {state : UDPEcho}
    {source : UDPEndpoint}
    (sound : Sound endian names listening text state)
    (placed : Placed names listening)
    (bound : names .client source = true)
    (begins : state.client = .begins) :
    Prints endian names listening text state := by
  let written : Written Peer := ⟨.client, source, listening, payload text⟩
  have cases_ :=
    writeTo_cases endian .exceptionPtr (payload text) listening true
  let next : UDPEcho :=
    { state with
        exchange := state.exchange.write endian .exceptionPtr written true
        client := .waits }
  have stepped :
      state.step endian names listening text
          (.send .exceptionPtr source true) =
        some next := by
    simp only [UDPEcho.step, begins, bound, if_true, cases_.1,
      Bool.not_true, Bool.false_eq_true, if_false]
    rfl
  have network :
      written.datagram endian (payload text).data ∈ next.exchange.network := by
    simp only [next, write_accepted]
    exact List.mem_cons_self
  have from_ :
      (written.datagram endian (payload text).data).From endian written := rfl
  have isFor :=
    (@Datagram.From.isFor_iff endian _ names _ _ from_ .server).trans
      placed.server
  exact
    ((sound.step placed stepped).prints_of_waiting placed rfl
      (sound.begins begins).2 network isFor).after stepped

theorem Sound.prints_iff
    {state : UDPEcho}
    {source : UDPEndpoint}
    (sound : Sound endian names listening text state)
    (placed : Placed names listening)
    (bound : names .client source = true) :
    Prints endian names listening text state ↔
      ¬ Hopeless endian names state := by
  constructor
  · rintro ⟨last, bytes, endpoint, ⟨actions, taken⟩, printed⟩ hopeless
    have still :=
      TransitionSystem.runFrom_keeps (udpEcho endian names listening text)
        (fun _ _ _ holds stepped => holds.step stepped) hopeless taken
    rcases still with failed | ⟨waits, _⟩
    · rw [printed] at failed
      cases failed
    · rw [printed] at waits
      cases waits
  · intro hope
    cases client : state.client with
    | begins => exact sound.prints_of_begins placed bound client
    | printed bytes endpoint =>
        exact ⟨state, bytes, endpoint, .refl _ _, client⟩
    | failed => exact absurd (Or.inl client) hope
    | waits =>
        by_contra never
        apply hope
        refine Or.inr ⟨client, ?_, ?_, ?_⟩
        · intro datagram among
          rw [Bool.eq_false_iff]
          intro isFor
          exact never (sound.prints_of_datagram placed client among isFor)
        · intro bytes endpoint got
          exact never (sound.prints_of_got placed client got)
        · intro idle datagram among
          rw [Bool.eq_false_iff]
          intro isFor
          exact never (sound.prints_of_waiting placed client idle among isFor)

end Printing

end UDPEcho

open UDPEcho

/-- In every run of the example, in which the network loses, repeats and reorders
the datagrams of the two programs but brings none of anybody else, all that is
printed is the text, and the endpoint that is reported belongs to the other
side.  The client can still come to print exactly unless its own call has
failed, or it waits while no datagram is on its way to it, the server holds
none, and none is on its way to a waiting server. -/
theorem udpEcho_prints
    {endian : Endian}
    {names : Peer → UDPEndpoint → Bool}
    {listening source : UDPEndpoint}
    {text : Text}
    {state : UDPEcho}
    (placed : Placed names listening)
    (bound : names .client source = true)
    (reachable : (udpEcho endian names listening text).Reachable state) :
    (∀ payload endpoint,
        state.client = .printed payload endpoint →
          payload.data = text.data ∧ names .server endpoint = true) ∧
      (∀ payload endpoint,
        (state.server = .got payload endpoint ∨
            state.server = .replied payload endpoint) →
          payload.data = text.data ∧ names .client endpoint = true) ∧
      ((∃ last payload endpoint,
          (udpEcho endian names listening text).Leads state last ∧
            last.client = .printed payload endpoint) ↔
        ¬ Hopeless endian names state) := by
  have sound := reachable_sound placed reachable
  refine ⟨sound.client, ?_, sound.prints_iff placed bound⟩
  rintro payload endpoint (got | replied)
  · exact sound.got payload endpoint got
  · exact sound.replied payload endpoint replied

/-- Each socket answers to its port. -/
def twoSockets (peer : UDPEcho.Peer) (endpoint : UDPEndpoint) : Bool :=
  endpoint.port = match peer with | .client => 54321 | .server => 12345

/-- The datagram of the client has been repeated, and the server has taken one of
the two. -/
theorem udpEcho_prints_greeting :
    ∃ state last payload endpoint,
      (udpEcho .swap twoSockets ⟨.IPv4 (.ofUInt32 0x7F000001), 12345⟩
            greeting).run
          [.send .exceptionPtr ⟨.IPv4 (.ofUInt32 0x7F000001), 54321⟩ true,
            .duplicate 0, .serve .callback 1] =
          some state ∧
        (udpEcho .swap twoSockets ⟨.IPv4 (.ofUInt32 0x7F000001), 12345⟩
            greeting).Leads state last ∧
        last.client = .printed payload endpoint := by
  have placed :
      Placed twoSockets ⟨.IPv4 (.ofUInt32 0x7F000001), 12345⟩ := by
    refine ⟨rfl, fun endpoint client server => ?_⟩
    have first := of_decide_eq_true client
    have second := of_decide_eq_true server
    rw [first] at second
    exact absurd second (by decide)
  have bound :
      twoSockets .client ⟨.IPv4 (.ofUInt32 0x7F000001), 54321⟩ = true := rfl
  let run :=
    (udpEcho .swap twoSockets ⟨.IPv4 (.ofUInt32 0x7F000001), 12345⟩
        greeting).run
      [.send .exceptionPtr ⟨.IPv4 (.ofUInt32 0x7F000001), 54321⟩ true,
        .duplicate 0, .serve .callback 1]
  have isSome : run.isSome := by decide +kernel
  have reached : run = some (run.get isSome) := (Option.some_get isSome).symm
  have waits : (run.get isSome).client = .waits := rfl
  have got :
      ∃ payload endpoint, (run.get isSome).server = .got payload endpoint :=
    ⟨_, _, rfl⟩
  have hopeful :
      ¬ Hopeless .swap twoSockets (run.get isSome) := by
    rintro (failed | ⟨_, _, notGot, _⟩)
    · cases waits.symm.trans failed
    · rcases got with ⟨payload, endpoint, isGot⟩
      exact notGot payload endpoint isGot
  rcases (udpEcho_prints placed bound ⟨_, reached⟩).2.2.mpr hopeful with
    ⟨last, payload, endpoint, leads, printed⟩
  exact ⟨_, last, payload, endpoint, reached, leads, printed⟩

end Netycat.Network
