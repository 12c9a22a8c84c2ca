import Netycat.Network.CapturedSockets

/-!
# Which steps keep captured sockets safe

A run is safe at a point when no way of ending what is underway there, without
a further step of the user, makes a closure touch a socket that is gone or go
on with a foreign handle.  `Careful` says for each step what the user has to see
to; the invariant `Sound` of careful steps is what safety comes down to, and a
step that is not careful is followed by a way of ending that does harm.
-/

namespace Netycat.Network.CapturedSockets

open Netycat.Impl

variable {Target : Type*}

/-- No closure will do harm: the sockets that can be touched are there, those
that go on are still on their handles or on none, and they get no other. -/
structure Sound (state : State Target) : Prop where
  handles : Handles state
  harmless : state.harms = []
  alive : ∀ capture handle socket,
    state.Live capture handle → capture.touched = some socket →
      (state.objects socket).phase = .alive
  together : ∀ socket n handle,
    state.Live (.self socket n) handle →
      (state.objects socket).handle = none ∨
        (state.objects socket).handle = some handle
  exclusive : ∀ socket n h handle other,
    state.Live (.self socket n) handle →
      ¬ state.Live (.target socket h) other

/-- What the user has to see to before a step. -/
def Careful (state : State Target) : Action Target → Prop
  | .open_ socket =>
      ∀ n handle, ¬ state.Live (.self socket n) handle
  | .destroy socket =>
      ∀ capture handle,
        ({ state with opened := state.openedWithout socket } :
            State Target).Live capture handle →
          capture.touched ≠ some socket
  | .all self n accepted =>
      state.submits self accepted = true → n ≠ 0 →
        ∀ h handle, ¬ state.Live (.target self h) handle
  | .accept self s accepted =>
      state.submits self accepted = true →
        ∀ n handle, ¬ state.Live (.self s n) handle
  | _ => True

/-! ## What is live after a step -/

section Live

variable {state : State Target} {capture : Capture Target} {handle : Nat}

/-- A step that starts no operation and opens no handle of one. -/
theorem live_of_fewer {next : State Target}
    (isLive : next.Live capture handle)
    (fewer : ∀ underway ∈ next.underway, underway ∈ state.underway)
    (opened : ∀ underway ∈ next.underway,
      underway.handle ∈ next.opened → underway.handle ∈ state.opened) :
    state.Live capture handle := by
  rcases isLive with ⟨underway, among, isLive, same⟩
  exact
    ⟨underway, fewer underway among,
      Underway.live_of_subset (opened underway among) isLive, same⟩

/-- A handle that is new is not one of an operation that is underway. -/
theorem live_of_made (handles : Handles state)
    (isLive :
      ({ state with
        handles := state.handles + 1
        opened := state.handles :: state.opened } : State Target).Live
          capture handle) :
    state.Live capture handle := by
  refine live_of_fewer isLive (fun _ among => among) ?_
  intro underway among opened
  rcases List.mem_cons.mp opened with same | opened
  · exact absurd same (handles.fresh.2 underway among).1
  · exact opened

/-- What is live is what was started, or was live before. -/
theorem live_of_started {started : Capture Target} {at_ : Nat}
    (isLive :
      ({ state with
        underway := ⟨started, at_, none⟩ :: state.underway } :
          State Target).Live capture handle) :
    (Underway.live state.opened ⟨started, at_, none⟩ = true ∧
        started = capture ∧ at_ = handle) ∨
      state.Live capture handle := by
  rcases isLive with ⟨underway, among, isLive, same⟩
  rcases List.mem_cons.mp among with rfl | among
  · exact .inl ⟨isLive, same⟩
  · exact .inr ⟨underway, among, isLive, same⟩

end Live

/-! ## Careful steps -/

namespace Sound

variable {state next : State Target}

/-- A step that gives no socket another handle and starts nothing. -/
theorem keep (sound : Sound state) (handles : Handles next)
    (harms : next.harms = state.harms)
    (fewer : ∀ capture handle,
      next.Live capture handle → state.Live capture handle)
    (phases : ∀ capture handle socket,
      next.Live capture handle → capture.touched = some socket →
        (state.objects socket).phase = .alive →
          (next.objects socket).phase = .alive)
    (fields : ∀ socket,
      (next.objects socket).handle = none ∨
        (next.objects socket).handle = (state.objects socket).handle) :
    Sound next where
  handles := handles
  harmless := harms.trans sound.harmless
  alive capture handle socket live touches :=
    phases capture handle socket live touches
      (sound.alive capture handle socket (fewer capture handle live)
        touches)
  together socket n handle live := by
    rcases fields socket with closed | same
    · exact .inl closed
    · rw [same]
      exact sound.together socket n handle (fewer _ handle live)
  exclusive socket n h handle other live target :=
    sound.exclusive socket n h handle other (fewer _ handle live)
      (fewer _ other target)

/-- A handle has been made that no socket has. -/
theorem make (sound : Sound state) {opened : List Nat}
    (made : opened = state.opened ∨
      opened = state.handles :: state.opened) :
    Sound { state with handles := state.handles + 1, opened := opened } := by
  refine sound.keep (sound.handles.make ?_) rfl ?_ (fun _ _ _ _ _ => id)
    (fun _ => .inr rfl)
  · intro h isOpen
    rcases made with rfl | rfl
    · exact isOpen
    · exact List.mem_cons_of_mem _ isOpen
  · intro capture handle isLive
    rcases made with rfl | rfl
    · exact isLive
    · exact live_of_made sound.handles isLive

/-- An operation has been started whose closure can be called safely. -/
theorem start (sound : Sound state) {capture : Capture Target}
    {handle : Nat}
    (handles : Handles
      { state with
        underway := ⟨capture, handle, none⟩ :: state.underway })
    (alive : ∀ socket, capture.touched = some socket →
      (state.objects socket).phase = .alive)
    (together : ∀ socket n, capture = .self socket n →
      (state.objects socket).handle = some handle)
    (apart : Underway.live state.opened ⟨capture, handle, none⟩ = true →
      ∀ socket,
        (∀ n, capture = .self socket n →
          ∀ h other, ¬ state.Live (.target socket h) other) ∧
        ∀ h, capture = .target socket h →
          ∀ n other, ¬ state.Live (.self socket n) other) :
    Sound
      { state with
        underway := ⟨capture, handle, none⟩ :: state.underway } where
  handles := handles
  harmless := sound.harmless
  alive touching other socket isLive touches := by
    rcases live_of_started isLive with ⟨_, rfl, _⟩ | before
    · exact alive socket touches
    · exact sound.alive touching other socket before touches
  together socket n other isLive := by
    rcases live_of_started isLive with ⟨_, same, rfl⟩ | before
    · exact .inr (together socket n same)
    · exact sound.together socket n other before
  exclusive socket n h first second selfLive targetLive := by
    rcases live_of_started selfLive with ⟨isLive, same, _⟩ | selfBefore
    · rcases live_of_started targetLive with ⟨_, other, _⟩ | before
      · rw [same] at other
        cases other
      · exact (apart isLive socket).1 n same h second before
    · rcases live_of_started targetLive with ⟨isLive, same, _⟩ | before
      · exact (apart isLive socket).2 h same n first selfBefore
      · exact sound.exclusive socket n h first second selfBefore before

/-- An operation has left. -/
theorem leave (sound : Sound state) {underway : Underway Target}
    {others : List (Underway Target)}
    (taken : state.underway.Perm (underway :: others)) :
    Sound { state with underway := others } := by
  refine sound.keep (sound.handles.leave taken) rfl ?_
    (fun _ _ _ _ _ => id) (fun _ => .inr rfl)
  intro capture handle isLive
  refine live_of_fewer isLive ?_ (fun _ _ => id)
  intro other among
  exact taken.mem_iff.mpr (List.mem_cons_of_mem _ among)

/-- The handle of an operation that failed has been closed. -/
theorem discard (sound : Sound state) {h : Nat}
    (unstored : ∀ underway ∈ state.underway,
      underway.capture.stored ≠ some h) :
    Sound { state with opened := state.opened.erase h } := by
  refine sound.keep (sound.handles.discard unstored) rfl ?_
    (fun _ _ _ _ _ => id) (fun _ => .inr rfl)
  intro capture handle isLive
  exact
    live_of_fewer isLive (fun _ => id) fun _ _ => List.mem_of_mem_erase

/-- An operation has been completed, successfully only on an open handle. -/
theorem complete (sound : Sound state) {underway : Underway Target}
    {others : List (Underway Target)} {success : Bool} {byteCount : UInt32}
    (taken : state.underway.Perm (underway :: others))
    (pending : underway.completion = none)
    (opened : success = true → underway.handle ∈ state.opened)
    (admits : underway.capture.admits byteCount = true) :
    Sound
      { state with
        underway :=
          { underway with completion := some (success, byteCount) } ::
            others } := by
  refine sound.keep (sound.handles.complete taken _) rfl ?_
    (fun _ _ _ _ _ => id) (fun _ => .inr rfl)
  rintro capture handle ⟨other, among, isLive, same⟩
  rcases List.mem_cons.mp among with rfl | among
  · refine ⟨underway, taken.mem_iff.mpr List.mem_cons_self, ?_, same⟩
    exact underway.live_of_completed pending opened admits isLive
  · have before : other ∈ state.underway :=
      taken.mem_iff.mpr (List.mem_cons_of_mem _ among)
    exact ⟨other, before, isLive, same⟩

/-- An overlapped call whose closure keeps nothing. -/
theorem submitNothing (sound : Sound state) (self : Target)
    (accepted : Bool) : Sound (state.submit .nothing self accepted) := by
  rcases submit_cases state .nothing self accepted with
    ⟨_, same⟩ | ⟨handle, _, held, _, same⟩
  · rw [same]
    exact sound
  · rw [same]
    refine sound.start ?_ nofun nofun nofun
    exact sound.handles.start (sound.handles.objects self handle held) nofun

/-- A chunk of a transfer, or the first of one. -/
theorem submitSelf (sound : Sound state) (self : Target) (n : UInt64)
    (accepted : Bool)
    (isAlive : (state.objects self).phase = .alive)
    (unfilled : state.submits self accepted = true → n ≠ 0 →
      ∀ h handle, ¬ state.Live (.target self h) handle) :
    Sound (state.submit (.self self n) self accepted) := by
  rcases submit_cases state (.self self n) self accepted with
    ⟨_, same⟩ | ⟨handle, submits, held, _, same⟩
  · rw [same]
    exact sound
  · rw [same]
    refine sound.start ?_ ?_ ?_ ?_
    · refine
        sound.handles.start (sound.handles.objects self handle held) nofun
    · intro socket touches
      cases touches
      exact isAlive
    · intro socket m same
      cases same
      exact held
    · intro isLive socket
      refine ⟨?_, nofun⟩
      intro m same
      cases same
      simp only [Underway.live, Bool.and_eq_true, bne_iff_ne] at isLive
      exact unfilled submits isLive.2

/-- `Socket::accept` into a socket on which no transfer goes on. -/
theorem accept (sound : Sound state) (self s : Target) (accepted : Bool)
    (isAlive : (state.objects s).phase = .alive)
    (idle : state.submits self accepted = true →
      ∀ n handle, ¬ state.Live (.self s n) handle) :
    Sound (state.accept self s accepted) := by
  rw [State.accept]
  split
  case isFalse => exact sound.make (.inl rfl)
  case isTrue submits =>
    rcases submit_cases state (.target s state.handles) self accepted with
      ⟨rejected, _⟩ | ⟨handle, _, held, _, same⟩
    · rw [submits] at rejected
      cases rejected
    · rw [same]
      have made := sound.make (.inr rfl)
      have inside : handle < state.handles :=
        sound.handles.objects self handle held
      refine made.start ?_ ?_ nofun ?_
      · refine made.handles.start (Nat.lt_succ_of_lt inside) ?_
        intro h stores
        cases stores
        exact
          ⟨Nat.lt_succ_self _, List.mem_cons_self, sound.handles.fresh.1,
            fun underway among => (sound.handles.fresh.2 underway among).2⟩
      · intro socket touches
        cases touches
        exact isAlive
      · intro _ socket
        refine ⟨nofun, ?_⟩
        intro h same n other isLive
        cases same
        exact idle submits n other (live_of_made sound.handles isLive)

variable [DecidableEq Target]

/-- A socket is left without a handle, and what could touch it is over. -/
theorem vacate (sound : Sound state) (socket : Target) (phase : Phase)
    {opened : List Nat}
    (kept : ∀ h ∈ state.opened, (state.objects socket).handle ≠ some h →
      h ∈ opened)
    (fewer : ∀ h ∈ opened, h ∈ state.opened)
    (phases : (state.objects socket).phase = .alive → phase = .alive ∨
      ∀ capture handle,
        ({ state with opened := opened } : State Target).Live
            capture handle →
          capture.touched ≠ some socket) :
    Sound
      { state with
        objects := Function.update state.objects socket ⟨phase, none⟩
        opened := opened } := by
  refine sound.keep (sound.handles.vacate socket phase kept) rfl ?_ ?_ ?_
  · intro capture handle isLive
    exact
      live_of_fewer isLive (fun _ => id) fun underway _ =>
        fewer underway.handle
  · intro capture handle other isLive touches isAlive
    by_cases same : other = socket
    · subst same
      rcases phases isAlive with rfl | ended
      · simp only [Function.update_self]
      · exact absurd touches (ended capture handle isLive)
    · simp only [Function.update_of_ne same]
      exact isAlive
  · intro other
    by_cases same : other = socket
    · subst same
      left
      simp only [Function.update_self]
    · right
      simp only [Function.update_of_ne same]

/-- A handle has been stored in a socket on which no transfer goes on. -/
theorem store (sound : Sound state) (s : Target) {h : Nat}
    (bound : h < state.handles)
    (unstored : ∀ underway ∈ state.underway,
      underway.capture.stored ≠ some h)
    (idle : ∀ n handle, ¬ state.Live (.self s n) handle) :
    Sound
      { state with
        objects :=
          Function.update state.objects s
            { state.objects s with handle := some h } } where
  handles := sound.handles.store s bound unstored
  harmless := sound.harmless
  alive capture handle socket isLive touches := by
    have before : (state.objects socket).phase = .alive :=
      sound.alive capture handle socket isLive touches
    by_cases same : socket = s
    · subst same
      simp only [Function.update_self]
      exact before
    · simp only [Function.update_of_ne same]
      exact before
  together socket n handle isLive := by
    have other : socket ≠ s := by
      rintro rfl
      exact idle n handle isLive
    simp only [Function.update_of_ne other]
    exact sound.together socket n handle isLive
  exclusive := sound.exclusive

/-- `run` has taken an operation and calls its closure. -/
theorem call (sound : Sound state) {underway : Underway Target}
    {others : List (Underway Target)} {success : Bool} {byteCount : UInt32}
    (taken : state.underway.Perm (underway :: others))
    (completed : underway.completion = some (success, byteCount))
    (accepted : Bool) :
    Sound
      (({ state with underway := others } : State Target).call underway
        success byteCount accepted) := by
  have among : underway ∈ state.underway :=
    taken.mem_iff.mpr List.mem_cons_self
  have left := sound.leave taken
  rw [State.call]
  split
  case h_1 => exact left
  case h_2 s h capture =>
    have stores : underway.capture.stored = some h := by
      rw [capture]
      rfl
    have unstored :=
      (sound.handles.apart_of_taken taken).2 h stores
    cases success with
    | false => exact left.discard unstored
    | true =>
        have isLive : state.Live (.target s h) underway.handle := by
          refine ⟨underway, among, ?_, capture, rfl⟩
          rw [Underway.live, capture, completed]
        have isAlive : (state.objects s).phase = .alive :=
          sound.alive _ _ s isLive rfl
        rw [if_pos rfl, if_pos isAlive]
        refine left.store s
          (sound.handles.stored underway among h stores).1 unstored ?_
        intro n handle selfLive
        refine sound.exclusive s n h handle _ ?_ isLive
        refine live_of_fewer selfLive ?_ (fun _ _ => id)
        intro other remains
        exact taken.mem_iff.mpr (List.mem_cons_of_mem _ remains)
  case h_3 self n capture =>
    split
    case isTrue => exact left
    case isFalse continues =>
      rw [Bool.not_eq_true, Bool.or_eq_false_iff, Bool.not_eq_false',
        beq_eq_false_iff_ne] at continues
      have isLive : state.Live (.self self n) underway.handle := by
        refine ⟨underway, among, ?_, capture, rfl⟩
        rw [Underway.live, capture, completed]
        simp [continues]
      have isAlive : (state.objects self).phase = .alive :=
        sound.alive _ _ self isLive rfl
      have unfilled : ∀ h handle,
          ¬ ({ state with underway := others } : State Target).Live
            (.target self h) handle := by
        intro h handle targetLive
        refine sound.exclusive self n h _ handle isLive ?_
        refine live_of_fewer targetLive ?_ (fun _ _ => id)
        intro other remains
        exact taken.mem_iff.mpr (List.mem_cons_of_mem _ remains)
      have resumed :=
        left.submitSelf self (n - byteCount.toUInt64) accepted isAlive
          fun _ _ => unfilled
      rw [State.resume, if_pos isAlive]
      split
      case isFalse => exact resumed
      case isTrue strays =>
        rw [Bool.and_eq_true, bne_iff_ne] at strays
        rcases submit_cases { state with underway := others }
            (.self self (n - byteCount.toUInt64)) self accepted with
          ⟨rejected, _⟩ | ⟨handle, _, held, _, _⟩
        · rw [rejected] at strays
          cases strays.1
        · rcases sound.together self n _ isLive with closed | same
          · rw [closed] at held
            cases held
          · exact absurd same strays.2

end Sound

/-- Careful steps keep the invariant. -/
theorem sound_step [DecidableEq Target] {state next : State Target}
    {action : Action Target}
    (careful : Careful state action)
    (sound : Sound state)
    (stepped : state.step action = some next) :
    Sound next := by
  cases action with
  | construct socket =>
      rw [State.step, Option.ite_none_right_eq_some] at stepped
      rcases stepped with ⟨unborn, ⟨⟩⟩
      exact
        sound.vacate socket .alive (fun _ isOpen _ => isOpen)
          (fun _ => id) fun _ => .inl rfl
  | open_ socket =>
      rw [State.step, Option.ite_none_right_eq_some] at stepped
      rcases stepped with ⟨_, ⟨⟩⟩
      refine (sound.make (.inr rfl)).store socket (Nat.lt_succ_self _) ?_ ?_
      · intro underway among
        exact (sound.handles.fresh.2 underway among).2
      · intro n handle isLive
        exact careful n handle (live_of_made sound.handles isLive)
  | close socket =>
      rw [State.step, Option.ite_none_right_eq_some] at stepped
      rcases stepped with ⟨isAlive, ⟨⟩⟩
      exact
        sound.vacate socket _ (fun _ => mem_openedWithout)
          (fun _ => openedWithout_subset) fun _ => .inl isAlive
  | destroy socket =>
      rw [State.step, Option.ite_none_right_eq_some] at stepped
      rcases stepped with ⟨_, ⟨⟩⟩
      exact
        sound.vacate socket _ (fun _ => mem_openedWithout)
          (fun _ => openedWithout_subset) fun _ => .inr careful
  | transfer self accepted =>
      rw [State.step, Option.ite_none_right_eq_some] at stepped
      rcases stepped with ⟨_, ⟨⟩⟩
      exact sound.submitNothing self accepted
  | all self n accepted =>
      rw [State.step, Option.ite_none_right_eq_some] at stepped
      rcases stepped with ⟨isAlive, ⟨⟩⟩
      exact sound.submitSelf self n accepted isAlive careful
  | accept self s accepted =>
      rw [State.step, Option.ite_none_right_eq_some] at stepped
      rcases stepped with ⟨⟨_, isAlive⟩, ⟨⟩⟩
      exact sound.accept self s accepted isAlive careful
  | complete index success byteCount =>
      rw [State.step] at stepped
      rcases Option.bind_eq_some_iff.mp stepped with
        ⟨⟨underway, others⟩, taken, completed⟩
      rw [Option.ite_none_right_eq_some] at completed
      rcases completed with ⟨⟨pending, opened, admits⟩, ⟨⟩⟩
      exact sound.complete (Pool.take?_perm taken) pending opened admits
  | dispatch index accepted =>
      rw [State.step] at stepped
      rcases Option.bind_eq_some_iff.mp stepped with
        ⟨⟨underway, others⟩, taken, called⟩
      rcases Option.map_eq_some_iff.mp called with
        ⟨⟨success, byteCount⟩, completed, ⟨⟩⟩
      exact sound.call (Pool.take?_perm taken) completed accepted

/-! ## Ending what is underway -/

section Ending

variable [DecidableEq Target]

/-- The steps by which operations end, in any order and with any outcome. -/
def ending : TransitionSystem (State Target) (Action Target) :=
  program.restrict fun _ action =>
    match action with
    | .complete _ _ _ | .dispatch _ _ => true
    | _ => false

/-- However the operations underway end, no closure does harm. -/
def Safe (state : State Target) : Prop :=
  ∀ last, ending.Leads state last → last.harms = []

/-- Operations end without the user having to see to anything. -/
theorem Sound.safe {state : State Target} (sound : Sound state) :
    Safe state := by
  rintro last ⟨actions, taken⟩
  refine
    (TransitionSystem.runFrom_keeps _ ?_ sound taken).harmless
  intro state action next holds stepped
  rcases TransitionSystem.restrict_step _ stepped with ⟨ends, stepped⟩
  refine sound_step ?_ holds stepped
  cases action with
  | complete index success byteCount => trivial
  | dispatch index accepted => trivial
  | construct socket => cases ends
  | open_ socket => cases ends
  | close socket => cases ends
  | destroy socket => cases ends
  | transfer self accepted => cases ends
  | all self n accepted => cases ends
  | accept self s accepted => cases ends

/-- A state is not safe when one that is not can come of it. -/
theorem not_safe_of_leads {state last : State Target}
    (leads : ending.Leads state last) (harmful : ¬ Safe last) :
    ¬ Safe state :=
  fun safe => harmful fun final further =>
    safe final (leads.trans ending further)

/-- `run` takes an operation that has ended. -/
theorem ending_dispatch {state : State Target} {index : Nat}
    {underway : Underway Target} {others : List (Underway Target)}
    {success : Bool} {byteCount : UInt32}
    (taken : Pool.take? state.underway index = some (underway, others))
    (completed : underway.completion = some (success, byteCount)) :
    ending.Leads state
      (({ state with underway := others } : State Target).call underway
        success byteCount true) := by
  have stepped : ending.step state (.dispatch index true) =
      some (({ state with underway := others } : State Target).call underway
        success byteCount true) := by
    show State.step state (.dispatch index true) = _
    simp only [State.step, taken, Option.bind_some, completed]
    rfl
  exact .step _ stepped

/-- An operation whose handle is open may succeed, if with no bytes. -/
theorem ending_complete {state : State Target} {index : Nat}
    {underway : Underway Target} {others : List (Underway Target)}
    (taken : Pool.take? state.underway index = some (underway, others))
    (pending : underway.completion = none)
    (opened : underway.handle ∈ state.opened) :
    ending.Leads state
      { state with
        underway :=
          { underway with completion := some (true, 0) } :: others } := by
  have admits : underway.capture.admits 0 = true := by
    cases underway.capture with
    | nothing => rfl
    | target s h => rfl
    | self self n => exact decide_eq_true (Nat.zero_le (ulongLength n))
  have stepped : ending.step state (.complete index true 0) =
      some
        { state with
          underway :=
            { underway with completion := some (true, 0) } :: others } := by
    show State.step state (.complete index true 0) = _
    simp only [State.step, taken, Option.bind_some]
    exact if_pos ⟨pending, fun _ => opened, admits⟩
  exact .step _ stepped

/-- What can still be touched may come to be touched. -/
theorem leads_call {state : State Target} {underway : Underway Target}
    (among : underway ∈ state.underway)
    (isLive : underway.live state.opened = true) :
    ∃ others byteCount,
      state.underway.Perm (underway :: others) ∧
        (∀ socket n, underway.capture = .self socket n →
          n ≠ byteCount.toUInt64) ∧
        ending.Leads state
          (({ state with underway := others } : State Target).call
            { underway with completion := some (true, byteCount) }
            true byteCount true) := by
  rcases Pool.exists_take?_of_mem among with ⟨index, others, taken⟩
  rcases underway with ⟨capture, handle, completion⟩
  cases completion with
  | none =>
      have opened : handle ∈ state.opened ∧
          ∀ socket n, capture = .self socket n → n ≠ 0 := by
        cases capture with
        | nothing => cases isLive
        | target s h =>
            refine ⟨of_decide_eq_true isLive, ?_⟩
            intro socket n other
            cases other
        | self self n =>
            simp only [Underway.live, Bool.and_eq_true, bne_iff_ne,
              decide_eq_true_eq] at isLive
            refine ⟨isLive.1, ?_⟩
            intro socket m same
            cases same
            exact isLive.2
      refine ⟨others, 0, Pool.take?_perm taken, opened.2, ?_⟩
      refine (ending_complete taken rfl opened.1).trans _ ?_
      exact @ending_dispatch _ _ _ 0 _ _ _ _ rfl rfl
  | some result =>
      rcases result with ⟨success, byteCount⟩
      have succeeded : success = true ∧
          ∀ socket n, capture = .self socket n →
            n ≠ byteCount.toUInt64 := by
        cases capture with
        | nothing => cases isLive
        | target s h =>
            refine ⟨isLive, ?_⟩
            intro socket n other
            cases other
        | self self n =>
            simp only [Underway.live, Bool.and_eq_true, bne_iff_ne]
              at isLive
            refine ⟨isLive.1, ?_⟩
            intro socket m same
            cases same
            exact isLive.2
      rcases succeeded with ⟨rfl, unfinished⟩
      exact
        ⟨others, byteCount, Pool.take?_perm taken, unfinished,
          ending_dispatch taken rfl⟩

/-- A socket is gone that can still be touched. -/
theorem not_safe_of_dead {state : State Target} {capture : Capture Target}
    {handle : Nat} {socket : Target}
    (isLive : state.Live capture handle)
    (touches : capture.touched = some socket)
    (gone : (state.objects socket).phase ≠ .alive) :
    ¬ Safe state := by
  rcases isLive with ⟨underway, among, isLive, rfl, rfl⟩
  rcases leads_call among isLive with
    ⟨others, byteCount, _, unfinished, leads⟩
  intro safe
  have harmless := safe _ leads
  rw [State.call] at harmless
  split at harmless
  case h_1 nothing =>
    rw [nothing] at touches
    cases touches
  case h_2 s h target =>
    rw [target] at touches
    cases touches
    rw [if_pos rfl, if_neg gone] at harmless
    simp at harmless
  case h_3 self n same =>
    rw [same] at touches
    cases touches
    have continues : (!true || n == byteCount.toUInt64) = false := by
      simpa using unfinished socket n same
    rw [continues, if_neg Bool.false_ne_true, State.resume,
      if_neg gone] at harmless
    simp at harmless

/-- A transfer can still go on, and its socket has another handle. -/
theorem not_safe_of_strayed {state : State Target} {socket : Target}
    {n : UInt64} {handle other : Nat}
    (isLive : state.Live (.self socket n) handle)
    (isAlive : (state.objects socket).phase = .alive)
    (held : (state.objects socket).handle = some other)
    (opened : other ∈ state.opened)
    (differs : other ≠ handle) :
    ¬ Safe state := by
  rcases isLive with ⟨underway, among, isLive, same, rfl⟩
  rcases leads_call among isLive with
    ⟨others, byteCount, _, unfinished, leads⟩
  intro safe
  have harmless := safe _ leads
  have continues : (!true || n == byteCount.toUInt64) = false := by
    simpa using unfinished socket n same
  have submits :
      ({ state with underway := others } : State Target).submits socket
        true = true := by
    simpa [State.submits, held] using opened
  have strays : ((state.objects socket).handle != some underway.handle) =
      true := by
    simpa [held] using differs
  rw [State.call] at harmless
  simp only [same] at harmless
  rw [continues, if_neg Bool.false_ne_true, State.resume,
    if_pos isAlive] at harmless
  simp only [submits, strays, Bool.and_self, if_true] at harmless
  simp at harmless

/-- An accepted connection may come to be stored before anything else. -/
theorem leads_store {state : State Target} {s : Target} {h at_ : Nat}
    (isLive : state.Live (.target s h) at_)
    (isAlive : (state.objects s).phase = .alive) :
    ∃ others,
      (∀ underway ∈ state.underway, underway.capture ≠ .target s h →
        underway ∈ others) ∧
      ending.Leads state
        { state with
          underway := others
          objects :=
            Function.update state.objects s
              { state.objects s with handle := some h } } := by
  rcases isLive with ⟨underway, among, isLive, target, rfl⟩
  rcases leads_call among isLive with ⟨others, byteCount, taken, _, leads⟩
  refine ⟨others, ?_, ?_⟩
  · intro other stood differs
    rcases List.mem_cons.mp (taken.mem_iff.mp stood) with rfl | remains
    · exact absurd target differs
    · exact remains
  · rw [State.call] at leads
    simp only [target] at leads
    rw [if_pos trivial, if_pos isAlive] at leads
    exact leads

/-- A transfer can still go on, and a connection be stored in its socket. -/
theorem not_safe_of_both {state : State Target} {socket : Target}
    {n : UInt64} {h handle at_ : Nat}
    (selfLive : state.Live (.self socket n) handle)
    (targetLive : state.Live (.target socket h) at_)
    (isAlive : (state.objects socket).phase = .alive)
    (opened : h ∈ state.opened)
    (differs : h ≠ handle) :
    ¬ Safe state := by
  rcases leads_store targetLive isAlive with ⟨others, remain, leads⟩
  refine not_safe_of_leads leads ?_
  rcases selfLive with ⟨underway, among, isLive, same, rfl⟩
  have remains : underway ∈ others := by
    refine remain underway among ?_
    rw [same]
    nofun
  refine not_safe_of_strayed ⟨underway, remains, isLive, same, rfl⟩
    ?_ ?_ opened differs
  · simp only [Function.update_self]
    exact isAlive
  · simp only [Function.update_self]

/-- A step that is not careful can come to do harm. -/
theorem not_safe_of_careless {state next : State Target}
    {action : Action Target}
    (careless : ¬ Careful state action)
    (sound : Sound state)
    (stepped : state.step action = some next) :
    ¬ Safe next := by
  cases action with
  | construct socket => exact absurd trivial careless
  | open_ socket =>
      rw [State.step, Option.ite_none_right_eq_some] at stepped
      rcases stepped with ⟨isAlive, ⟨⟩⟩
      simp only [Careful, not_forall, not_not] at careless
      rcases careless with ⟨n, handle, underway, among, isLive, same, rfl⟩
      have stillLive :
          (state.open_ socket).Live (.self socket n) underway.handle :=
        ⟨underway, among,
          Underway.live_of_subset (List.mem_cons_of_mem _) isLive, same, rfl⟩
      refine not_safe_of_strayed stillLive ?_ ?_ List.mem_cons_self
        (sound.handles.fresh.2 underway among).1.symm
      · simp only [State.open_, Function.update_self]
        exact isAlive
      · simp only [State.open_, Function.update_self]
  | close socket => exact absurd trivial careless
  | destroy socket =>
      rw [State.step, Option.ite_none_right_eq_some] at stepped
      rcases stepped with ⟨_, ⟨⟩⟩
      simp only [Careful, not_forall, not_not] at careless
      rcases careless with ⟨capture, handle, isLive, touches⟩
      have stillLive : (state.destroy socket).Live capture handle := isLive
      refine not_safe_of_dead stillLive touches ?_
      simp only [State.destroy, Function.update_self]
      nofun
  | transfer self accepted => exact absurd trivial careless
  | all self n accepted =>
      rw [State.step, Option.ite_none_right_eq_some] at stepped
      rcases stepped with ⟨isAlive, ⟨⟩⟩
      simp only [Careful, not_forall, not_not] at careless
      rcases careless with ⟨submits, nonzero, h, at_, target⟩
      rcases target with ⟨underway, among, isLive, same, rfl⟩
      rcases submit_cases state (.self self n) self accepted with
        ⟨rejected, _⟩ | ⟨handle, _, held, opened, started⟩
      · rw [submits] at rejected
        cases rejected
      · have stored :=
          sound.handles.stored underway among h (by rw [same]; rfl)
        have differs : h ≠ handle := by
          rintro rfl
          exact stored.2.2 self held
        rw [started]
        refine not_safe_of_both
          ⟨_, List.mem_cons_self, ?_, rfl, rfl⟩
          ⟨underway, List.mem_cons_of_mem _ among, isLive, same, rfl⟩
          isAlive stored.2.1 differs
        simpa [Underway.live, opened] using nonzero
  | accept self s accepted =>
      rw [State.step, Option.ite_none_right_eq_some] at stepped
      rcases stepped with ⟨⟨_, isAlive⟩, ⟨⟩⟩
      simp only [Careful, not_forall, not_not] at careless
      rcases careless with
        ⟨submits, n, handle, underway, among, isLive, same, rfl⟩
      rw [State.accept, if_pos submits]
      rcases submit_cases state (.target s state.handles) self accepted with
        ⟨rejected, _⟩ | ⟨at_, _, held, opened, started⟩
      · rw [submits] at rejected
        cases rejected
      · rw [started]
        refine not_safe_of_both
          ⟨underway, List.mem_cons_of_mem _ among, ?_, same, rfl⟩
          ⟨_, List.mem_cons_self, ?_, rfl, rfl⟩
          isAlive List.mem_cons_self
          (sound.handles.fresh.2 underway among).1.symm
        · exact Underway.live_of_subset (List.mem_cons_of_mem _) isLive
        · exact decide_eq_true (List.mem_cons_of_mem _ opened)
  | complete index success byteCount => exact absurd trivial careless
  | dispatch index accepted => exact absurd trivial careless

/-! ## Whole runs -/

/-- Before the first step there is nothing that could go wrong. -/
theorem sound_init : Sound (program : TransitionSystem (State Target) _).init
    where
  handles :=
    { underway := nofun
      objects := nofun
      stored := nofun
      apart := List.nodup_nil }
  harmless := rfl
  alive := by
    rintro capture handle socket ⟨underway, among, _⟩
    cases among
  together := by
    rintro socket n handle ⟨underway, among, _⟩
    cases among
  exclusive := by
    rintro socket n h handle other ⟨underway, among, _⟩
    cases among

/--
A run stays clear of the use of a socket that is gone, and of transfers that go
on with a handle on which they did not begin, exactly when no socket is
destroyed or given another handle while a transfer can still come back to it,
none is destroyed while a connection may still be stored in it, and no transfer
and no accepted connection are started towards the same socket.
-/
theorem safe_iff_careful
    (actions : List (Action Target))
    (last : State Target)
    (taken : program.run actions = some last) :
    program.Throughout Safe actions ↔ program.Along Careful actions :=
  program.throughout_iff_along sound_init
    (fun _ _ _ careful sound stepped => sound_step careful sound stepped)
    (fun _ => Sound.safe)
    (fun _ _ _ careless sound stepped =>
      not_safe_of_careless careless sound stepped)
    taken

/--
A server accepts a connection and reads five bytes from it; the server goes
while the fifth is awaited, and the client when it has come.
-/
def served : List (Action Bool) :=
  [.construct true, .open_ true, .construct false, .accept true false true,
    .complete 0 true 0, .dispatch 0 true, .all false 5 true,
    .complete 0 true 4, .dispatch 0 true, .destroy true,
    .complete 0 true 1, .destroy false, .dispatch 0 true]

theorem safe_iff_careful_served :
    program.Throughout Safe served ↔ program.Along Careful served := by
  let run : Option (State Bool) := program.run served
  have isSome : run.isSome := by decide
  have reached : run = some (run.get isSome) :=
    (Option.some_get isSome).symm
  exact safe_iff_careful served (run.get isSome) reached

end Ending

end Netycat.Network.CapturedSockets
