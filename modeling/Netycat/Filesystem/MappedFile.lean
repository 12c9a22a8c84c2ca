import Netycat.Filesystem.DataView
import Netycat.Lib.TransitionSystem

/-!
# Mapped files

A `MappedFile` is a view of `size` bytes.  Its `read` and `write` add offset and
count in 64 bits, compare the sum with the size, and copy.  A copy whose
positions are not all in the view, or a store to a view that is mapped for
reading only, has no result.

A sum that wraps around passes the test.  The theorem at the end says of runs of
calls that this, and a store to a view for reading, are all that can go wrong.
-/

namespace Netycat.Filesystem

open Netycat.Corecat Region

/-- `MappedFile`, with the bytes of its view. -/
structure MappedFile where
  size : UInt64
  writable : Bool
  data : List Byte
  whole : data.length = size.toNat
deriving DecidableEq, Repr

namespace MappedFile

def getSize (file : MappedFile) : UInt64 :=
  file.size

/-- `std::copy` out of the view. -/
def load (file : MappedFile) (offset count : Nat) : Option (List Byte) :=
  if offset + count ≤ file.data.length then
    some (slice file.data offset count)
  else none

/-- `std::copy` into the view. -/
def store (file : MappedFile) (offset : Nat) (bytes : List Byte) :
    Option MappedFile :=
  if bytes = [] then some file
  else if inside :
      file.writable = true ∧ offset + bytes.length ≤ file.data.length then
    some { file with
      data := patch file.data offset bytes
      whole := (patch_length inside.2).trans file.whole }
  else none

/-- What a call leaves: how it ended, the file and the buffer. -/
structure Result where
  ending : Except Exception Unit
  file : MappedFile
  buffer : List Byte

/-- `read`. -/
def read (file : MappedFile) (access : Access) : Option Result :=
  if access.offset + access.count > file.getSize then
    some ⟨.error (IOException "End of data"), file, access.buffer⟩
  else do
    let bytes ← file.load access.offset.toNat access.count.toNat
    return ⟨.ok (), file, access.filled bytes⟩

/-- `write`. -/
def write (file : MappedFile) (access : Access) : Option Result :=
  if access.offset + access.count > file.getSize then
    some ⟨.error (IOException "End of data"), file, access.buffer⟩
  else do
    let file ← file.store access.offset.toNat access.bytes
    return ⟨.ok (), file, access.buffer⟩

def perform (file : MappedFile) : Call → Option Result
  | .read access => file.read access
  | .write access => file.write access

/-! ## What calls are to do -/

/-- The byte that the calls, latest first, have left at a position. -/
def lastWritten (mapped : MappedFile) : List Call → Nat → Option Byte
  | [], position => mapped.data[position]?
  | .read _ :: earlier, position => lastWritten mapped earlier position
  | .write access :: earlier, position =>
      if access.stop ≤ mapped.size.toNat ∧
          access.offset.toNat ≤ position ∧ position < access.stop then
        access.buffer[position - access.offset.toNat]?
      else lastWritten mapped earlier position

/-- The call has thrown and changed nothing. -/
structure Refused
    (before : MappedFile) (access : Access) (result : Result) : Prop where
  thrown : ∃ exception, result.ending = .error exception
  data : result.file.data = before.data
  buffer : result.buffer = access.buffer

/-- A read has filled the front of the buffer with what was written last at
the positions from `offset` on, and changed nothing else. -/
structure Filled
    (mapped : MappedFile) (earlier : List Call)
    (before : MappedFile) (access : Access) (result : Result) : Prop where
  returned : result.ending = .ok ()
  data : result.file.data = before.data
  buffer :
    ∀ index, result.buffer[index]? =
      if index < access.count.toNat then
        lastWritten mapped earlier (access.offset.toNat + index)
      else access.buffer[index]?

/-- A write has stored the front of the buffer at the positions from `offset`
on, and changed nothing else. -/
structure Stored
    (before : MappedFile) (access : Access) (result : Result) : Prop where
  returned : result.ending = .ok ()
  buffer : result.buffer = access.buffer
  data :
    ∀ position, result.file.data[position]? =
      if access.offset.toNat ≤ position ∧ position < access.stop then
        access.buffer[position - access.offset.toNat]?
      else before.data[position]?

/--
The call has come back: it has thrown and done nothing if the true sum of
offset and count exceeds the size, and done its work on positions below the
size otherwise.
-/
def CallRight
    (mapped : MappedFile) (earlier : List Call) (before : MappedFile) :
    Call → Option Result → Prop
  | _, none => False
  | .read access, some result =>
      if access.stop ≤ mapped.size.toNat then
        Filled mapped earlier before access result
      else Refused before access result
  | .write access, some result =>
      if access.stop ≤ mapped.size.toNat then
        Stored before access result
      else Refused before access result

/-- The sum of offset and count does not pass the range test by wrapping
around. -/
def NoWrap (mapped : MappedFile) (access : Access) : Prop :=
  access.stop < 2 ^ 64 ∨ mapped.size.toNat < access.stop % 2 ^ 64

/-- The sum does not pass the test by wrapping around, and bytes are stored in
the range of a writable view only. -/
def Tolerated (mapped : MappedFile) : Call → Prop
  | .read access => mapped.NoWrap access
  | .write access =>
      mapped.NoWrap access ∧
        (access.stop ≤ mapped.size.toNat → 0 < access.count.toNat →
          mapped.writable = true)

/-! ## Single calls -/

/-- The file is the mapped one after these calls. -/
structure After
    (mapped : MappedFile) (calls : List Call) (file : MappedFile) :
    Prop where
  size : file.size = mapped.size
  writable : file.writable = mapped.writable
  data : ∀ position, file.data[position]? = lastWritten mapped calls position

theorem rangeTest_iff (file : MappedFile) (access : Access) :
    access.offset + access.count > file.getSize ↔
      file.size.toNat < access.stop % 2 ^ 64 := by
  rw [gt_iff_lt, UInt64.lt_iff_toNat_lt, access.toRange.sum_toNat, getSize]

/-- Without a wrap the test compares the true sum. -/
theorem After.rangeTest_iff
    {mapped file : MappedFile} {calls : List Call} {access : Access}
    (after : After mapped calls file) (noWrap : mapped.NoWrap access) :
    access.offset + access.count > file.getSize ↔
      ¬ access.stop ≤ file.size.toNat := by
  have small := mapped.size.toNat_lt
  rw [MappedFile.rangeTest_iff, after.size]
  rcases noWrap with fits | refused
  · rw [Nat.mod_eq_of_lt fits, Nat.not_le]
  · have smaller := Nat.mod_le access.stop (2 ^ 64)
    constructor
    · intro
      omega
    · intro
      exact refused

/-- A sum that wraps around is beyond every view. -/
theorem outside_of_wrap
    {mapped : MappedFile} {access : Access}
    (wraps : ¬ mapped.NoWrap access) :
    access.stop % 2 ^ 64 ≤ mapped.size.toNat ∧
      mapped.size.toNat < access.stop := by
  have small := mapped.size.toNat_lt
  simp only [NoWrap, not_or, Nat.not_lt] at wraps
  omega

theorem read_right
    {mapped file : MappedFile} {calls : List Call} {access : Access}
    (after : After mapped calls file)
    (noWrap : mapped.NoWrap access) :
    CallRight mapped calls file (.read access) (file.read access) := by
  have test := after.rangeTest_iff noWrap
  rw [read]
  split
  case isTrue refused =>
    rw [CallRight, ← after.size, if_neg (test.mp refused)]
    exact ⟨⟨_, rfl⟩, rfl, rfl⟩
  case isFalse passed =>
    have inside : access.stop ≤ file.size.toNat := by
      rw [test, not_not] at passed
      exact passed
    have inData :
        access.offset.toNat + access.count.toNat ≤ file.data.length := by
      rw [file.whole]
      exact inside
    rw [load, if_pos inData]
    show CallRight mapped calls file (.read access) (some _)
    rw [CallRight, ← after.size, if_pos inside]
    refine ⟨rfl, rfl, ?_⟩
    intro index
    show (access.filled _)[index]? = _
    rw [access.filled_getElem?, slice_length inData, slice_getElem?,
      ← after.data]
    split
    · rfl
    · rfl

theorem read_faults
    {mapped file : MappedFile} {access : Access}
    (size : file.size = mapped.size)
    (wraps : ¬ mapped.NoWrap access) :
    file.read access = none := by
  rcases outside_of_wrap wraps with ⟨passes, outside⟩
  rw [← size] at passes outside
  have test : ¬ access.offset + access.count > file.getSize := by
    rw [rangeTest_iff, Nat.not_lt]
    exact passes
  have notInData :
      ¬ access.offset.toNat + access.count.toNat ≤ file.data.length := by
    rw [file.whole, Nat.not_le]
    exact outside
  rw [read, if_neg test, load, if_neg notInData]
  rfl

/-- What is stored is in the view. -/
theorem store_data
    {file : MappedFile} {access : Access}
    (inside : access.stop ≤ file.size.toNat)
    (writable : 0 < access.count.toNat → file.writable = true) :
    ∃ stored,
      file.store access.offset.toNat access.bytes = some stored ∧
        stored.data =
          patch file.data access.offset.toNat access.bytes := by
  have inData :
      access.offset.toNat + access.bytes.length ≤ file.data.length := by
    rw [file.whole, access.bytes_length]
    exact inside
  rw [store]
  split
  case isTrue nothing =>
    refine ⟨file, rfl, ?_⟩
    rw [nothing, patch, List.nil_append, List.length_nil, Nat.add_zero,
      List.take_append_drop]
  case isFalse something =>
    have more : 0 < access.count.toNat := by
      rw [← access.bytes_length]
      exact List.length_pos_of_ne_nil something
    rw [dif_pos ⟨writable more, inData⟩]
    exact ⟨_, rfl, rfl⟩

theorem write_right
    {mapped file : MappedFile} {calls : List Call} {access : Access}
    (after : After mapped calls file)
    (tolerated : mapped.Tolerated (.write access)) :
    CallRight mapped calls file (.write access) (file.write access) := by
  rcases tolerated with ⟨noWrap, writable⟩
  have test := after.rangeTest_iff noWrap
  rw [← after.size, ← after.writable] at writable
  rw [write]
  split
  case isTrue refused =>
    rw [CallRight, ← after.size, if_neg (test.mp refused)]
    exact ⟨⟨_, rfl⟩, rfl, rfl⟩
  case isFalse passed =>
    have inside : access.stop ≤ file.size.toNat := by
      rw [test, not_not] at passed
      exact passed
    rcases store_data inside (writable inside) with ⟨stored, done, data⟩
    rw [done]
    show CallRight mapped calls file (.write access) (some _)
    rw [CallRight, ← after.size, if_pos inside]
    refine ⟨rfl, rfl, ?_⟩
    intro position
    have inData : access.offset.toNat ≤ file.data.length := by
      rw [file.whole]
      exact (Nat.le_add_right _ _).trans inside
    show stored.data[position]? = _
    rw [data, patch_getElem? _ inData, access.bytes_length, ← Range.stop]
    split
    case isTrue among =>
      have inside : position - access.offset.toNat < access.count.toNat := by
        rw [Range.stop] at among
        omega
      exact Access.bytes_getElem? inside
    case isFalse => rfl

theorem write_faults
    {mapped file : MappedFile} {access : Access}
    (size : file.size = mapped.size)
    (writable : file.writable = mapped.writable)
    (broken : ¬ mapped.Tolerated (.write access)) :
    file.write access = none := by
  have passes :
      access.stop % 2 ^ 64 ≤ mapped.size.toNat ∧
        0 < access.count.toNat ∧
        ¬ (mapped.writable = true ∧
          access.stop ≤ mapped.size.toNat) := by
    by_cases noWrap : mapped.NoWrap access
    · have inside : access.stop ≤ mapped.size.toNat := by
        by_contra outside
        exact broken ⟨noWrap, fun inside => absurd inside outside⟩
      refine ⟨?_, ?_, ?_⟩
      · exact (Nat.mod_le _ _).trans inside
      · by_contra nothing
        exact broken ⟨noWrap, fun _ more => absurd more nothing⟩
      · rintro ⟨isWritable, _⟩
        exact broken ⟨noWrap, fun _ _ => isWritable⟩
    · rcases outside_of_wrap noWrap with ⟨passed, outside⟩
      refine ⟨passed, ?_, fun both => absurd both.2 (Nat.not_le.mpr outside)⟩
      have small := access.offset.toNat_lt
      simp only [NoWrap, not_or, Nat.not_lt, Range.stop] at noWrap
      omega
  rcases passes with ⟨passed, more, notStored⟩
  rw [← size] at passed notStored
  rw [← writable] at notStored
  have test : ¬ access.offset + access.count > file.getSize := by
    rw [rangeTest_iff, Nat.not_lt]
    exact passed
  have something : access.bytes ≠ [] := by
    rw [← access.bytes_length] at more
    exact List.ne_nil_of_length_pos more
  have notInData :
      ¬ (file.writable = true ∧
        access.offset.toNat + access.bytes.length ≤ file.data.length) := by
    rw [access.bytes_length, file.whole]
    exact notStored
  rw [write, if_neg test, store, if_neg something, dif_neg notInData]
  rfl

/-- No call changes the view. -/
theorem perform_view
    {file : MappedFile} {call : Call} {result : Result}
    (performed : file.perform call = some result) :
    result.file.size = file.size ∧
      result.file.writable = file.writable := by
  cases call with
  | read access =>
      rw [perform, read] at performed
      split at performed
      · cases performed
        exact ⟨rfl, rfl⟩
      · rw [load] at performed
        split at performed
        · cases performed
          exact ⟨rfl, rfl⟩
        · cases performed
  | write access =>
      rw [perform, write] at performed
      split at performed
      · cases performed
        exact ⟨rfl, rfl⟩
      · rw [store] at performed
        split at performed
        · cases performed
          exact ⟨rfl, rfl⟩
        · split at performed
          · cases performed
            exact ⟨rfl, rfl⟩
          · cases performed

theorem perform_right
    {mapped file : MappedFile} {calls : List Call} {call : Call}
    (after : After mapped calls file)
    (tolerated : mapped.Tolerated call) :
    CallRight mapped calls file call (file.perform call) := by
  cases call with
  | read access => exact read_right after tolerated
  | write access => exact write_right after tolerated

theorem perform_faults
    {mapped file : MappedFile} {calls : List Call} {call : Call}
    (after : After mapped calls file)
    (broken : ¬ mapped.Tolerated call) :
    file.perform call = none := by
  cases call with
  | read access => exact read_faults after.size broken
  | write access => exact write_faults after.size after.writable broken

/-- What was written last is what a right call has left. -/
theorem After.call
    {mapped file : MappedFile} {calls : List Call} {call : Call}
    {result : Result}
    (after : After mapped calls file)
    (performed : file.perform call = some result)
    (right : CallRight mapped calls file call (some result)) :
    After mapped (call :: calls) result.file := by
  rcases perform_view performed with ⟨size, writable⟩
  refine ⟨size.trans after.size, writable.trans after.writable, ?_⟩
  intro position
  cases call with
  | read access =>
      have same : result.file.data = file.data := by
        rw [CallRight] at right
        split at right
        · exact right.data
        · exact right.data
      rw [same, lastWritten, after.data]
  | write access =>
      rw [CallRight] at right
      rw [lastWritten]
      split at right
      case isTrue inside =>
        simp only [inside, true_and]
        rw [right.data, after.data]
      case isFalse outside =>
        rw [if_neg (fun stored => outside stored.1), right.data, after.data]

/-! ## Runs of calls -/

/-- What is known of the latest call. -/
structure Report where
  earlier : List Call
  before : MappedFile
  call : Call
  result : Option Result

/-- A file in use: the calls so far, latest first, and what the latest one has
left. -/
structure Session where
  file : MappedFile
  calls : List Call := []
  report : Option Report := none

/-- The latest call has not come back. -/
def Session.ended (session : Session) : Bool :=
  session.report.any fun report => report.result.isNone

def Session.perform (session : Session) (call : Call) : Session :=
  let result := session.file.perform call
  { file := (result.map (·.file)).getD session.file
    calls := call :: session.calls
    report := some ⟨session.calls, session.file, call, result⟩ }

/-- Calls on a mapped file.  After one that does not come back there are no
others. -/
def sessions (mapped : MappedFile) : TransitionSystem Session Call where
  init := { file := mapped }
  step := fun session call =>
    if session.ended then some session else some (session.perform call)

/-- The latest call has done what it is to do. -/
def Session.Right (mapped : MappedFile) (session : Session) : Prop :=
  ∀ report, session.report = some report →
    CallRight mapped report.earlier report.before report.call report.result

/-- What holds while all calls are tolerated. -/
structure Session.Sound (mapped : MappedFile) (session : Session) :
    Prop where
  right : session.Right mapped
  after : After mapped session.calls session.file

theorem Session.Right.notEnded
    {mapped : MappedFile} {session : Session}
    (right : session.Right mapped) :
    session.ended = false := by
  rw [Session.ended]
  cases reported : session.report with
  | none => rfl
  | some report =>
      have called := right report reported
      rw [Option.any_some]
      cases result : report.result with
      | none =>
          rw [result] at called
          cases called
      | some result => rfl

theorem Session.Sound.perform
    {mapped : MappedFile} {session : Session} {call : Call}
    (sound : session.Sound mapped)
    (tolerated : mapped.Tolerated call) :
    (session.perform call).Sound mapped := by
  have right := perform_right sound.after tolerated
  constructor
  · intro report reported
    cases reported
    exact right
  · cases performed : session.file.perform call with
    | none =>
        rw [performed] at right
        cases right
    | some result =>
        rw [performed] at right
        have after := sound.after.call performed right
        rw [Session.perform, performed]
        exact after

theorem Session.Sound.broken
    {mapped : MappedFile} {session : Session} {call : Call}
    (sound : session.Sound mapped)
    (broken : ¬ mapped.Tolerated call) :
    ¬ (session.perform call).Right mapped := by
  intro right
  have called := right _ rfl
  have faults := perform_faults sound.after broken
  rw [faults] at called
  cases called

/-- Every list of calls is a run. -/
theorem sessions_run (mapped : MappedFile) (calls : List Call) :
    ∃ last, (sessions mapped).run calls = some last := by
  induction calls using List.reverseRecOn with
  | nil => exact ⟨_, rfl⟩
  | append_singleton calls call induction =>
      rcases induction with ⟨session, reached⟩
      rw [TransitionSystem.run_concat, reached, Option.bind_some]
      simp only [sessions]
      split
      · exact ⟨_, rfl⟩
      · exact ⟨_, rfl⟩

theorem along_iff_tolerated (mapped : MappedFile) (calls : List Call) :
    (sessions mapped).Along (fun _ call => mapped.Tolerated call) calls ↔
      ∀ call ∈ calls, mapped.Tolerated call := by
  constructor
  · intro along call member
    rcases List.append_of_mem member with ⟨before, after, split⟩
    rcases sessions_run mapped before with ⟨session, reached⟩
    exact along before call after session split reached
  · intro all before call after session split _
    apply all
    rw [split]
    exact List.mem_append_right before (List.mem_cons_self ..)

theorem Session.Sound.step
    {mapped : MappedFile} {session next : Session} {call : Call}
    (sound : session.Sound mapped)
    (stepped : (sessions mapped).step session call = some next) :
    next = session.perform call := by
  simp only [sessions, sound.right.notEnded] at stepped
  cases stepped
  rfl

/--
In a run of calls on a mapped file every call does what it is to do, and every
read gives back what was written last, exactly if all calls are tolerated.
-/
theorem sessions_right_iff (mapped : MappedFile) (calls : List Call) :
    (sessions mapped).Throughout (Session.Right mapped) calls ↔
      ∀ call ∈ calls, mapped.Tolerated call := by
  rcases sessions_run mapped calls with ⟨last, taken⟩
  have initial : Session.Sound mapped (sessions mapped).init := by
    constructor
    · intro report reported
      cases reported
    · exact ⟨rfl, rfl, fun _ => rfl⟩
  have kept :
      ∀ session call next,
        mapped.Tolerated call → Session.Sound mapped session →
          (sessions mapped).step session call = some next →
          Session.Sound mapped next := by
    intro session call next tolerated sound stepped
    rw [sound.step stepped]
    exact sound.perform tolerated
  have detected :
      ∀ session call next,
        ¬ mapped.Tolerated call → Session.Sound mapped session →
          (sessions mapped).step session call = some next →
          ¬ Session.Right mapped next := by
    intro session call next broken sound stepped
    rw [sound.step stepped]
    exact sound.broken broken
  rw [← along_iff_tolerated]
  exact
    TransitionSystem.throughout_iff_along (sessions mapped) initial kept
      (fun _ sound => sound.right) detected taken

/-- A view of four bytes. -/
def fourBytes (writable : Bool) : MappedFile where
  size := 4
  writable := writable
  data := [1, 2, 3, 4]
  whole := rfl

/-- One byte at the last offset of all. -/
def lastByte : Access where
  buffer := [0]
  count := 1
  offset := 0xFFFFFFFFFFFFFFFF
  room := by decide

/-- The test lets an access through whose sum is 2^64, and nothing checks that
a view may be written. -/
theorem read_write_unchecked :
    (lastByte.offset + lastByte.count).toNat = 0 ∧
      lastByte.stop = 2 ^ 64 ∧
      (fourBytes true).read lastByte = none ∧
      (fourBytes true).write lastByte = none ∧
      (fourBytes false).write { lastByte with offset := 0 } = none ∧
      ¬ (sessions (fourBytes true)).Throughout
        (Session.Right (fourBytes true)) [.read lastByte] := by
  refine ⟨rfl, rfl, rfl, rfl, rfl, ?_⟩
  intro throughout
  have right := throughout [.read lastByte] [] _ rfl rfl
  exact right _ rfl

end MappedFile

end Netycat.Filesystem
