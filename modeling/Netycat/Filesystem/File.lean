import Netycat.Filesystem.DataView

/-!
# Files

`File` passes its `read` and `write` to `::ReadFile` and `::WriteFile`.  These
take a length of 32 bits and a position in two halves, transfer at most the
length, and report how much they transferred.  `read` tests the range first, by
a sum in 64 bits.  Neither looks at what was transferred.

So a call that returns has done its work exactly if its length fits into 32 bits
and the operating system has transferred all of it.
-/

namespace Netycat.Filesystem

open Netycat.Corecat Region

/-- An open file.  Its size is that of a `LARGE_INTEGER`. -/
structure File where
  content : List Byte
  small : content.length < 2 ^ 63
deriving DecidableEq, Repr

/-- `OVERLAPPED`, of which the calls read the position. -/
structure OVERLAPPED where
  Offset : UInt32
  OffsetHigh : UInt32
deriving DecidableEq, Repr

namespace OVERLAPPED

def position (overlapped : OVERLAPPED) : Nat :=
  overlapped.OffsetHigh.toNat * 2 ^ 32 + overlapped.Offset.toNat

/-- What `read` and `write` fill in. -/
def ofOffset (offset : UInt64) : OVERLAPPED where
  Offset := offset.toUInt32
  OffsetHigh := (offset >>> 32).toUInt32

/-- The two halves make up the offset again. -/
@[simp]
theorem ofOffset_position (offset : UInt64) :
    (ofOffset offset).position = offset.toNat := by
  have small := offset.toNat_lt
  simp only [position, ofOffset, UInt64.toNat_toUInt32,
    UInt64.toNat_shiftRight, Nat.shiftRight_eq_div_pow]
  show offset.toNat / 2 ^ 32 % 2 ^ 32 * 2 ^ 32 + offset.toNat % 2 ^ 32 = _
  omega

end OVERLAPPED

/-- `DWORD(count)`. -/
def Range.length (range : Range) : UInt32 :=
  range.count.toUInt32

theorem Range.length_toNat (range : Range) :
    range.length.toNat = range.count.toNat % 2 ^ 32 :=
  UInt64.toNat_toUInt32 _

/-! ## The operating system -/

/-- The content after bytes have been written, which fills the gap between the
end of the file and their position with zeros. -/
def put (content : List Byte) (position : Nat) (bytes : List Byte) :
    List Byte :=
  if bytes = [] then content
  else
    patch (content ++ List.replicate (position - content.length) 0)
      position bytes

/-- `::GetFileSizeEx`, which succeeds or not. -/
def GetFileSizeEx (file : File) (succeeds : Bool) : Option UInt64 :=
  if succeeds then some (UInt64.ofNat file.content.length) else none

/-- `::ReadFile` fails, or transfers what the system likes of the bytes that are
there, up to the length.  The result is `byteCount`. -/
def ReadFile (file : File) (length : UInt32) (overlapped : OVERLAPPED)
    (reply : Option Nat) : Option Nat :=
  reply.map fun wish =>
    min wish
      (min length.toNat (file.content.length - overlapped.position))

/-- `::WriteFile` fails, or transfers what the system likes of the bytes, up to
the length.  The result is `byteCount`.  Nothing is written behind the end of
the largest file. -/
def WriteFile (length : UInt32) (overlapped : OVERLAPPED)
    (reply : Option Nat) : Option Nat :=
  (reply.map fun wish => min wish length.toNat).filter fun byteCount =>
    byteCount == 0 || decide (overlapped.position + byteCount < 2 ^ 63)

theorem WriteFile_fits
    {length : UInt32} {overlapped : OVERLAPPED} {reply : Option Nat}
    {byteCount : Nat}
    (written : WriteFile length overlapped reply = some byteCount) :
    byteCount = 0 ∨ overlapped.position + byteCount < 2 ^ 63 := by
  rcases Option.filter_eq_some_iff.mp written with ⟨_, fits⟩
  simpa using fits

theorem put_length
    (content : List Byte) (position : Nat) (bytes : List Byte) :
    (put content position bytes).length =
      if bytes = [] then content.length
      else max content.length (position + bytes.length) := by
  rw [put]
  split
  · rfl
  · simp only [patch, List.length_append, List.length_take,
      List.length_drop, List.length_replicate]
    omega

theorem put_getElem?
    (content : List Byte) (position : Nat) (bytes : List Byte)
    {place : Nat}
    (there :
      place < content.length ∨
        position ≤ place ∧ place < position + bytes.length) :
    (put content position bytes)[place]? =
      if position ≤ place ∧ place < position + bytes.length then
        bytes[place - position]?
      else content[place]? := by
  rw [put]
  split
  case isTrue nothing =>
    rw [nothing, List.length_nil, Nat.add_zero, if_neg (by omega)]
  case isFalse =>
    have reaches :
        position ≤
          (content ++
            List.replicate (position - content.length) 0).length := by
      rw [List.length_append, List.length_replicate]
      omega
    rw [patch_getElem? bytes reaches]
    split
    case isTrue => rfl
    case isFalse apart =>
      rw [List.getElem?_append_left (there.resolve_right apart)]

/-- The gap is filled with zeros. -/
theorem put_gap
    (content : List Byte) (position : Nat) (bytes : List Byte)
    {place : Nat}
    (there : place < (put content position bytes).length)
    (behind : content.length ≤ place) (before : place < position) :
    (put content position bytes)[place]? = some 0 := by
  rw [put_length] at there
  rw [put]
  split
  case isTrue nothing =>
    rw [if_pos nothing] at there
    exact absurd there (Nat.not_lt.mpr behind)
  case isFalse =>
    have reaches :
        position ≤
          (content ++
            List.replicate (position - content.length) 0).length := by
      rw [List.length_append, List.length_replicate]
      omega
    rw [patch_getElem? bytes reaches, if_neg (by omega),
      List.getElem?_append_right behind,
      List.getElem?_replicate_of_lt (by omega)]

namespace File

/-! ## The calls -/

def getSize (file : File) (succeeds : Bool) : Except Exception UInt64 :=
  match GetFileSizeEx file succeeds with
  | none => .error (IOException "::GetFileSizeEx failed")
  | some size => .ok size

/-- `read`, with what `::GetFileSizeEx` and `::ReadFile` answer. -/
def read (file : File) (access : Access)
    (sized : Bool) (reply : Option Nat) : Except Exception Unit × List Byte :=
  match file.getSize sized with
  | .error exception => (.error exception, access.buffer)
  | .ok size =>
      if access.offset + access.count > size then
        (.error (IOException "End of file"), access.buffer)
      else
        let overlapped := OVERLAPPED.ofOffset access.offset
        match ReadFile file access.length overlapped reply with
        | none => (.error (IOException "::ReadFile failed"), access.buffer)
        | some byteCount =>
            (.ok (),
              access.filled
                (slice file.content overlapped.position byteCount))

/-- The file after a part of the bytes has been written. -/
def stored (file : File) (position : Nat) (bytes : List Byte)
    (byteCount : Nat)
    (fits : byteCount = 0 ∨ position + byteCount < 2 ^ 63) : File where
  content := put file.content position (bytes.take byteCount)
  small := by
    have kept := file.small
    have taken := List.length_take_le byteCount bytes
    rw [put_length]
    split
    · exact kept
    case isFalse some =>
      rcases fits with rfl | fits
      · exact absurd (List.take_zero) some
      · omega

/-- `write`, with what `::WriteFile` answers. -/
def write (file : File) (access : Access)
    (reply : Option Nat) : Except Exception Unit × File :=
  let overlapped := OVERLAPPED.ofOffset access.offset
  match written : WriteFile access.length overlapped reply with
  | none => (.error (IOException "::WriteFile failed"), file)
  | some byteCount =>
      (.ok (),
        file.stored overlapped.position access.bytes byteCount
          (WriteFile_fits written))

/-! ## What calls are to do -/

/-- The buffer has the bytes of the file in the whole range. -/
structure Delivered
    (file : File) (access : Access) (buffer : List Byte) : Prop where
  inside : access.stop ≤ file.content.length
  bytes :
    ∀ index < access.count.toNat,
      buffer[index]? = file.content[access.offset.toNat + index]?

/-- The file has the bytes of the buffer in the whole range, every other byte is
what it was, and there are no more: the file ends where it ended or where the
range does, and between its old end and the range there are zeros. -/
structure Recorded
    (file : File) (access : Access) (after : File) : Prop where
  bytes :
    ∀ index < access.count.toNat,
      after.content[access.offset.toNat + index]? = access.buffer[index]?
  others :
    ∀ position < file.content.length,
      position < access.offset.toNat ∨ access.stop ≤ position →
        after.content[position]? = file.content[position]?
  length :
    after.content.length =
      if access.count = 0 then file.content.length
      else max file.content.length access.stop
  gap :
    ∀ position < after.content.length,
      file.content.length ≤ position → position < access.offset.toNat →
        after.content[position]? = some 0

/-- Whatever the buffer is, `read` throws or fills it. -/
def ReadRight (file : File) (range : Range)
    (sized : Bool) (reply : Option Nat) : Prop :=
  ∀ access : Access, access.toRange = range →
    (file.read access sized reply).1 = .ok () →
      Delivered file access (file.read access sized reply).2

/-- Whatever the buffer is, `write` throws or records it. -/
def WriteRight (file : File) (range : Range) (reply : Option Nat) : Prop :=
  ∀ access : Access, access.toRange = range →
    (file.write access reply).1 = .ok () →
      Recorded file access (file.write access reply).2

/-- Whatever is written and whatever the buffer is into which it is read, it
comes back when neither call throws. -/
def RoundTrip (file : File) (range : Range)
    (written : Option Nat) (sized : Bool) (read : Option Nat) : Prop :=
  ∀ data target : Access, data.toRange = range → target.toRange = range →
    (file.write data written).1 = .ok () →
      ((file.write data written).2.read target sized read).1 = .ok () →
        ∀ index < range.count.toNat,
          ((file.write data written).2.read target sized read).2[index]? =
            data.buffer[index]?

/-- When `read` gets as far as `::ReadFile` and this does not fail, the length
fits into 32 bits and all of it is transferred. -/
def ReadWhole (file : File) (range : Range)
    (sized : Bool) (reply : Option Nat) : Prop :=
  sized = true → range.stop % 2 ^ 64 ≤ file.content.length →
    ∀ byteCount,
      ReadFile file range.length (.ofOffset range.offset) reply =
          some byteCount →
        range.count.toNat < 2 ^ 32 ∧ byteCount = range.length.toNat

/-- When `::WriteFile` does not fail, the length fits into 32 bits and all of it
is transferred. -/
def WriteWhole (range : Range) (reply : Option Nat) : Prop :=
  ∀ byteCount,
    WriteFile range.length (.ofOffset range.offset) reply =
        some byteCount →
      range.count.toNat < 2 ^ 32 ∧ byteCount = range.length.toNat

/-! ## Single calls -/

/-- All of a length that fits is the count. -/
theorem whole_iff
    {range : Range} {byteCount : Nat}
    (limited : byteCount ≤ range.length.toNat) :
    range.count.toNat < 2 ^ 32 ∧ byteCount = range.length.toNat ↔
      range.count.toNat ≤ byteCount := by
  rw [range.length_toNat] at *
  omega

theorem ReadFile_limited
    {file : File} {length : UInt32} {overlapped : OVERLAPPED}
    {reply : Option Nat} {byteCount : Nat}
    (read : ReadFile file length overlapped reply = some byteCount) :
    byteCount ≤ length.toNat ∧
      byteCount ≤ file.content.length - overlapped.position := by
  rcases Option.map_eq_some_iff.mp read with ⟨wish, _, rfl⟩
  omega

theorem WriteFile_limited
    {length : UInt32} {overlapped : OVERLAPPED}
    {reply : Option Nat} {byteCount : Nat}
    (written : WriteFile length overlapped reply = some byteCount) :
    byteCount ≤ length.toNat := by
  rcases Option.filter_eq_some_iff.mp written with ⟨transferred, _⟩
  rcases Option.map_eq_some_iff.mp transferred with ⟨wish, _, rfl⟩
  omega

theorem rangeTest_iff (file : File) (range : Range) :
    range.offset + range.count > UInt64.ofNat file.content.length ↔
      ¬ range.stop % 2 ^ 64 ≤ file.content.length := by
  have small : file.content.length < UInt64.size :=
    file.small.trans (by decide)
  have size :
      (UInt64.ofNat file.content.length).toNat = file.content.length :=
    UInt64.toNat_ofNat_of_lt' small
  rw [gt_iff_lt, UInt64.lt_iff_toNat_lt, range.sum_toNat, size, Nat.not_le]

/-- What a `read` that returns has done. -/
theorem read_returned
    {file : File} {access : Access} {sized : Bool} {reply : Option Nat}
    (returned : (file.read access sized reply).1 = .ok ()) :
    sized = true ∧ access.stop % 2 ^ 64 ≤ file.content.length ∧
      ∃ byteCount,
        ReadFile file access.length (.ofOffset access.offset) reply =
            some byteCount ∧
          (file.read access sized reply).2 =
            access.filled
              (slice file.content access.offset.toNat byteCount) := by
  cases sized with
  | false => cases returned
  | true =>
      have test := rangeTest_iff file access.toRange
      simp only [read, getSize, GetFileSizeEx, if_true] at returned ⊢
      split at returned
      · cases returned
      case isFalse passed =>
        rw [test, not_not] at passed
        refine ⟨trivial, passed, ?_⟩
        cases transferred :
          ReadFile file access.length (.ofOffset access.offset) reply with
        | none =>
            rw [transferred] at returned
            cases returned
        | some byteCount =>
            refine ⟨byteCount, rfl, ?_⟩
            rw [if_neg (by rw [test, not_not]; exact passed),
              OVERLAPPED.ofOffset_position]

/-- What makes `read` return. -/
theorem read_returns
    {file : File} {access : Access} {reply : Option Nat} {byteCount : Nat}
    (passed : access.stop % 2 ^ 64 ≤ file.content.length)
    (transferred :
      ReadFile file access.length (.ofOffset access.offset) reply =
        some byteCount) :
    file.read access true reply =
      (.ok (),
        access.filled
          (slice file.content access.offset.toNat byteCount)) := by
  have test := rangeTest_iff file access.toRange
  simp only [read, getSize, GetFileSizeEx, if_true]
  rw [if_neg (by rw [test, not_not]; exact passed), transferred,
    OVERLAPPED.ofOffset_position]

theorem write_returns
    {file : File} {access : Access} {reply : Option Nat} {byteCount : Nat}
    (transferred :
      WriteFile access.length (.ofOffset access.offset) reply =
        some byteCount) :
    (file.write access reply).1 = .ok () ∧
      (file.write access reply).2.content =
        put file.content access.offset.toNat
          (access.bytes.take byteCount) := by
  rw [write]
  split
  case h_1 failed =>
    rw [transferred] at failed
    cases failed
  case h_2 same =>
    rw [transferred] at same
    cases same
    refine ⟨rfl, ?_⟩
    show put _ (OVERLAPPED.ofOffset access.offset).position _ = _
    rw [OVERLAPPED.ofOffset_position]

theorem write_returned
    {file : File} {access : Access} {reply : Option Nat}
    (returned : (file.write access reply).1 = .ok ()) :
    ∃ byteCount,
      WriteFile access.length (.ofOffset access.offset) reply =
        some byteCount := by
  rw [write] at returned
  split at returned
  case h_1 => cases returned
  case h_2 byteCount transferred => exact ⟨byteCount, transferred⟩

/-! ## Short transfers -/

/-- A buffer that has none of the bytes of the file in the range. -/
def differing (file : File) (range : Range) : Access where
  toRange := range
  buffer :=
    (List.range range.count.toNat).map fun index =>
      file.content.getD (range.offset.toNat + index) 0 + 1
  room := by simp

theorem differing_getElem?
    (file : File) (range : Range) {index : Nat}
    (inside : index < range.count.toNat) :
    (file.differing range).buffer[index]? =
      some (file.content.getD (range.offset.toNat + index) 0 + 1) := by
  simp [differing, inside]

theorem differing_ne
    (file : File) (range : Range) {index : Nat}
    (inside : index < range.count.toNat) :
    (file.differing range).buffer[index]? ≠
      file.content[range.offset.toNat + index]? := by
  rw [file.differing_getElem? range inside, List.getD_eq_getElem?_getD]
  cases file.content[range.offset.toNat + index]? with
  | none => simp
  | some byte => simp

/-- Behind a transfer that was too short the buffer is what it was. -/
theorem read_short
    {file : File} {range : Range} {reply : Option Nat} {byteCount : Nat}
    (passed : range.stop % 2 ^ 64 ≤ file.content.length)
    (transferred :
      ReadFile file range.length (.ofOffset range.offset) reply =
        some byteCount)
    (short : byteCount < range.count.toNat) :
    (file.read (file.differing range) true reply).1 = .ok () ∧
      (file.read (file.differing range) true reply).2[byteCount]? ≠
        file.content[range.offset.toNat + byteCount]? := by
  have returns :=
    @read_returns file (file.differing range) reply byteCount passed
      transferred
  rw [returns]
  refine ⟨rfl, ?_⟩
  have slice_short :
      (slice file.content range.offset.toNat byteCount).length ≤
        byteCount :=
    List.length_take_le _ _
  show ((file.differing range).filled
    (slice file.content range.offset.toNat byteCount))[byteCount]? ≠ _
  rw [Access.filled_getElem?, if_neg (Nat.not_lt.mpr slice_short)]
  exact file.differing_ne range short

theorem readRight_iff
    (file : File) (range : Range) (sized : Bool) (reply : Option Nat) :
    ReadRight file range sized reply ↔ ReadWhole file range sized reply := by
  constructor
  · rintro right rfl passed byteCount transferred
    have limited := (ReadFile_limited transferred).1
    rw [whole_iff limited]
    by_contra short
    rw [Nat.not_le] at short
    rcases read_short passed transferred short with ⟨returned, differs⟩
    have delivered := right (file.differing range) rfl returned
    exact differs (delivered.bytes byteCount short)
  · rintro whole access rfl returned
    rcases read_returned returned with
      ⟨isSized, passed, byteCount, transferred, buffer⟩
    rcases ReadFile_limited transferred with ⟨limited, there⟩
    have complete := whole isSized passed byteCount transferred
    rw [whole_iff limited] at complete
    rw [OVERLAPPED.ofOffset_position] at there
    rw [access.length_toNat] at limited
    have small := access.offset.toNat_lt
    have inside : access.stop ≤ file.content.length := by
      rw [Range.stop] at passed ⊢
      omega
    constructor
    · exact inside
    · intro index among
      have reached : index < byteCount := by omega
      have size :
          (slice file.content access.offset.toNat byteCount).length =
            byteCount := by
        apply slice_length
        rw [Range.stop] at inside
        omega
      rw [buffer, access.filled_getElem?, size, if_pos reached,
        slice_getElem?, if_pos reached]

/-- What was not transferred does not stand in the file. -/
theorem write_short
    {file : File} {range : Range} {reply : Option Nat} {byteCount : Nat}
    (transferred :
      WriteFile range.length (.ofOffset range.offset) reply =
        some byteCount)
    (short : byteCount < range.count.toNat) :
    (file.write (file.differing range) reply).2.content[
        range.offset.toNat + byteCount]? ≠
      (file.differing range).buffer[byteCount]? := by
  have content :=
    (@write_returns file (file.differing range) reply byteCount
      transferred).2
  have size :
      ((file.differing range).bytes.take byteCount).length = byteCount := by
    rw [List.length_take, Access.bytes_length]
    exact Nat.min_eq_left (Nat.le_of_lt short)
  rw [content]
  show (put file.content range.offset.toNat
    _)[range.offset.toNat + byteCount]? ≠ _
  by_cases old :
      range.offset.toNat + byteCount < file.content.length
  · rw [put_getElem? _ _ _ (Or.inl old), size, if_neg (by omega)]
    exact (file.differing_ne range short).symm
  · rw [file.differing_getElem? range short, List.getElem?_eq_none]
    · simp
    · rw [put_length, size]
      split
      · omega
      · omega

/-- Bytes that have all been put into the content are recorded. -/
theorem recorded_put
    {file after : File} {access : Access}
    (content :
      after.content = put file.content access.offset.toNat access.bytes) :
    Recorded file access after where
  bytes := by
    intro index among
    have there :
        access.offset.toNat ≤ access.offset.toNat + index ∧
          access.offset.toNat + index <
            access.offset.toNat + access.bytes.length := by
      rw [access.bytes_length]
      omega
    rw [content, put_getElem? _ _ _ (Or.inr there), if_pos there,
      Nat.add_sub_cancel_left, Access.bytes_getElem? among]
  others := by
    intro position old apart
    have outside :
        ¬ (access.offset.toNat ≤ position ∧
          position < access.offset.toNat + access.bytes.length) := by
      rw [access.bytes_length, ← Range.stop]
      omega
    rw [content, put_getElem? _ _ _ (Or.inl old), if_neg outside]
  length := by
    have nothing : access.bytes = [] ↔ access.count = 0 := by
      rw [← List.length_eq_zero_iff, access.bytes_length, ← UInt64.toNat_inj]
      rfl
    rw [content, put_length, access.bytes_length, Range.stop]
    simp only [nothing]
  gap := by
    intro position inside behind before
    rw [content] at inside ⊢
    exact put_gap _ _ _ inside behind before

theorem writeRight_iff
    (file : File) (range : Range) (reply : Option Nat) :
    WriteRight file range reply ↔ WriteWhole range reply := by
  constructor
  · intro right byteCount transferred
    rw [whole_iff (WriteFile_limited transferred)]
    by_contra short
    rw [Nat.not_le] at short
    have returned :=
      (@write_returns file (file.differing range) reply byteCount
        transferred).1
    have recorded := right (file.differing range) rfl returned
    exact write_short transferred short (recorded.bytes byteCount short)
  · rintro whole access rfl returned
    rcases write_returned returned with ⟨byteCount, transferred⟩
    have content :=
      (@write_returns file access reply byteCount transferred).2
    have complete := whole byteCount transferred
    rw [whole_iff (WriteFile_limited transferred)] at complete
    have all : access.bytes.take byteCount = access.bytes :=
      List.take_of_length_le (access.bytes_length.trans_le complete)
    rw [all] at content
    exact recorded_put content

/-- After a write that is right, reading comes to reading what was written. -/
theorem roundTrip_iff
    {file : File} {range : Range} {written : Option Nat}
    (right : WriteRight file range written)
    (sized : Bool) (reply : Option Nat) :
    RoundTrip file range written sized reply ↔
      ∀ data : Access, data.toRange = range →
        (file.write data written).1 = .ok () →
          ReadWhole (file.write data written).2 range sized reply := by
  constructor
  · rintro comesBack data rfl isWritten rfl passed byteCount transferred
    have recorded := right data rfl isWritten
    rw [whole_iff (ReadFile_limited transferred).1]
    by_contra short
    rw [Nat.not_le] at short
    rcases read_short passed transferred short with ⟨returned, differs⟩
    have same :=
      comesBack data (differing _ data.toRange) rfl rfl isWritten returned
        byteCount short
    rw [recorded.bytes byteCount short] at differs
    exact differs same
  · rintro whole data target rfl sameRange isWritten returned index among
    have recorded := right data rfl isWritten
    have readRight := (readRight_iff _ _ _ _).mpr (whole data rfl isWritten)
    have delivered := readRight target sameRange returned
    have bytes := delivered.bytes index (by rw [sameRange]; exact among)
    rw [bytes, sameRange, recorded.bytes index among]

/--
Reads fill the buffer, writes record it and what is written comes back, in
every call that does not throw, exactly if lengths fit into 32 bits and the
operating system transfers all of them.
-/
theorem calls_right_iff
    (file : File) (range : Range)
    (sized : Bool) (read written : Option Nat)
    (sizedAfter : Bool) (readAfter : Option Nat) :
    (ReadRight file range sized read ∧
        WriteRight file range written ∧
        RoundTrip file range written sizedAfter readAfter) ↔
      (ReadWhole file range sized read ∧
        WriteWhole range written ∧
        ∀ data : Access, data.toRange = range →
          (file.write data written).1 = .ok () →
            ReadWhole (file.write data written).2 range sizedAfter
              readAfter) := by
  rw [← readRight_iff, ← writeRight_iff file]
  constructor
  · rintro ⟨reads, writes, comesBack⟩
    exact ⟨reads, writes, (roundTrip_iff writes _ _).mp comesBack⟩
  · rintro ⟨reads, writes, whole⟩
    exact ⟨reads, writes, (roundTrip_iff writes _ _).mpr whole⟩

/-- A file of four bytes. -/
def fourBytes : File where
  content := [1, 2, 3, 4]
  small := by decide

/-- Four gigabytes are written by a transfer of nothing.  Of two bytes that are
there one is read, and of one byte at the last offset of all none is. -/
theorem calls_return_short :
    ¬ WriteRight fourBytes ⟨0x100000000, 0⟩ (some 0x100000000) ∧
      ¬ ReadRight fourBytes ⟨2, 0⟩ true (some 1) ∧
      ¬ ReadRight fourBytes ⟨1, 0xFFFFFFFFFFFFFFFF⟩ true (some 1) := by
  refine ⟨?_, ?_, ?_⟩
  · rw [writeRight_iff]
    intro whole
    exact absurd (whole 0 rfl).1 (by decide)
  · rw [readRight_iff]
    intro whole
    exact absurd (whole rfl (by decide) 1 rfl).2 (by decide)
  · rw [readRight_iff]
    intro whole
    exact absurd (whole rfl (by decide) 0 rfl).2 (by decide)

end File

end Netycat.Filesystem
