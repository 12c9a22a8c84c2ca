import Netycat.Corecat
import Netycat.Lib.Region
import Mathlib.Data.UInt

/-!
# Accesses to a data view

`File` and `MappedFile` implement the interface of a data view: `read` fills the
first `count` bytes of a buffer from the positions at `offset`, `write` stores
them there.  The caller passes a buffer that has `count` bytes.
-/

namespace Netycat.Filesystem

abbrev Byte := UInt8

/-- The stretch of positions that `read` and `write` are given. -/
structure Range where
  count : UInt64
  offset : UInt64
deriving DecidableEq, Repr

/-- The position behind the last one, over the integers. -/
def Range.stop (range : Range) : Nat :=
  range.offset.toNat + range.count.toNat

/-- The sum that the range tests of `read` and `write` compute. -/
theorem Range.sum_toNat (range : Range) :
    (range.offset + range.count).toNat = range.stop % 2 ^ 64 :=
  UInt64.toNat_add _ _

/-- The arguments of `read` and `write`, with what the buffer contains. -/
structure Access extends Range where
  buffer : List Byte
  room : count.toNat ≤ buffer.length
deriving DecidableEq, Repr

namespace Access

/-- The bytes that a write is to store. -/
def bytes (access : Access) : List Byte :=
  access.buffer.take access.count.toNat

theorem bytes_length (access : Access) :
    access.bytes.length = access.count.toNat := by
  rw [bytes, List.length_take, Nat.min_eq_left access.room]

theorem bytes_getElem?
    {access : Access} {index : Nat}
    (inside : index < access.count.toNat) :
    access.bytes[index]? = access.buffer[index]? := by
  rw [bytes, List.getElem?_take, if_pos inside]

/-- The buffer after other bytes have been copied to its front. -/
def filled (access : Access) (bytes : List Byte) : List Byte :=
  Region.patch access.buffer 0 bytes

theorem filled_getElem?
    (access : Access) (bytes : List Byte) (index : Nat) :
    (access.filled bytes)[index]? =
      if index < bytes.length then bytes[index]?
      else access.buffer[index]? := by
  rw [filled, Region.patch_getElem? _ (Nat.zero_le _)]
  simp only [Nat.zero_le, true_and, Nat.zero_add, Nat.sub_zero]

end Access

/-- A call on a data view. -/
inductive Call where
  | read (access : Access)
  | write (access : Access)
deriving DecidableEq, Repr

end Netycat.Filesystem
