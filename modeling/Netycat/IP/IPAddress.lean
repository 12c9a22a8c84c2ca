import Mathlib.Tactic.Common

/-!
# IP addresses

`IPv4Address` keeps four bytes and `IPv6Address` sixteen bytes with a scope.
`IPAddress` is the tagged union of the two; its tag is the constructor, so the
checked accessors of the source are the pattern matches of the model.
-/

namespace Netycat.IP

/-- Four bytes, the most significant first. -/
structure IPv4Address where
  data : Vector UInt8 4
deriving DecidableEq, Repr

namespace IPv4Address

/-- The constructor from a `std::uint32_t`. -/
def ofUInt32 (value : UInt32) : IPv4Address where
  data :=
    #v[(value >>> 24).toUInt8, (value >>> 16).toUInt8,
      (value >>> 8).toUInt8, value.toUInt8]

/-- The conversion operator to `std::uint32_t`. -/
def toUInt32 (address : IPv4Address) : UInt32 :=
  (address.data[0].toUInt32 <<< 24) |||
    (address.data[1].toUInt32 <<< 16) |||
    (address.data[2].toUInt32 <<< 8) |||
    address.data[3].toUInt32

@[simp]
theorem toUInt32_ofUInt32 (value : UInt32) :
    (ofUInt32 value).toUInt32 = value := by
  apply UInt32.toBitVec_inj.mp
  ext index inside
  simp [toUInt32, ofUInt32, -UInt32.toUInt32_toUInt8,
    UInt32.toBitVec_toUInt8]
  grind

/-- Four bytes put into one number are found there again. -/
theorem bytes_of_shifts (a b c d : UInt8) :
    let value :=
      (a.toUInt32 <<< 24) ||| (b.toUInt32 <<< 16) |||
        (c.toUInt32 <<< 8) ||| d.toUInt32
    (value >>> 24).toUInt8 = a ∧ (value >>> 16).toUInt8 = b ∧
      (value >>> 8).toUInt8 = c ∧ value.toUInt8 = d := by
  refine ⟨?_, ?_, ?_, ?_⟩
  all_goals
    apply UInt8.toBitVec_inj.mp
    ext index inside
    simp [UInt32.toBitVec_toUInt8] <;> grind

@[simp]
theorem ofUInt32_toUInt32 (address : IPv4Address) :
    ofUInt32 address.toUInt32 = address := by
  cases address with
  | mk data =>
      have bytes := bytes_of_shifts data[0] data[1] data[2] data[3]
      rw [ofUInt32, mk.injEq]
      refine Vector.ext fun index inside => ?_
      match index with
      | 0 => exact bytes.1
      | 1 => exact bytes.2.1
      | 2 => exact bytes.2.2.1
      | 3 => exact bytes.2.2.2

end IPv4Address

/-- Sixteen bytes and the scope identifier. -/
structure IPv6Address where
  data : Vector UInt8 16
  scope : UInt32
deriving DecidableEq, Repr

/-- An address of either family. -/
inductive IPAddress where
  | IPv4 (v4 : IPv4Address)
  | IPv6 (v6 : IPv6Address)
deriving DecidableEq, Repr

end Netycat.IP
