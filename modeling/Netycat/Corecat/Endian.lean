import Mathlib.Tactic.Common

/-!
# Corecat's byte order conversions

`convertNativeToBig` and `convertBigToNative` belong to Corecat and are taken
as parameters.  On a little-endian host both reverse the bytes of their
argument; that is what the structure below records for the two widths that the
code uses, and the swap itself is its instance.
-/

namespace Netycat.Corecat

/-- Exchange the two bytes. -/
def byteSwap16 (value : UInt16) : UInt16 :=
  (value.toUInt8.toUInt16 <<< 8) ||| (value >>> 8).toUInt8.toUInt16

/-- Reverse the four bytes. -/
def byteSwap32 (value : UInt32) : UInt32 :=
  (value.toUInt8.toUInt32 <<< 24) |||
    ((value >>> 8).toUInt8.toUInt32 <<< 16) |||
    ((value >>> 16).toUInt8.toUInt32 <<< 8) |||
    (value >>> 24).toUInt8.toUInt32

@[simp]
theorem byteSwap16_byteSwap16 (value : UInt16) :
    byteSwap16 (byteSwap16 value) = value := by
  apply UInt16.toBitVec_inj.mp
  ext index inside
  simp [byteSwap16, -UInt16.toUInt16_toUInt8, UInt16.toBitVec_toUInt8]
  grind

@[simp]
theorem byteSwap32_byteSwap32 (value : UInt32) :
    byteSwap32 (byteSwap32 value) = value := by
  apply UInt32.toBitVec_inj.mp
  ext index inside
  simp [byteSwap32, -UInt32.toUInt32_toUInt8, UInt32.toBitVec_toUInt8]
  grind

/-- The conversions of a little-endian host. -/
structure Endian where
  convertNativeToBig16 : UInt16 → UInt16
  convertBigToNative16 : UInt16 → UInt16
  convertNativeToBig32 : UInt32 → UInt32
  convertBigToNative32 : UInt32 → UInt32
  nativeToBig16_eq : ∀ value, convertNativeToBig16 value = byteSwap16 value
  bigToNative16_eq : ∀ value, convertBigToNative16 value = byteSwap16 value
  nativeToBig32_eq : ∀ value, convertNativeToBig32 value = byteSwap32 value
  bigToNative32_eq : ∀ value, convertBigToNative32 value = byteSwap32 value

attribute [simp] Endian.nativeToBig16_eq Endian.bigToNative16_eq
  Endian.nativeToBig32_eq Endian.bigToNative32_eq

/-- The byte swaps are such conversions. -/
def Endian.swap : Endian where
  convertNativeToBig16 := byteSwap16
  convertBigToNative16 := byteSwap16
  convertNativeToBig32 := byteSwap32
  convertBigToNative32 := byteSwap32
  nativeToBig16_eq := fun _ => rfl
  bigToNative16_eq := fun _ => rfl
  nativeToBig32_eq := fun _ => rfl
  bigToNative32_eq := fun _ => rfl

end Netycat.Corecat
