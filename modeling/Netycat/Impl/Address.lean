import Netycat.Corecat
import Netycat.Corecat.Endian
import Netycat.IP.IPAddress

/-!
# Socket addresses of the operating system

A `sockaddr` is read through the structure its `sa_family` selects, so it is
modelled as a union discriminated by the family.  Fields hold the number that
the host reads from the field: the network-order fields are converted with
Corecat's functions where the code converts them.

Both functions write through references and leave them alone on failure; they
return the new values of what they may write.
-/

namespace Netycat.Impl

open Netycat.Corecat Netycat.IP

def AF_INET : UInt16 := 2

def AF_INET6 : UInt16 := 23

/-- `sockaddr_in` without its family. -/
structure SockaddrIn where
  sin_port : UInt16
  sin_addr : UInt32
  sin_zero : Vector UInt8 8
deriving DecidableEq, Repr

/-- `sockaddr_in6` without its family. -/
structure SockaddrIn6 where
  sin6_port : UInt16
  sin6_flowinfo : UInt32
  sin6_addr : Vector UInt8 16
  sin6_scope_id : UInt32
deriving DecidableEq, Repr

/-- A socket address, read as its family says. -/
inductive Sockaddr where
  | inet (saddr4 : SockaddrIn)
  | inet6 (saddr6 : SockaddrIn6)
  | other (family : UInt16)
      (unknown : family ≠ AF_INET ∧ family ≠ AF_INET6)
deriving DecidableEq, Repr

/-- `sa_family`. -/
def Sockaddr.family : Sockaddr → UInt16
  | .inet _ => AF_INET
  | .inet6 _ => AF_INET6
  | .other family _ => family

/-- The contents of a buffer that nothing has been written to. -/
def Sockaddr.unset : Sockaddr := .other 0 (by decide)

/-- The structure sizes in bytes. -/
def sizeofSockaddr : Int := 16

def sizeofSockaddrIn : Int := 16

def sizeofSockaddrIn6 : Int := 28

def sizeofSockaddrStorage : Int := 128

/-- The size of the structure that a family selects. -/
def Sockaddr.size : Sockaddr → Int
  | .inet _ => sizeofSockaddrIn
  | .inet6 _ => sizeofSockaddrIn6
  | .other _ _ => sizeofSockaddr

variable (endian : Endian)

/-- What `fromSockaddr` leaves in its output parameters. -/
structure FromSockaddr where
  address : IPAddress
  port : UInt16
  e : ExceptionPtr
deriving DecidableEq, Repr

/-- `Impl::fromSockaddr`. -/
def fromSockaddr
    (saddr : Sockaddr) (saddrSize : Int)
    (address : IPAddress) (port : UInt16) (e : ExceptionPtr) :
    FromSockaddr :=
  if saddrSize < sizeofSockaddr then
    ⟨address, port,
      some (InvalidArgumentException "Invalid sockaddr size")⟩
  else
    match saddr with
    | .inet saddr4 =>
        if saddrSize < sizeofSockaddrIn then
          ⟨address, port,
            some (InvalidArgumentException "Invalid sockaddr size")⟩
        else
          ⟨.IPv4 (IPv4Address.ofUInt32
              (endian.convertBigToNative32 saddr4.sin_addr)),
            endian.convertBigToNative16 saddr4.sin_port, e⟩
    | .inet6 saddr6 =>
        if saddrSize < sizeofSockaddrIn6 then
          ⟨address, port,
            some (InvalidArgumentException "Invalid sockaddr size")⟩
        else
          ⟨.IPv6 ⟨saddr6.sin6_addr,
              endian.convertBigToNative32 saddr6.sin6_scope_id⟩,
            endian.convertBigToNative16 saddr6.sin6_port, e⟩
    | .other _ _ =>
        ⟨address, port,
          some (InvalidArgumentException "Invalid address type")⟩

/-- What `toSockaddr` leaves in its output parameters. -/
structure ToSockaddr where
  saddr : Sockaddr
  saddrSize : Int
  e : ExceptionPtr
deriving DecidableEq, Repr

/-- `Impl::toSockaddr`; `saddrSize` is the capacity of the buffer on entry. -/
def toSockaddr
    (saddr : Sockaddr) (saddrSize : Int)
    (address : IPAddress) (port : UInt16) (e : ExceptionPtr) :
    ToSockaddr :=
  match address with
  | .IPv4 v4 =>
      if saddrSize < sizeofSockaddrIn then
        ⟨saddr, saddrSize,
          some (InvalidArgumentException "Invalid sockaddr size")⟩
      else
        ⟨.inet
          { sin_port := endian.convertNativeToBig16 port
            sin_addr := endian.convertNativeToBig32 v4.toUInt32
            sin_zero := Vector.replicate 8 0 },
          sizeofSockaddrIn, e⟩
  | .IPv6 v6 =>
      if saddrSize < sizeofSockaddrIn6 then
        ⟨saddr, saddrSize,
          some (InvalidArgumentException "Invalid sockaddr size")⟩
      else
        ⟨.inet6
          { sin6_port := endian.convertNativeToBig16 port
            sin6_flowinfo := 0
            sin6_addr := v6.data
            sin6_scope_id := endian.convertNativeToBig32 v6.scope },
          sizeofSockaddrIn6, e⟩

/-! ## The two functions as a codec -/

/-- The size of the structure that holds an address. -/
def sockaddrSize : IPAddress → Int
  | .IPv4 _ => sizeofSockaddrIn
  | .IPv6 _ => sizeofSockaddrIn6

/-- A `sockaddr_storage` has room for either family. -/
theorem sockaddrSize_le_storage (address : IPAddress) :
    sockaddrSize address ≤ sizeofSockaddrStorage := by
  cases address with
  | IPv4 v4 | IPv6 v6 => exact of_decide_eq_true rfl

/-- `fromSockaddr` knows the family, and the structure fits in the size. -/
def Sockaddr.Accepted (saddrSize : Int) : Sockaddr → Prop
  | .inet _ => sizeofSockaddrIn ≤ saddrSize
  | .inet6 _ => sizeofSockaddrIn6 ≤ saddrSize
  | .other _ _ => False

/-- The fields that no address is stored in are zero. -/
def Sockaddr.ZeroFilled : Sockaddr → Prop
  | .inet saddr4 => saddr4.sin_zero = Vector.replicate 8 0
  | .inet6 saddr6 => saddr6.sin6_flowinfo = 0
  | .other _ _ => True

/-- The address and the port that a structure holds. -/
def Sockaddr.decoded : Sockaddr → Option (IPAddress × UInt16)
  | .inet saddr4 =>
      some (.IPv4 (IPv4Address.ofUInt32
          (endian.convertBigToNative32 saddr4.sin_addr)),
        endian.convertBigToNative16 saddr4.sin_port)
  | .inet6 saddr6 =>
      some (.IPv6 ⟨saddr6.sin6_addr,
          endian.convertBigToNative32 saddr6.sin6_scope_id⟩,
        endian.convertBigToNative16 saddr6.sin6_port)
  | .other _ _ => none

/-- The structure an address and a port are written as. -/
def encoded (address : IPAddress) (port : UInt16) : Sockaddr :=
  match address with
  | .IPv4 v4 =>
      .inet
        { sin_port := endian.convertNativeToBig16 port
          sin_addr := endian.convertNativeToBig32 v4.toUInt32
          sin_zero := Vector.replicate 8 0 }
  | .IPv6 v6 =>
      .inet6
        { sin6_port := endian.convertNativeToBig16 port
          sin6_flowinfo := 0
          sin6_addr := v6.data
          sin6_scope_id := endian.convertNativeToBig32 v6.scope }

theorem fromSockaddr_accepted
    {saddr : Sockaddr} {saddrSize : Int}
    (accepted : saddr.Accepted saddrSize)
    (address : IPAddress) (port : UInt16) (e : ExceptionPtr) :
    ∃ address' port',
      saddr.decoded endian = some (address', port') ∧
        fromSockaddr endian saddr saddrSize address port e =
          ⟨address', port', e⟩ := by
  cases saddr with
  | inet saddr4 =>
      have large : ¬ saddrSize < sizeofSockaddrIn := Int.not_lt.mpr accepted
      exact ⟨_, _, rfl, (if_neg large).trans (if_neg large)⟩
  | inet6 saddr6 =>
      have large : ¬ saddrSize < sizeofSockaddrIn6 := Int.not_lt.mpr accepted
      have header : ¬ saddrSize < sizeofSockaddr := fun small =>
        large (Int.lt_trans small (by decide))
      exact ⟨_, _, rfl, (if_neg header).trans (if_neg large)⟩
  | other family unknown => exact accepted.elim

theorem fromSockaddr_rejected
    {saddr : Sockaddr} {saddrSize : Int}
    (rejected : ¬ saddr.Accepted saddrSize)
    (address : IPAddress) (port : UInt16) (e : ExceptionPtr) :
    ∃ message,
      fromSockaddr endian saddr saddrSize address port e =
        ⟨address, port, some (InvalidArgumentException message)⟩ := by
  by_cases header : saddrSize < sizeofSockaddr
  · exact ⟨_, if_pos header⟩
  · cases saddr with
    | inet saddr4 | inet6 saddr6 =>
        have small := Int.not_le.mp rejected
        exact ⟨_, (if_neg header).trans (if_pos small)⟩
    | other family unknown => exact ⟨_, if_neg header⟩

theorem toSockaddr_fits
    {saddrSize : Int} {address : IPAddress}
    (fits : sockaddrSize address ≤ saddrSize)
    (saddr : Sockaddr) (port : UInt16) (e : ExceptionPtr) :
    toSockaddr endian saddr saddrSize address port e =
      ⟨encoded endian address port, sockaddrSize address, e⟩ := by
  cases address with
  | IPv4 v4 | IPv6 v6 => exact if_neg (Int.not_lt.mpr fits)

theorem toSockaddr_short
    {saddrSize : Int} {address : IPAddress}
    (short : saddrSize < sockaddrSize address)
    (saddr : Sockaddr) (port : UInt16) (e : ExceptionPtr) :
    ∃ message,
      toSockaddr endian saddr saddrSize address port e =
        ⟨saddr, saddrSize, some (InvalidArgumentException message)⟩ := by
  cases address with
  | IPv4 v4 | IPv6 v6 => exact ⟨_, if_pos short⟩

@[simp]
theorem decoded_encoded (address : IPAddress) (port : UInt16) :
    (encoded endian address port).decoded endian =
      some (address, port) := by
  cases address with
  | IPv4 v4 | IPv6 v6 => simp [encoded, Sockaddr.decoded]

/-- What is written is accepted with the size that is returned with it. -/
theorem encoded_accepted (address : IPAddress) (port : UInt16) :
    (encoded endian address port).Accepted (sockaddrSize address) := by
  cases address with
  | IPv4 v4 | IPv6 v6 => exact Int.le_refl _

/-- A structure is the encoding of what it holds. -/
theorem encoded_decoded
    {saddr : Sockaddr} {address : IPAddress} {port : UInt16}
    (holds : saddr.decoded endian = some (address, port))
    (zeroFilled : saddr.ZeroFilled) :
    encoded endian address port = saddr ∧
      sockaddrSize address = saddr.size := by
  cases saddr with
  | inet saddr4 =>
      obtain ⟨rfl, rfl⟩ := Prod.mk.inj (Option.some.inj holds)
      refine ⟨?_, rfl⟩
      simp [encoded, ← show _ = _ from zeroFilled]
  | inet6 saddr6 =>
      obtain ⟨rfl, rfl⟩ := Prod.mk.inj (Option.some.inj holds)
      refine ⟨?_, rfl⟩
      simp [encoded, ← show _ = _ from zeroFilled]
  | other family unknown => cases holds

/--
The two functions invert each other.  Whatever `toSockaddr` writes into a buffer
that is large enough, `fromSockaddr` reads back; whatever `fromSockaddr` accepts
with zero padding and flow information, `toSockaddr` writes again.  Where one of
them fails it reports an `InvalidArgumentException` and leaves its outputs.
-/
theorem sockaddr_roundTrip :
    (∀ (saddr : Sockaddr) (saddrSize : Int)
        (address : IPAddress) (port : UInt16),
        sockaddrSize address ≤ saddrSize →
          ∃ written,
            toSockaddr endian saddr saddrSize address port none =
                ⟨written, sockaddrSize address, none⟩ ∧
              ∀ oldAddress oldPort,
                fromSockaddr endian written (sockaddrSize address)
                    oldAddress oldPort none =
                  ⟨address, port, none⟩) ∧
      (∀ (saddr : Sockaddr) (saddrSize : Int)
          (oldAddress : IPAddress) (oldPort : UInt16)
          (address : IPAddress) (port : UInt16),
          saddr.ZeroFilled →
            fromSockaddr endian saddr saddrSize oldAddress oldPort none =
                ⟨address, port, none⟩ →
              ∀ buffer capacity,
                saddr.size ≤ capacity →
                  toSockaddr endian buffer capacity address port none =
                    ⟨saddr, saddr.size, none⟩) ∧
      (∀ (saddr : Sockaddr) (saddrSize : Int)
          (address : IPAddress) (port : UInt16) (e : ExceptionPtr),
          (saddr.Accepted saddrSize →
              (fromSockaddr endian saddr saddrSize address port e).e = e) ∧
            (¬ saddr.Accepted saddrSize →
              ∃ message,
                fromSockaddr endian saddr saddrSize address port e =
                  ⟨address, port,
                    some (InvalidArgumentException message)⟩)) ∧
      (∀ (saddr : Sockaddr) (saddrSize : Int)
          (address : IPAddress) (port : UInt16) (e : ExceptionPtr),
          saddrSize < sockaddrSize address →
            ∃ message,
              toSockaddr endian saddr saddrSize address port e =
                ⟨saddr, saddrSize,
                  some (InvalidArgumentException message)⟩) := by
  refine ⟨?_, ?_, ?_, ?_⟩
  · intro saddr saddrSize address port fits
    refine
      ⟨encoded endian address port,
        toSockaddr_fits endian fits saddr port none, ?_⟩
    intro oldAddress oldPort
    rcases fromSockaddr_accepted endian
        (encoded_accepted endian address port) oldAddress oldPort none with
      ⟨address', port', holds, reads⟩
    rw [decoded_encoded, Option.some.injEq, Prod.mk.injEq] at holds
    rw [reads, holds.1, holds.2]
  · intro saddr saddrSize oldAddress oldPort address port zeroFilled reads
      buffer capacity fits
    by_cases accepted : saddr.Accepted saddrSize
    · rcases fromSockaddr_accepted endian accepted oldAddress oldPort none
        with ⟨address', port', holds, reads'⟩
      rw [reads, FromSockaddr.mk.injEq] at reads'
      rw [← reads'.1, ← reads'.2.1] at holds
      rcases encoded_decoded endian holds zeroFilled with ⟨same, sameSize⟩
      rw [← sameSize] at fits ⊢
      rw [toSockaddr_fits endian fits, same]
    · rcases fromSockaddr_rejected endian accepted oldAddress oldPort none
        with ⟨message, fails⟩
      rw [reads] at fails
      cases fails
  · intro saddr saddrSize address port e
    constructor
    · intro accepted
      rcases fromSockaddr_accepted endian accepted address port e with
        ⟨address', port', holds, reads⟩
      rw [reads]
    · intro rejected
      exact fromSockaddr_rejected endian rejected address port e
  · intro saddr saddrSize address port e short
    exact toSockaddr_short endian short saddr port e

/-- A scoped address and a port through a buffer of the right size and back,
and sizes that are one byte too small for them. -/
theorem sockaddr_roundTrip_linkLocal :
    ∃ v6 : IPv6Address,
      v6.scope = 7 ∧
        (∃ written,
          toSockaddr .swap .unset 28 (.IPv6 v6) 8080 none =
              ⟨written, 28, none⟩ ∧
            fromSockaddr .swap written 28 (.IPv6 v6) 0 none =
              ⟨.IPv6 v6, 8080, none⟩ ∧
            toSockaddr .swap .unset 128 (.IPv6 v6) 8080 none =
              ⟨written, 28, none⟩ ∧
            ∃ message,
              fromSockaddr .swap written 27 (.IPv6 v6) 0 none =
                ⟨.IPv6 v6, 0, some (InvalidArgumentException message)⟩) ∧
        ∃ message,
          toSockaddr .swap .unset 27 (.IPv6 v6) 8080 none =
            ⟨.unset, 27, some (InvalidArgumentException message)⟩ := by
  have laws := sockaddr_roundTrip .swap
  let v6 : IPv6Address := ⟨Vector.replicate 16 0xFE, 7⟩
  refine ⟨v6, rfl, ?_, ?_⟩
  · rcases laws.1 .unset 28 (.IPv6 v6) 8080 (by decide) with
      ⟨written, writes, reads⟩
    have read := reads (.IPv6 v6) 0
    have zeroFilled : written.ZeroFilled := by
      obtain rfl := (ToSockaddr.mk.inj writes).1
      rfl
    have size : written.size = 28 := by
      obtain rfl := (ToSockaddr.mk.inj writes).1
      rfl
    have again :=
      laws.2.1 written 28 (.IPv6 v6) 0 (.IPv6 v6) 8080 zeroFilled read .unset
        128 (by rw [size]; decide)
    rw [size] at again
    have rejected : ¬ written.Accepted 27 := by
      obtain rfl := (ToSockaddr.mk.inj writes).1
      exact Int.not_le.mpr (show (27 : Int) < 28 by decide)
    have fails :=
      (laws.2.2.1 written 27 (.IPv6 v6) 0 none).2 rejected
    exact ⟨written, writes, read, again, fails⟩
  · exact laws.2.2.2 .unset 27 (.IPv6 v6) 8080 none (by decide)

end Netycat.Impl
