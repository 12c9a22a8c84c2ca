import Mathlib.Data.List.Forall2
import Netycat.Impl.Address

/-!
# `IPResolver::resolve`

The resolver walks the list that `GetAddrInfoW` returns and decodes the socket
addresses itself, next to the decoder `fromSockaddr` of the connection code.
The IPv4 parts of the two agree.  For IPv6 the resolver keeps `sin6_scope_id`
as it finds it while `fromSockaddr` and `toSockaddr` convert it, so a resolved
address stands for the given one exactly when its scope reads the same in both
byte orders.
-/

namespace Netycat.IP

open Netycat.Corecat Netycat.Impl

/-- An entry of the list; the family is that of the address it points to. -/
structure AddrInfo where
  ai_addr : Sockaddr
deriving DecidableEq, Repr

def AddrInfo.ai_family (entry : AddrInfo) : UInt16 :=
  entry.ai_addr.family

namespace IPResolver

variable (endian : Endian)

/-- One round of the loop: the address it appends, if any. -/
def resolveEntry (entry : AddrInfo) : Option IPAddress :=
  match entry.ai_addr with
  | .inet saddr4 =>
      some (.IPv4 (IPv4Address.ofUInt32
        (endian.convertBigToNative32 saddr4.sin_addr)))
  | .inet6 saddr6 =>
      some (.IPv6 ⟨saddr6.sin6_addr, saddr6.sin6_scope_id⟩)
  | .other _ _ => none

/--
`IPResolver::resolve(name, e)`; `lookup` is what `GetAddrInfoW` returns for the
name, an error code or the list of entries.
-/
def resolve (lookup : Except Int (List AddrInfo)) (e : ExceptionPtr) :
    List IPAddress × ExceptionPtr :=
  match lookup with
  | .error _ => ([], some (IOException "::GetAddrInfoW failed"))
  | .ok result =>
      let addressList := result.filterMap (resolveEntry endian)
      if addressList.isEmpty then
        ([], some (IOException "No address available for name"))
      else (addressList, e)

/-! ## The other decoder and the encoder on the same entries -/

/-- An entry of a family that addresses are made of. -/
def Usable (entry : AddrInfo) : Prop :=
  entry.ai_family = AF_INET ∨ entry.ai_family = AF_INET6

instance (entry : AddrInfo) : Decidable (Usable entry) :=
  inferInstanceAs (Decidable (_ ∨ _))

/-- The usable entries, empty when the lookup failed. -/
def usable (lookup : Except Int (List AddrInfo)) : List AddrInfo :=
  match lookup with
  | .error _ => []
  | .ok result => result.filter fun entry => decide (Usable entry)

/-- What `fromSockaddr` makes of an entry, whatever it is given to write to. -/
def decoded (address : IPAddress) (port : UInt16) (entry : AddrInfo) :
    FromSockaddr :=
  fromSockaddr endian entry.ai_addr entry.ai_addr.size address port none

/-- Two socket addresses of one family with the same bytes and scope field. -/
def SameHost : Sockaddr → Sockaddr → Prop
  | .inet left, .inet right => left.sin_addr = right.sin_addr
  | .inet6 left, .inet6 right =>
      left.sin6_addr = right.sin6_addr ∧
        left.sin6_scope_id = right.sin6_scope_id
  | _, _ => False

/-- Encoding the address succeeds and gives back the host of the entry. -/
def Reproduces (entry : AddrInfo) (address : IPAddress) : Prop :=
  ∀ port,
    (toSockaddr endian .unset sizeofSockaddrStorage address port none).e =
        none ∧
      SameHost entry.ai_addr
        (toSockaddr endian .unset sizeofSockaddrStorage address port
          none).saddr

/--
What a caller relies on: the result lists what `fromSockaddr` decodes from the
usable entries, connecting to a result uses the socket address that was
given, and `e` is set exactly when there is no usable entry.
-/
structure Faithful (lookup : Except Int (List AddrInfo)) : Prop where
  decodes :
    ∀ address port,
      (resolve endian lookup none).1 =
        (usable lookup).map fun entry =>
          (decoded endian address port entry).address
  reproduces :
    List.Forall₂ (Reproduces endian) (usable lookup)
      (resolve endian lookup none).1
  reports :
    (resolve endian lookup none).2.isSome = true ↔ usable lookup = []

/-- The scope field, if there is one, reads the same in both byte orders. -/
def ScopeIsPalindrome (entry : AddrInfo) : Prop :=
  ∀ saddr6, entry.ai_addr = .inet6 saddr6 →
    byteSwap32 saddr6.sin6_scope_id = saddr6.sin6_scope_id

theorem usable_of_resolveEntry {entry : AddrInfo} :
    (resolveEntry endian entry).isSome = true ↔ Usable entry := by
  rw [resolveEntry, Usable, AddrInfo.ai_family]
  cases entry.ai_addr with
  | inet saddr4 => simp [Sockaddr.family]
  | inet6 saddr6 => simp [Sockaddr.family]
  | other family unknown => simp [Sockaddr.family, unknown]

/-- The address the resolver makes of a usable entry. -/
theorem resolveEntry_reproduces_iff
    {entry : AddrInfo} {address : IPAddress}
    (made : resolveEntry endian entry = some address) :
    Reproduces endian entry address ↔ ScopeIsPalindrome entry := by
  have fits := sockaddrSize_le_storage address
  rw [resolveEntry] at made
  simp only [Reproduces, ScopeIsPalindrome, toSockaddr_fits endian fits]
  cases family : entry.ai_addr with
  | inet saddr4 =>
      simp only [family, Option.some.injEq] at made
      subst made
      simp [encoded, SameHost]
  | inet6 saddr6 =>
      simp only [family, Option.some.injEq] at made
      subst made
      simp [encoded, SameHost, eq_comm]
  | other family unknown => simp [family] at made

/-- Both decoders make the same address of it under the same condition. -/
theorem resolveEntry_eq_decoded_iff
    {entry : AddrInfo} {resolved : IPAddress}
    (made : resolveEntry endian entry = some resolved)
    (address : IPAddress) (port : UInt16) :
    resolved = (decoded endian address port entry).address ↔
      ScopeIsPalindrome entry := by
  rw [resolveEntry] at made
  rw [decoded, ScopeIsPalindrome]
  cases family : entry.ai_addr with
  | inet saddr4 =>
      simp only [family, Option.some.injEq] at made
      subst made
      have accepted :
          (Sockaddr.inet saddr4).Accepted (Sockaddr.inet saddr4).size :=
        Int.le_refl _
      rcases fromSockaddr_accepted endian accepted address port none with
        ⟨_, _, holds, reads⟩
      rw [reads]
      cases holds
      simp
  | inet6 saddr6 =>
      simp only [family, Option.some.injEq] at made
      subst made
      have accepted :
          (Sockaddr.inet6 saddr6).Accepted (Sockaddr.inet6 saddr6).size :=
        Int.le_refl _
      rcases fromSockaddr_accepted endian accepted address port none with
        ⟨_, _, holds, reads⟩
      rw [reads]
      cases holds
      simp [eq_comm]
  | other family unknown => simp [family] at made

/-- The resolved list, entry by entry. -/
theorem resolve_forall₂ (lookup : Except Int (List AddrInfo)) :
    List.Forall₂
      (fun entry address => resolveEntry endian entry = some address)
      (usable lookup) (resolve endian lookup none).1 := by
  cases lookup with
  | error code => exact List.Forall₂.nil
  | ok result =>
      have listed :
          List.Forall₂
            (fun entry address => resolveEntry endian entry = some address)
            (usable (.ok result))
            (result.filterMap (resolveEntry endian)) := by
        rw [usable]
        induction result with
        | nil => exact List.Forall₂.nil
        | cons entry rest induction =>
            cases made : resolveEntry endian entry with
            | none =>
                have unusable : ¬ Usable entry := by
                  rw [← usable_of_resolveEntry endian, made]
                  simp
                simpa [made, unusable] using induction
            | some address =>
                have isUsable : Usable entry := by
                  rw [← usable_of_resolveEntry endian, made]
                  simp
                simpa [made, isUsable] using induction
      unfold resolve
      dsimp only
      split_ifs with isEmpty
      · rw [List.isEmpty_iff] at isEmpty
        simpa [isEmpty] using listed
      · exact listed

/-- `e` is set exactly when the lookup failed or found no usable entry. -/
theorem resolve_reports (lookup : Except Int (List AddrInfo)) :
    (resolve endian lookup none).2.isSome = true ↔ usable lookup = [] := by
  have lengths := (resolve_forall₂ endian lookup).length_eq
  cases lookup with
  | error code => simp [resolve, usable]
  | ok result =>
      unfold resolve at lengths ⊢
      dsimp only at lengths ⊢
      split_ifs at lengths ⊢ with isEmpty
      · simpa using lengths
      · rw [List.isEmpty_iff] at isEmpty
        constructor
        · intro impossible
          simp at impossible
        · intro noneUsable
          rw [noneUsable] at lengths
          exact absurd (List.length_eq_zero_iff.mp lengths.symm) isEmpty

/--
For every lookup the resolver is faithful exactly when each IPv6 entry has a
scope whose four bytes read the same backwards.
-/
theorem resolve_faithful_iff (lookup : Except Int (List AddrInfo)) :
    Faithful endian lookup ↔
      ∀ entry ∈ usable lookup, ScopeIsPalindrome entry := by
  have listed := resolve_forall₂ endian lookup
  constructor
  · intro faithful
    have together :
        List.Forall₂
          (fun entry address =>
            ScopeIsPalindrome entry ∧
              resolveEntry endian entry = some address)
          (usable lookup) (resolve endian lookup none).1 := by
      apply List.Forall₂.mp _ listed faithful.reproduces
      intro entry resolved made reproduced
      exact ⟨(resolveEntry_reproduces_iff endian made).mp reproduced, made⟩
    exact ((List.forall₂_and_left _ _).mp together).1
  · intro palindromes
    have together :=
      (List.forall₂_and_left _ _).mpr ⟨palindromes, listed⟩
    constructor
    · intro address port
      rw [← List.forall₂_eq_eq_eq, List.forall₂_map_right_iff]
      apply List.Forall₂.imp _ (List.Forall₂.flip together)
      rintro resolved entry ⟨palindrome, made⟩
      exact
        (resolveEntry_eq_decoded_iff endian made address port).mpr palindrome
    · apply List.Forall₂.imp _ together
      rintro entry resolved ⟨palindrome, made⟩
      exact (resolveEntry_reproduces_iff endian made).mpr palindrome
    · exact resolve_reports endian lookup

/-- The link-local address `fe80::1` on interface one. -/
def linkLocal : AddrInfo where
  ai_addr :=
    .inet6
      { sin6_port := 0
        sin6_flowinfo := 0
        sin6_addr := #v[254, 128, 0, 0, 0, 0, 0, 0, 0, 0, 0, 0, 0, 0, 0, 1]
        sin6_scope_id := 1 }

/-- It is resolved with scope 1 and connected to with scope field `2 ^ 24`. -/
theorem resolve_linkLocal_unfaithful :
    ¬ Faithful Endian.swap (.ok [linkLocal]) := by
  intro faithful
  have reproduced := faithful.reproduces
  have resolved :
      (resolve Endian.swap (.ok [linkLocal]) none).1 =
        [.IPv6 ⟨#v[254, 128, 0, 0, 0, 0, 0, 0, 0, 0, 0, 0, 0, 0, 0, 1],
          1⟩] := by
    decide
  have entries : usable (.ok [linkLocal]) = [linkLocal] := by decide
  rw [resolved, entries, List.forall₂_cons] at reproduced
  have same := (reproduced.1 0).2.2
  revert same
  decide

end IPResolver

end Netycat.IP
