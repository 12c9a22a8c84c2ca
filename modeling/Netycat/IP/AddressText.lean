import Netycat.IP.AddressOrder
import Netycat.Corecat.Formatter

/-!
# The text of an address

`toString` prints the fields of an address with variable width.  A dot, a
colon or a percent sign stands after each field but the last, and no numeral
contains one, so the fields can be read off the text again.
-/

namespace Netycat.IP

open Netycat.Corecat
open Netycat.Lib.Layout

namespace IPv4Address

/-- The format string of four decimal fields with dots between them. -/
def layout : List (Piece Field Char) :=
  [.hole .decimal, .literal '.', .hole .decimal, .literal '.',
    .hole .decimal, .literal '.', .hole .decimal]

/-- The arguments are the four bytes, in order. -/
def toString (formatter : Formatter) (address : IPv4Address) : String8 :=
  formatter.format layout (address.data.toList.map UInt8.toNat)

theorem layout_separated (formatter : Formatter) :
    Separated formatter.print layout := by
  have dot := @Formatter.notMem_print formatter '.' (by decide)
  exact ⟨dot .decimal, dot .decimal, dot .decimal, trivial⟩

theorem toString_inj (formatter : Formatter) {a b : IPv4Address} :
    a.toString formatter = b.toString formatter ↔ a = b := by
  constructor
  · intro equal
    have keys : a.key = b.key :=
      render_injective formatter.print_injective (layout_separated formatter)
        (by simp [key, numbers, layout, holes])
        (by simp [key, numbers, layout, holes]) equal
    exact key_inj.mp keys
  · rintro rfl
    rfl

end IPv4Address

namespace IPv6Address

/-- `(std::uint16_t(high) << 8) | low`. -/
def group (high low : UInt8) : UInt16 :=
  (high.toUInt16 <<< 8) ||| low.toUInt16

/-- Both bytes of a group are found in it again. -/
theorem bytes_of_group (high low : UInt8) :
    (group high low >>> 8).toUInt8 = high ∧ (group high low).toUInt8 = low := by
  constructor
  all_goals
    apply UInt8.toBitVec_inj.mp
    ext index inside
    simp [group, UInt16.toBitVec_toUInt8] <;> grind

theorem group_inj {high low high' low' : UInt8} :
    (group high low).toNat = (group high' low').toNat ↔
      high = high' ∧ low = low' := by
  constructor
  · intro equal
    have groups : group high low = group high' low' :=
      UInt16.toNat_inj.mp equal
    have bytes := bytes_of_group high low
    rw [groups, (bytes_of_group high' low').1,
      (bytes_of_group high' low').2] at bytes
    exact ⟨bytes.1.symm, bytes.2.symm⟩
  · rintro ⟨rfl, rfl⟩
    rfl

/-- The format string of eight hexadecimal groups and the decimal scope. -/
def layout : List (Piece Field Char) :=
  [.hole .hexadecimal, .literal ':', .hole .hexadecimal, .literal ':',
    .hole .hexadecimal, .literal ':', .hole .hexadecimal, .literal ':',
    .hole .hexadecimal, .literal ':', .hole .hexadecimal, .literal ':',
    .hole .hexadecimal, .literal ':', .hole .hexadecimal, .literal '%',
    .hole .decimal]

/-- The arguments of the format string. -/
def fields (address : IPv6Address) : List Nat :=
  let data := address.data
  [(group data[0] data[1]).toNat, (group data[2] data[3]).toNat,
    (group data[4] data[5]).toNat, (group data[6] data[7]).toNat,
    (group data[8] data[9]).toNat, (group data[10] data[11]).toNat,
    (group data[12] data[13]).toNat, (group data[14] data[15]).toNat,
    address.scope.toNat]

def toString (formatter : Formatter) (address : IPv6Address) : String8 :=
  formatter.format layout address.fields

theorem layout_separated (formatter : Formatter) :
    Separated formatter.print layout := by
  have colon :=
    @Formatter.notMem_print formatter ':' (by decide) .hexadecimal
  have percent :=
    @Formatter.notMem_print formatter '%' (by decide) .hexadecimal
  exact ⟨colon, colon, colon, colon, colon, colon, colon, percent, trivial⟩

/-- The groups and the scope determine the address. -/
theorem fields_inj {a b : IPv6Address} :
    a.fields = b.fields ↔ a = b := by
  constructor
  · intro equal
    simp only [fields, List.cons.injEq, group_inj, UInt32.toNat_inj] at equal
    cases a with
    | mk data scope =>
        cases b with
        | mk data' scope' =>
            rcases equal with
              ⟨first, second, third, fourth, fifth, sixth, seventh, eighth,
                scopes, _⟩
            have bytes : data = data' := by
              refine Vector.ext fun index inside => ?_
              interval_cases index
              exacts [first.1, first.2, second.1, second.2, third.1, third.2,
                fourth.1, fourth.2, fifth.1, fifth.2, sixth.1, sixth.2,
                seventh.1, seventh.2, eighth.1, eighth.2]
            exact congrArg₂ mk bytes scopes
  · rintro rfl
    rfl

theorem toString_inj (formatter : Formatter) {a b : IPv6Address} :
    a.toString formatter = b.toString formatter ↔ a = b := by
  constructor
  · intro equal
    have groups : a.fields = b.fields :=
      render_injective formatter.print_injective (layout_separated formatter)
        rfl rfl equal
    exact fields_inj.mp groups
  · rintro rfl
    rfl

end IPv6Address

namespace IPAddress

def toString (formatter : Formatter) : IPAddress → String8
  | IPv4 v4 => v4.toString formatter
  | IPv6 v6 => v6.toString formatter

/-- A text of one family has a colon, a text of the other has none. -/
theorem colon_mem_toString (formatter : Formatter) (address : IPAddress) :
    ':' ∈ address.toString formatter ↔ ∃ v6, address = IPv6 v6 := by
  cases address with
  | IPv4 v4 =>
      have absent : ':' ∉ v4.toString formatter :=
        notMem_render _ (by decide) fun field number _ =>
          formatter.notMem_print (by decide) field number
      simp [toString, absent]
  | IPv6 v6 =>
      have inside : ':' ∈ v6.toString formatter :=
        mem_render_of_literal formatter.print v6.fields (by decide)
      simp [toString, inside]

theorem eq_of_toString_eq
    {formatter : Formatter}
    {a b : IPAddress}
    (equal : a.toString formatter = b.toString formatter) :
    a = b := by
  have colons :
      (∃ v6, a = IPv6 v6) ↔ ∃ v6, b = IPv6 v6 := by
    rw [← colon_mem_toString formatter, ← colon_mem_toString formatter, equal]
  cases a with
  | IPv4 a =>
      cases b with
      | IPv4 b =>
          exact congrArg IPv4 ((IPv4Address.toString_inj formatter).mp equal)
      | IPv6 b =>
          rcases colons.mpr ⟨b, rfl⟩ with ⟨v6, other⟩
          cases other
  | IPv6 a =>
      cases b with
      | IPv4 b =>
          rcases colons.mp ⟨a, rfl⟩ with ⟨v6, other⟩
          cases other
      | IPv6 b =>
          exact congrArg IPv6 ((IPv6Address.toString_inj formatter).mp equal)

/-- Addresses print alike exactly when `operator ==` holds of them. -/
theorem toString_injective
    (formatter : Formatter)
    (a b : IPAddress) :
    a.toString formatter = b.toString formatter ↔
      a.equals b := by
  rw [equals_iff]
  constructor
  · exact eq_of_toString_eq
  · rintro rfl
    rfl

example :
    (IPv6 ⟨#v[0xfe, 0x80, 0, 0, 0, 0, 0, 0, 0, 0, 0, 0, 0, 0, 1, 0x2f],
        12⟩).toString Formatter.numerals =
      "fe80:0:0:0:0:0:0:12f%12".toList := by
  decide

end IPAddress

end Netycat.IP
