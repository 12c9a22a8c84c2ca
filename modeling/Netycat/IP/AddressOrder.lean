import Netycat.IP.IPAddress
import Mathlib.Data.UInt
import Mathlib.Data.List.Lex
import Mathlib.Data.Prod.Lex
import Mathlib.Data.Sum.Order
import Mathlib.Tactic.IntervalCases

/-!
# The comparison of addresses

The comparison of the source has three layers: the tag of an `IPAddress`, the
bytes by `std::memcmp`, and the scope where the bytes agree.  Each layer is
sent to a linear order that is built for it, lists of numbers in lexicographic
order, pairs and disjoint sums, by a key that tells any two addresses apart.
What is to be known of the operators is then what is known of linear orders.
-/

namespace Netycat.IP

/-- `std::memcmp` of two blocks of the same length: the difference of the
first two bytes that differ, and zero where none does.  Only its sign is
used. -/
def memcmp : List UInt8 → List UInt8 → Int
  | x :: xs, y :: ys =>
      if x = y then memcmp xs ys else (x.toNat : Int) - y.toNat
  | _, _ => 0

/-- Bytes as the numbers they stand for. -/
def numbers (data : List UInt8) : List Nat :=
  data.map UInt8.toNat

theorem numbers_injective : Function.Injective numbers :=
  List.map_injective_iff.mpr fun _ _ equal => UInt8.toNat_inj.mp equal

theorem memcmp_eq_zero_iff :
    ∀ {a b : List UInt8},
      a.length = b.length →
      (memcmp a b = 0 ↔ a = b) := by
  intro a
  induction a with
  | nil =>
      intro b same
      have empty : b = [] := List.length_eq_zero_iff.mp same.symm
      simp [empty, memcmp]
  | cons x xs tail =>
      intro b same
      cases b with
      | nil => cases same
      | cons y ys =>
          by_cases equal : x = y
          · simpa [memcmp, equal] using tail (Nat.succ.inj same)
          · have apart : x.toNat ≠ y.toNat := fun numbers =>
              equal (UInt8.toNat_inj.mp numbers)
            simp only [memcmp, equal, if_false, List.cons.injEq, false_and,
              iff_false]
            omega

theorem memcmp_neg_iff :
    ∀ {a b : List UInt8},
      a.length = b.length →
      (memcmp a b < 0 ↔ numbers a < numbers b) := by
  intro a
  induction a with
  | nil =>
      intro b same
      have empty : b = [] := List.length_eq_zero_iff.mp same.symm
      simp [empty, memcmp, numbers]
  | cons x xs tail =>
      intro b same
      cases b with
      | nil => cases same
      | cons y ys =>
          have rest := tail (Nat.succ.inj same)
          by_cases equal : x = y
          · simpa [memcmp, equal, numbers] using rest
          · have apart : x.toNat ≠ y.toNat := fun numbers =>
              equal (UInt8.toNat_inj.mp numbers)
            simp only [memcmp, equal, if_false, numbers, List.map_cons,
              List.cons_lt_cons_iff, apart, false_and, or_false]
            omega

/-! ## The operators -/

namespace IPv4Address

/-- `operator ==`. -/
def equals (a b : IPv4Address) : Bool :=
  memcmp a.data.toList b.data.toList == 0

/-- `operator <`. -/
def less (a b : IPv4Address) : Bool :=
  memcmp a.data.toList b.data.toList < 0

/-- The numbers of the four bytes. -/
def key (address : IPv4Address) : List Nat :=
  numbers address.data.toList

theorem key_inj {a b : IPv4Address} :
    a.key = b.key ↔ a = b := by
  constructor
  · intro equal
    have bytes := Vector.toList_inj.mp (numbers_injective equal)
    cases a with
    | mk data => exact congrArg mk bytes
  · rintro rfl
    rfl

theorem equals_iff (a b : IPv4Address) :
    a.equals b ↔ a.key = b.key := by
  rw [equals, beq_iff_eq, memcmp_eq_zero_iff (by simp), key, key,
    numbers_injective.eq_iff]

theorem less_iff (a b : IPv4Address) :
    a.less b ↔ a.key < b.key := by
  rw [less, decide_eq_true_iff, memcmp_neg_iff (by simp), key, key]

end IPv4Address

namespace IPv6Address

/-- `operator ==`. -/
def equals (a b : IPv6Address) : Bool :=
  memcmp a.data.toList b.data.toList == 0 && a.scope == b.scope

/-- `operator <`. -/
def less (a b : IPv6Address) : Bool :=
  let x := memcmp a.data.toList b.data.toList
  if x ≠ 0 then x < 0 else a.scope < b.scope

/-- The numbers of the sixteen bytes, then the scope. -/
def key (address : IPv6Address) : Lex (List Nat × Nat) :=
  toLex (numbers address.data.toList, address.scope.toNat)

theorem key_inj {a b : IPv6Address} :
    a.key = b.key ↔ a = b := by
  constructor
  · intro equal
    have parts := Prod.mk.inj (toLex.injective equal)
    have bytes := Vector.toList_inj.mp (numbers_injective parts.1)
    have scopes := UInt32.toNat_inj.mp parts.2
    cases a with
    | mk data scope => exact congrArg₂ mk bytes scopes
  · rintro rfl
    rfl

theorem equals_iff (a b : IPv6Address) :
    a.equals b ↔ a.key = b.key := by
  rw [equals, Bool.and_eq_true, beq_iff_eq, beq_iff_eq,
    memcmp_eq_zero_iff (by simp), key, key, toLex.injective.eq_iff,
    Prod.mk.injEq, numbers_injective.eq_iff, UInt32.toNat_inj]

theorem less_iff (a b : IPv6Address) :
    a.less b ↔ a.key < b.key := by
  have same : a.data.toList.length = b.data.toList.length := by simp
  rw [key, key, Prod.Lex.toLex_lt_toLex, less]
  by_cases equal : memcmp a.data.toList b.data.toList = 0
  · have bytes := (memcmp_eq_zero_iff same).mp equal
    rw [bytes] at equal ⊢
    simp [equal, UInt32.lt_iff_toNat_lt]
  · have bytes : numbers a.data.toList ≠ numbers b.data.toList := by
      rw [numbers_injective.ne_iff]
      exact fun bytes => equal ((memcmp_eq_zero_iff same).mpr bytes)
    simp [equal, bytes, memcmp_neg_iff same]

end IPv6Address

namespace IPAddress

/-- `operator ==`. -/
def equals : IPAddress → IPAddress → Bool
  | IPv4 a, IPv4 b => a.equals b
  | IPv6 a, IPv6 b => a.equals b
  | _, _ => false

/-- `operator <`: the tags are compared first. -/
def less : IPAddress → IPAddress → Bool
  | IPv4 _, IPv6 _ => true
  | IPv6 _, IPv4 _ => false
  | IPv4 a, IPv4 b => a.less b
  | IPv6 a, IPv6 b => a.less b

/-- The keys of one family before the keys of the other. -/
def key : IPAddress → Lex (List Nat ⊕ Lex (List Nat × Nat))
  | IPv4 v4 => toLex (Sum.inl v4.key)
  | IPv6 v6 => toLex (Sum.inr v6.key)

theorem key_inj {a b : IPAddress} :
    a.key = b.key ↔ a = b := by
  cases a <;> cases b <;>
    simp [key, IPv4Address.key_inj, IPv6Address.key_inj]

theorem equals_iff_key (a b : IPAddress) :
    a.equals b ↔ a.key = b.key := by
  cases a <;> cases b <;>
    simp [equals, key, IPv4Address.equals_iff, IPv6Address.equals_iff]

/-- `operator ==` is equality of addresses. -/
theorem equals_iff (a b : IPAddress) :
    a.equals b ↔ a = b :=
  (equals_iff_key a b).trans key_inj

/-- `operator <` is the order of the keys. -/
theorem less_iff (a b : IPAddress) :
    a.less b ↔ a.key < b.key := by
  cases a <;> cases b <;>
    simp [less, key, IPv4Address.less_iff, IPv6Address.less_iff]

/-- Exactly one of two values of a linear order is below the other, or they
are equal. -/
theorem exactly_one {Key : Type} [LinearOrder Key] (x y : Key) :
    (x < y ∧ x ≠ y ∧ ¬y < x) ∨ (¬x < y ∧ x = y ∧ ¬y < x) ∨
      (¬x < y ∧ x ≠ y ∧ y < x) := by
  rcases lt_trichotomy x y with below | equal | above
  · exact Or.inl ⟨below, below.ne, below.asymm⟩
  · exact Or.inr (Or.inl ⟨equal.not_lt, equal, equal.not_gt⟩)
  · exact Or.inr (Or.inr ⟨above.asymm, above.ne', above⟩)

theorem less_irrefl (a : IPAddress) :
    ¬a.less a := by
  rw [less_iff]
  exact lt_irrefl a.key

theorem less_trans
    {a b c : IPAddress}
    (first : a.less b)
    (second : b.less c) :
    a.less c := by
  rw [less_iff] at first second ⊢
  exact lt_trans first second

/-- The three outcomes of a comparison exclude each other. -/
theorem less_trichotomy (a b : IPAddress) :
    (a.less b ∧ ¬a.equals b ∧ ¬b.less a) ∨
      (¬a.less b ∧ a.equals b ∧ ¬b.less a) ∨
      (¬a.less b ∧ ¬a.equals b ∧ b.less a) := by
  rw [less_iff, less_iff, equals_iff_key]
  exact exactly_one a.key b.key

theorem ipv4_less_ipv6 (v4 : IPv4Address) (v6 : IPv6Address) :
    (IPv4 v4).less (IPv6 v6) :=
  rfl

end IPAddress

/-! ## The order of the integers -/

namespace IPv4Address

/-- The integer is the four bytes read as digits in base 256. -/
theorem exists_bytes (address : IPv4Address) :
    ∃ first second third fourth : UInt8,
      address.key =
          [first.toNat, second.toNat, third.toNat, fourth.toNat] ∧
        address.toUInt32.toNat =
          first.toNat * 2 ^ 24 + second.toNat * 2 ^ 16 +
            third.toNat * 2 ^ 8 + fourth.toNat := by
  cases address with
  | mk data =>
      refine ⟨data[0], data[1], data[2], data[3], ?_, ?_⟩
      · apply List.ext_getElem
        · simp [key, numbers]
        · intro index inside _
          have small : index < 4 := by simpa [key, numbers] using inside
          interval_cases index <;> simp [key, numbers]
      · have bytes :=
          congrArg IPv4Address.data (ofUInt32_toUInt32 ⟨data⟩)
        have first := congrArg (fun data => data[0].toNat) bytes
        have second := congrArg (fun data => data[1].toNat) bytes
        have third := congrArg (fun data => data[2].toNat) bytes
        have fourth := congrArg (fun data => data[3].toNat) bytes
        have bound := (IPv4Address.mk data).toUInt32.toNat_lt
        simp only [ofUInt32] at first second third fourth
        simp [Nat.shiftRight_eq_div_pow] at first second third fourth
        omega

/-- The order of the addresses is the order of the integers. -/
theorem less_iff_toUInt32 (a b : IPv4Address) :
    a.less b ↔ a.toUInt32 < b.toUInt32 := by
  rcases exists_bytes a with ⟨a₁, a₂, a₃, a₄, key, value⟩
  rcases exists_bytes b with ⟨b₁, b₂, b₃, b₄, key', value'⟩
  rw [less_iff, UInt32.lt_iff_toNat_lt, key, key', value, value']
  have second := a₂.toNat_lt
  have third := a₃.toNat_lt
  have fourth := a₄.toNat_lt
  have second' := b₂.toNat_lt
  have third' := b₃.toNat_lt
  have fourth' := b₄.toNat_lt
  simp only [List.cons_lt_cons_iff, lt_self_iff_false, and_false, or_false]
  omega

end IPv4Address

/-- `operator <` on addresses is a strict total order that agrees with
`operator ==` and puts the IPv4 addresses first.  On these it is the order of
the integers, and the two conversions between an address and its integer undo
each other. -/
theorem less_is_strict_total_order :
    (∀ a : IPAddress, ¬a.less a) ∧
      (∀ a b c : IPAddress, a.less b → b.less c → a.less c) ∧
      (∀ a b : IPAddress,
        (a.less b ∧ ¬a.equals b ∧ ¬b.less a) ∨
          (¬a.less b ∧ a.equals b ∧ ¬b.less a) ∨
          (¬a.less b ∧ ¬a.equals b ∧ b.less a)) ∧
      (∀ (v4 : IPv4Address) (v6 : IPv6Address),
        (IPAddress.IPv4 v4).less (IPAddress.IPv6 v6)) ∧
      (∀ value : UInt32, (IPv4Address.ofUInt32 value).toUInt32 = value) ∧
      (∀ v4 : IPv4Address, IPv4Address.ofUInt32 v4.toUInt32 = v4) ∧
      ∀ a b : IPv4Address, a.less b ↔ a.toUInt32 < b.toUInt32 := by
  refine ⟨IPAddress.less_irrefl, ?_, IPAddress.less_trichotomy,
    IPAddress.ipv4_less_ipv6, IPv4Address.toUInt32_ofUInt32,
    IPv4Address.ofUInt32_toUInt32, IPv4Address.less_iff_toUInt32⟩
  intro a b c first second
  exact IPAddress.less_trans first second

end Netycat.IP
