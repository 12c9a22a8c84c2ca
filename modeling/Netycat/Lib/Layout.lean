import Mathlib.Data.List.Basic

/-!
# Texts written by a layout

A layout is a text with holes.  Rendering copies its literal symbols and
prints a value into each hole.  Where every hole is followed by a symbol that
no printed value contains, the text can be cut at these symbols again, so it
determines the values that were printed.

Numerals in a base up to sixteen are printings of this kind.
-/

namespace Netycat.Lib.Layout

variable {Kind Value Symbol : Type}

/-- What a layout is made of. -/
inductive Piece (Kind Symbol : Type) where
  | literal (symbol : Symbol)
  | hole (kind : Kind)
deriving DecidableEq

/-- The text of a layout whose holes are filled in order.  Holes for which no
value is left stay empty. -/
def render (print : Kind → Value → List Symbol) :
    List (Piece Kind Symbol) → List Value → List Symbol
  | [], _ => []
  | .literal symbol :: rest, values => symbol :: render print rest values
  | .hole kind :: rest, value :: values =>
      print kind value ++ render print rest values
  | .hole _ :: rest, [] => render print rest []

/-- How many values a layout takes. -/
def holes : List (Piece Kind Symbol) → Nat
  | [] => 0
  | .literal _ :: rest => holes rest
  | .hole _ :: rest => holes rest + 1

/-- Each hole ends the layout or has a literal after it that no value printed
into the hole contains. -/
def Separated (print : Kind → Value → List Symbol) :
    List (Piece Kind Symbol) → Prop
  | [] => True
  | .literal _ :: rest => Separated print rest
  | [.hole _] => True
  | .hole kind :: .literal symbol :: rest =>
      (∀ value, symbol ∉ print kind value) ∧ Separated print rest
  | .hole _ :: .hole _ :: _ => False

/-- Two texts are cut alike at a symbol that neither front contains. -/
theorem cut_inj
    {front front' back back' : List Symbol}
    {symbol : Symbol}
    (absent : symbol ∉ front)
    (absent' : symbol ∉ front')
    (equal : front ++ symbol :: back = front' ++ symbol :: back') :
    front = front' ∧ back = back' := by
  induction front generalizing front' with
  | nil =>
      cases front' with
      | nil => exact ⟨rfl, List.tail_eq_of_cons_eq equal⟩
      | cons head tail =>
          have first : symbol = head := List.head_eq_of_cons_eq equal
          exact absurd (first ▸ List.mem_cons_self) absent'
  | cons head tail rest =>
      cases front' with
      | nil =>
          have first : head = symbol := List.head_eq_of_cons_eq equal
          exact absurd (first ▸ List.mem_cons_self) absent
      | cons head' tail' =>
          have parts := List.cons.inj equal
          have tails :=
            rest (fun inside => absent (List.mem_cons_of_mem head inside))
              (fun inside => absent' (List.mem_cons_of_mem head' inside))
              parts.2
          exact ⟨congrArg₂ List.cons parts.1 tails.1, tails.2⟩

/-- The text of a separated layout determines the values in its holes. -/
theorem render_injective
    {print : Kind → Value → List Symbol}
    (injective : ∀ kind, Function.Injective (print kind)) :
    ∀ {layout : List (Piece Kind Symbol)} {values values' : List Value},
      Separated print layout →
      values.length = holes layout →
      values'.length = holes layout →
      render print layout values = render print layout values' →
      values = values' := by
  intro layout
  fun_induction Separated print layout with
  | case1 =>
      intro values values' _ count count' _
      rw [List.length_eq_zero_iff.mp count,
        List.length_eq_zero_iff.mp count']
  | case2 symbol rest inner =>
      intro values values' separated count count' equal
      exact inner separated count count' (List.tail_eq_of_cons_eq equal)
  | case3 kind =>
      intro values values' _ count count' equal
      rcases List.length_eq_one_iff.mp count with ⟨value, rfl⟩
      rcases List.length_eq_one_iff.mp count' with ⟨value', rfl⟩
      have printed : print kind value = print kind value' := by
        simpa [render] using equal
      rw [injective kind printed]
  | case4 kind symbol rest inner =>
      intro values values' separated count count' equal
      cases values with
      | nil => cases count
      | cons value values =>
          cases values' with
          | nil => cases count'
          | cons value' values' =>
              have parts :=
                cut_inj (separated.1 value) (separated.1 value') equal
              have values_eq :=
                inner separated.2 (Nat.succ.inj count)
                  (Nat.succ.inj count') parts.2
              rw [injective kind parts.1, values_eq]
  | case5 =>
      intro values values' separated
      exact absurd separated id

/-- The literals of a layout stand in each of its texts. -/
theorem mem_render_of_literal
    (print : Kind → Value → List Symbol)
    {layout : List (Piece Kind Symbol)}
    {symbol : Symbol}
    (values : List Value)
    (inside : Piece.literal symbol ∈ layout) :
    symbol ∈ render print layout values := by
  fun_induction render print layout values with
  | case1 => cases inside
  | case2 head rest values inner =>
      rcases List.mem_cons.mp inside with here | later
      · exact List.mem_cons.mpr (Or.inl (Piece.literal.inj here))
      · exact List.mem_cons_of_mem head (inner later)
  | case3 kind rest value values inner =>
      rcases List.mem_cons.mp inside with here | later
      · cases here
      · exact List.mem_append_right (print kind value) (inner later)
  | case4 kind rest inner =>
      rcases List.mem_cons.mp inside with here | later
      · cases here
      · exact inner later

/-- A text has no symbol besides the literals and what is printed. -/
theorem notMem_render
    {print : Kind → Value → List Symbol}
    {layout : List (Piece Kind Symbol)}
    {symbol : Symbol}
    (values : List Value)
    (outside : Piece.literal symbol ∉ layout)
    (absent :
      ∀ kind value, Piece.hole kind ∈ layout → symbol ∉ print kind value) :
    symbol ∉ render print layout values := by
  fun_induction render print layout values with
  | case1 => exact List.not_mem_nil
  | case2 head rest values inner =>
      have apart : symbol ≠ head := by
        rintro rfl
        exact outside List.mem_cons_self
      have later :=
        inner (fun inside => outside (List.mem_cons_of_mem _ inside))
          (fun kind value inside =>
            absent kind value (List.mem_cons_of_mem _ inside))
      exact List.not_mem_cons_of_ne_of_not_mem apart later
  | case3 kind rest value values inner =>
      have later :=
        inner (fun inside => outside (List.mem_cons_of_mem _ inside))
          (fun kind value inside =>
            absent kind value (List.mem_cons_of_mem _ inside))
      have printed := absent kind value List.mem_cons_self
      rw [List.mem_append]
      rintro (here | there)
      · exact printed here
      · exact later there
  | case4 kind rest inner =>
      exact
        inner (fun inside => outside (List.mem_cons_of_mem _ inside))
          (fun kind value inside =>
            absent kind value (List.mem_cons_of_mem _ inside))

/-! ## Numerals -/

theorem digitChar_inj :
    ∀ left right : Fin 16,
      Nat.digitChar left = Nat.digitChar right →
      left = right := by
  decide

/-- Every symbol of a numeral is one of its base's digits. -/
theorem exists_digit_of_mem_toDigits
    {base number : Nat}
    {symbol : Char}
    (proper : 1 < base)
    (inside : symbol ∈ Nat.toDigits base number) :
    ∃ digit, digit < base ∧ symbol = Nat.digitChar digit := by
  induction number using Nat.strongRecOn with
  | ind number smaller =>
      rw [Nat.toDigits_eq_if proper] at inside
      split at inside
      · next single =>
          exact ⟨number, single, List.mem_singleton.mp inside⟩
      · next large =>
          rcases List.mem_append.mp inside with front | last
          · have positive : 0 < number := by omega
            exact smaller _ (Nat.div_lt_self positive proper) front
          · exact ⟨number % base, Nat.mod_lt number (by omega),
              List.mem_singleton.mp last⟩

/-- A numeral of one digit is not one with more digits. -/
theorem one_digit_ne (base number : Nat) (digit last : Char) :
    [digit] ≠ Nat.toDigits base number ++ [last] := by
  intro equal
  have front : Nat.toDigits base number = [] := by
    have lengths := congrArg List.length equal
    simp only [List.length_append, List.length_singleton] at lengths
    exact List.length_eq_zero_iff.mp (by omega)
  exact Nat.toDigits_ne_nil front

/-- A numeral determines its number. -/
theorem toDigits_injective
    {base : Nat}
    (proper : 1 < base)
    (small : base ≤ 16) :
    Function.Injective (Nat.toDigits base) := by
  have digits :
      ∀ {left right}, left < base → right < base →
        Nat.digitChar left = Nat.digitChar right → left = right := by
    intro left right leftSmall rightSmall equal
    exact Fin.mk.inj (digitChar_inj ⟨left, by omega⟩ ⟨right, by omega⟩ equal)
  intro left
  induction left using Nat.strongRecOn with
  | ind left smaller =>
      intro right equal
      rw [Nat.toDigits_eq_if proper,
        @Nat.toDigits_eq_if base right proper] at equal
      split at equal
      · next leftSmall =>
          split at equal
          · next rightSmall =>
              exact digits leftSmall rightSmall
                (List.head_eq_of_cons_eq equal)
          · exact absurd equal (one_digit_ne _ _ _ _)
      · next leftLarge =>
          split at equal
          · exact absurd equal.symm (one_digit_ne _ _ _ _)
          · have parts := List.append_inj' equal rfl
            have high : left / base = right / base :=
              smaller _ (Nat.div_lt_self (by omega) proper) parts.1
            have low : left % base = right % base :=
              digits (Nat.mod_lt left (by omega)) (Nat.mod_lt right (by omega))
                (List.head_eq_of_cons_eq parts.2)
            rw [← Nat.div_add_mod left base, high, low,
              Nat.div_add_mod right base]

end Netycat.Lib.Layout
