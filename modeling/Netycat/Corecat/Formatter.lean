import Netycat.Lib.Layout

/-!
# Corecat's formatter

`_format` belongs to Corecat and is taken as a parameter.  What the code
relies on is recorded for the two replacement fields that it uses: the empty
field prints a number in decimal and the field `:x` in lower-case
hexadecimal, both without padding.  The numerals of the core library are such
printings.
-/

namespace Netycat.Corecat

open Netycat.Lib.Layout

abbrev String8 := List Char

/-- The replacement fields of a format string. -/
inductive Field where
  | decimal
  | hexadecimal
deriving DecidableEq, Repr

/-- The base in which a field prints. -/
def Field.base : Field → Nat
  | .decimal => 10
  | .hexadecimal => 16

/-- How the formatter prints a number in a field. -/
structure Formatter where
  print : Field → Nat → String8
  print_eq : ∀ field number, print field number = Nat.toDigits field.base number

namespace Formatter

/-- A format string applied to its arguments. -/
def format (formatter : Formatter) (text : List (Piece Field Char))
    (arguments : List Nat) : String8 :=
  render formatter.print text arguments

/-- The numerals of the core library. -/
def numerals : Formatter where
  print := fun field => Nat.toDigits field.base
  print_eq := fun _ _ => rfl

theorem print_injective (formatter : Formatter) (field : Field) :
    Function.Injective (formatter.print field) := by
  have printing : formatter.print field = Nat.toDigits field.base :=
    funext (formatter.print_eq field)
  rw [printing]
  cases field with
  | decimal | hexadecimal =>
      exact toDigits_injective (by decide) (by decide)

/-- No field prints a character that is not a digit of base sixteen. -/
theorem notMem_print
    (formatter : Formatter)
    {symbol : Char}
    (other : ∀ digit : Fin 16, symbol ≠ Nat.digitChar digit)
    (field : Field)
    (number : Nat) :
    symbol ∉ formatter.print field number := by
  intro inside
  rw [formatter.print_eq] at inside
  have proper : 1 < field.base := by cases field <;> decide
  have small : field.base ≤ 16 := by cases field <;> decide
  rcases exists_digit_of_mem_toDigits proper inside with ⟨digit, below, equal⟩
  exact other ⟨digit, by omega⟩ equal

end Formatter

end Netycat.Corecat
