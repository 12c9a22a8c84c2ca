import Mathlib.Tactic.Common

/-!
# Groupings of a chain of operands

A grouping says in which order a binary operation is applied to a chain of
operands.  For an associative operation the result is that of the operands taken
from the left, so it does not depend on the grouping.
-/

/-- A chain of operands with its parentheses. -/
inductive Grouping (Operand : Type*) where
  | operand (value : Operand)
  | apply (first second : Grouping Operand)
deriving DecidableEq, Repr

namespace Grouping

variable {Operand : Type*}

/-- The operands of the chain, from left to right. -/
def operands : Grouping Operand → List Operand
  | operand value => [value]
  | apply first second => first.operands ++ second.operands

/-- Apply the operation as the parentheses say. -/
def eval (operation : Operand → Operand → Operand) :
    Grouping Operand → Operand
  | operand value => value
  | apply first second =>
      operation (first.eval operation) (second.eval operation)

variable {operation : Operand → Operand → Operand}

theorem foldl_operands
    (assoc :
      ∀ a b c, operation (operation a b) c = operation a (operation b c))
    (start : Operand) (grouping : Grouping Operand) :
    grouping.operands.foldl operation start =
      operation start (grouping.eval operation) := by
  induction grouping generalizing start with
  | operand value => rfl
  | apply first second inFirst inSecond =>
      rw [operands, List.foldl_append, inFirst, inSecond, assoc, eval]

/-- With a left identity the result is the chain taken from the left. -/
theorem eval_eq_foldl
    (assoc :
      ∀ a b c, operation (operation a b) c = operation a (operation b c))
    {identity : Operand}
    (leftIdentity : ∀ a, operation identity a = a)
    (grouping : Grouping Operand) :
    grouping.eval operation =
      grouping.operands.foldl operation identity := by
  rw [foldl_operands assoc, leftIdentity]

end Grouping
