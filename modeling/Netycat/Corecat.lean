import Mathlib.Tactic.Common

/-!
# What the code takes from Corecat

Exceptions are values with a kind and a message.  `ExceptionPtr` is the
library's nullable pointer to one: the `noexcept` forms of the operations take
it by reference, assign it on failure and leave it alone on success.
-/

namespace Netycat.Corecat

/-- The exception classes that the code constructs. -/
inductive ExceptionKind where
  | io
  | invalidArgument
  | system
deriving DecidableEq, Repr

/-- An exception object. -/
structure Exception where
  kind : ExceptionKind
  message : String
deriving DecidableEq, Repr

/-- A pointer to an exception, null when no error has been reported. -/
abbrev ExceptionPtr := Option Exception

def IOException (message : String) : Exception :=
  ⟨.io, message⟩

def InvalidArgumentException (message : String) : Exception :=
  ⟨.invalidArgument, message⟩

def SystemException (message : String) : Exception :=
  ⟨.system, message⟩

end Netycat.Corecat
