import Mathlib.Data.List.Perm.Basic

/-!
# Pools

A pool is a list whose order means nothing: any entry may be taken next.
`Pool.take?` takes the entry at a position and leaves the others, so that a run
of a concurrent system can name the entry it moves.
-/

namespace Pool

variable {Entry : Type*}

/-- The entry at a position, and the others. -/
def take? : List Entry → Nat → Option (Entry × List Entry)
  | [], _ => none
  | entry :: others, 0 => some (entry, others)
  | entry :: others, index + 1 =>
      (take? others index).map fun taken => (taken.1, entry :: taken.2)

/-- What is taken and what is left make up the pool. -/
theorem take?_perm
    {pool others : List Entry} {index : Nat} {entry : Entry}
    (taken : take? pool index = some (entry, others)) :
    pool.Perm (entry :: others) := by
  induction pool generalizing index others with
  | nil => cases taken
  | cons first rest induction =>
      cases index with
      | zero =>
          cases taken
          exact List.Perm.refl _
      | succ index =>
          rw [take?, Option.map_eq_some_iff] at taken
          rcases taken with ⟨⟨entry, left⟩, found, same⟩
          cases same
          exact
            ((induction found).cons first).trans
              (List.Perm.swap entry first left)

/-- An entry of a pool of images is the image of the entry at its place. -/
theorem take?_map {Image : Type*} (image : Entry → Image)
    (pool : List Entry) (index : Nat) :
    take? (pool.map image) index =
      (take? pool index).map fun taken =>
        (image taken.1, taken.2.map image) := by
  induction pool generalizing index with
  | nil => rfl
  | cons first rest induction =>
      cases index with
      | zero => rfl
      | succ index =>
          simp only [List.map_cons, take?, induction, Option.map_map]
          rfl

/-- Every entry can be taken. -/
theorem exists_take?_of_mem
    {pool : List Entry} {entry : Entry}
    (among : entry ∈ pool) :
    ∃ index others, take? pool index = some (entry, others) := by
  induction pool with
  | nil => cases among
  | cons first rest induction =>
      rcases List.mem_cons.mp among with rfl | later
      · exact ⟨0, rest, rfl⟩
      · rcases induction later with ⟨index, others, taken⟩
        refine ⟨index + 1, first :: others, ?_⟩
        rw [take?, taken]
        rfl

end Pool
