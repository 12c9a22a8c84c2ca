import Mathlib.Data.List.Perm.Basic

/-!
# Shared pointers

A heap of objects that are held through shared pointers: each has the number of
the pointers to it and is deleted when that number comes to zero.  A pointer is
the position of its object, or null.

The counts of the heap are a cache of the pointers that exist somewhere in the
program.  `Counted` says that the cache is right for a list of pointers, in any
order, and the rules below move it along the creation of an object, the copying
and the giving up of a pointer.  Where it holds, an object has been deleted
exactly once when no pointer to it is left, and not at all before.
-/

universe u

/-- An object with the number of the pointers to it and of the calls of its
deleter. -/
structure Shared (Object : Type u) where
  object : Object
  useCount : Nat
  deletions : Nat
deriving DecidableEq, Repr

namespace Shared

variable {Object : Type u}

def addRef (shared : Shared Object) : Shared Object :=
  { shared with useCount := shared.useCount + 1 }

/-- The pointer that brings the count to zero calls the deleter. -/
def release (shared : Shared Object) : Shared Object :=
  { shared with
    useCount := shared.useCount - 1
    deletions :=
      if shared.useCount = 1 then shared.deletions + 1
      else shared.deletions }

/-- A change of the object itself, through any of the pointers. -/
def update (change : Shared Object → Object) (shared : Shared Object) :
    Shared Object :=
  { shared with object := change shared }

end Shared

namespace SharedHeap

variable {Object : Type u}

/-- The object that a pointer points to. -/
def at? (heap : List (Shared Object)) (pointer : Option Nat) :
    Option (Shared Object) :=
  pointer.bind fun id => heap[id]?

/-- A new object with its first pointer, which is the length of the heap. -/
def allocate (heap : List (Shared Object)) (object : Object) :
    List (Shared Object) :=
  heap ++ [⟨object, 1, 0⟩]

/-- A change of what a pointer points to; nothing for the null pointer. -/
def onPointer (change : Shared Object → Shared Object)
    (heap : List (Shared Object)) : Option Nat → List (Shared Object)
  | none => heap
  | some id => heap.modify id change

/-- The copying of a pointer. -/
def addRef (heap : List (Shared Object)) (pointer : Option Nat) :
    List (Shared Object) :=
  onPointer Shared.addRef heap pointer

/-- The giving up of a pointer. -/
def release (heap : List (Shared Object)) (pointer : Option Nat) :
    List (Shared Object) :=
  onPointer Shared.release heap pointer

/-- A change of the object of a pointer. -/
def update (change : Shared Object → Object) (heap : List (Shared Object))
    (pointer : Option Nat) : List (Shared Object) :=
  onPointer (Shared.update change) heap pointer

/-- What stands in the heap after a change, object by object. -/
theorem onPointer_getElem? {change : Shared Object → Shared Object}
    {heap : List (Shared Object)} {pointer : Option Nat} {id : Nat}
    {shared : Shared Object}
    (found : (onPointer change heap pointer)[id]? = some shared) :
    ∃ before,
      heap[id]? = some before ∧
        shared = if pointer = some id then change before else before := by
  cases pointer with
  | none =>
      exact ⟨shared, found, rfl⟩
  | some target =>
      rw [onPointer, List.getElem?_modify] at found
      rcases Option.map_eq_some_iff.mp found with ⟨before, stood, same⟩
      refine ⟨before, stood, ?_⟩
      rw [← same]
      simp only [Option.some.injEq]

@[simp]
theorem onPointer_length (change : Shared Object → Shared Object)
    (heap : List (Shared Object)) (pointer : Option Nat) :
    (onPointer change heap pointer).length = heap.length := by
  cases pointer with
  | none => rfl
  | some target => exact List.length_modify change heap target

theorem onPointer_of_getElem? {heap : List (Shared Object)} {id : Nat}
    {shared : Shared Object} (found : heap[id]? = some shared)
    (change : Shared Object → Shared Object) (pointer : Option Nat) :
    (onPointer change heap pointer)[id]? =
      some (if pointer = some id then change shared else shared) := by
  cases pointer with
  | none =>
      exact found
  | some target =>
      rw [onPointer, List.getElem?_modify, found]
      simp only [Option.some.injEq]
      rfl

theorem update_getElem?_self {heap : List (Shared Object)} {id : Nat}
    {shared : Shared Object} (found : heap[id]? = some shared)
    (change : Shared Object → Object) :
    (update change heap (some id))[id]? = some (shared.update change) :=
  (onPointer_of_getElem? found _ (some id)).trans
    (congrArg some (if_pos rfl))

@[simp]
theorem at?_update (change : Shared Object → Object)
    (heap : List (Shared Object)) (pointer : Option Nat) :
    at? (update change heap pointer) pointer =
      (at? heap pointer).map (Shared.update change) := by
  cases pointer with
  | none => rfl
  | some id => exact List.getElem?_modify_eq _ id heap

theorem release_getElem?_self {heap : List (Shared Object)} {id : Nat}
    {shared : Shared Object} (found : heap[id]? = some shared) :
    (release heap (some id))[id]? = some shared.release :=
  (onPointer_of_getElem? found _ (some id)).trans
    (congrArg some (if_pos rfl))

/-- After an allocation an object is an old one or the new one. -/
theorem allocate_getElem? {heap : List (Shared Object)} {object : Object}
    {id : Nat} {shared : Shared Object}
    (found : (allocate heap object)[id]? = some shared) :
    (id < heap.length ∧ heap[id]? = some shared) ∨
      (id = heap.length ∧ shared = ⟨object, 1, 0⟩) := by
  rw [allocate, List.getElem?_append] at found
  split at found
  case isTrue old =>
    exact .inl ⟨old, found⟩
  case isFalse notOld =>
    rw [List.getElem?_singleton] at found
    split at found
    case isTrue first =>
      cases found
      exact .inr ⟨by omega, rfl⟩
    case isFalse =>
      cases found

/-- The counts of the heap are right for these pointers. -/
structure Counted (heap : List (Shared Object))
    (pointers : List (Option Nat)) : Prop where
  allocated : ∀ {id : Nat}, some id ∈ pointers → id < heap.length
  useCount : ∀ {id : Nat} {shared : Shared Object},
    heap[id]? = some shared → shared.useCount = pointers.count (some id)
  deletions : ∀ {id : Nat} {shared : Shared Object},
    heap[id]? = some shared →
      shared.deletions = if shared.useCount = 0 then 1 else 0

namespace Counted

variable {heap : List (Shared Object)} {pointers : List (Option Nat)}

theorem empty : Counted ([] : List (Shared Object)) [] where
  allocated among := by cases among
  useCount found := by cases found
  deletions found := by cases found

/-- The order of the pointers means nothing. -/
theorem perm {others : List (Option Nat)} (counted : Counted heap pointers)
    (same : pointers.Perm others) :
    Counted heap others where
  allocated among := counted.allocated (same.mem_iff.mpr among)
  useCount found := (counted.useCount found).trans (same.count_eq _)
  deletions := counted.deletions

/-- Null pointers are not counted. -/
theorem null (counted : Counted heap pointers) :
    Counted heap (none :: pointers) where
  allocated among := counted.allocated (by simpa using among)
  useCount found := by simpa using counted.useCount found
  deletions := counted.deletions

theorem allocate (counted : Counted heap pointers) (object : Object) :
    Counted (SharedHeap.allocate heap object)
      (some heap.length :: pointers) where
  allocated := by
    intro id among
    rw [SharedHeap.allocate, List.length_append]
    rcases List.mem_cons.mp among with same | among
    · cases same
      exact Nat.lt_succ_self _
    · exact Nat.lt_succ_of_lt (counted.allocated among)
  useCount := by
    intro id shared found
    rcases allocate_getElem? found with ⟨old, stood⟩ | ⟨rfl, rfl⟩
    · rw [counted.useCount stood, List.count_cons_of_ne]
      intro same
      cases same
      exact Nat.lt_irrefl _ old
    · have absent : some heap.length ∉ pointers := fun among =>
        Nat.lt_irrefl _ (counted.allocated among)
      rw [List.count_cons_self, List.count_eq_zero_of_not_mem absent]
  deletions := by
    intro id shared found
    rcases allocate_getElem? found with ⟨_, stood⟩ | ⟨_, rfl⟩
    · exact counted.deletions stood
    · rfl

/-- A pointer is copied from one that exists. -/
theorem addRef {pointer : Option Nat} (counted : Counted heap pointers)
    (among : pointer ∈ pointers) :
    Counted (SharedHeap.addRef heap pointer) (pointer :: pointers) where
  allocated := by
    intro id held
    rw [SharedHeap.addRef, onPointer_length]
    rcases List.mem_cons.mp held with same | held
    · exact counted.allocated (same ▸ among)
    · exact counted.allocated held
  useCount := by
    intro id shared found
    rcases onPointer_getElem? found with ⟨before, stood, rfl⟩
    have counts := counted.useCount stood
    by_cases target : pointer = some id
    · subst target
      rw [if_pos rfl, List.count_cons_self, ← counts]
      rfl
    · rw [if_neg target, List.count_cons_of_ne target, counts]
  deletions := by
    intro id shared found
    rcases onPointer_getElem? found with ⟨before, stood, rfl⟩
    have deleted := counted.deletions stood
    by_cases target : pointer = some id
    · subst target
      have positive : before.useCount ≠ 0 := by
        rw [counted.useCount stood]
        exact Nat.pos_iff_ne_zero.mp (List.count_pos_iff.mpr among)
      rw [if_neg positive] at deleted
      rw [if_pos rfl, Shared.addRef, if_neg (Nat.succ_ne_zero _)]
      exact deleted
    · rw [if_neg target]
      exact deleted

/-- A pointer is given up. -/
theorem release {pointer : Option Nat}
    (counted : Counted heap (pointer :: pointers)) :
    Counted (SharedHeap.release heap pointer) pointers where
  allocated := by
    intro id held
    rw [SharedHeap.release, onPointer_length]
    exact counted.allocated (List.mem_cons_of_mem _ held)
  useCount := by
    intro id shared found
    rcases onPointer_getElem? found with ⟨before, stood, rfl⟩
    have counts := counted.useCount stood
    by_cases target : pointer = some id
    · subst target
      rw [List.count_cons_self] at counts
      rw [if_pos rfl]
      exact Nat.sub_eq_of_eq_add counts
    · rw [List.count_cons_of_ne target] at counts
      rw [if_neg target, counts]
  deletions := by
    intro id shared found
    rcases onPointer_getElem? found with ⟨before, stood, rfl⟩
    have counts := counted.useCount stood
    have deleted := counted.deletions stood
    by_cases target : pointer = some id
    · subst target
      rw [List.count_cons_self] at counts
      rw [counts, if_neg (Nat.succ_ne_zero _)] at deleted
      rw [if_pos rfl, Shared.release, counts, deleted]
      simp only [Nat.add_eq_right, Nat.add_sub_cancel, Nat.zero_add]
    · rw [if_neg target]
      exact deleted

/-- A change of an object leaves the counts right. -/
theorem update (counted : Counted heap pointers)
    (change : Shared Object → Object) (pointer : Option Nat) :
    Counted (SharedHeap.update change heap pointer) pointers where
  allocated held := by
    rw [SharedHeap.update, onPointer_length]
    exact counted.allocated held
  useCount := by
    intro id shared found
    rcases onPointer_getElem? found with ⟨before, stood, rfl⟩
    rw [← counted.useCount stood]
    split <;> rfl
  deletions := by
    intro id shared found
    rcases onPointer_getElem? found with ⟨before, stood, rfl⟩
    have deleted := counted.deletions stood
    split <;> exact deleted

/-- An object is deleted once, when no pointer to it is left. -/
theorem deletions_eq {id : Nat} {shared : Shared Object}
    (counted : Counted heap pointers) (found : heap[id]? = some shared) :
    shared.deletions = if some id ∈ pointers then 0 else 1 := by
  rw [counted.deletions found, counted.useCount found]
  simp only [List.count_eq_zero, ite_not]

/-- What a pointer points to has not been deleted. -/
theorem alive {id : Nat} (counted : Counted heap pointers)
    (held : some id ∈ pointers) :
    ∃ shared, heap[id]? = some shared ∧ shared.deletions = 0 := by
  have inside := counted.allocated held
  refine ⟨heap[id], List.getElem?_eq_getElem inside, ?_⟩
  rw [counted.deletions_eq (List.getElem?_eq_getElem inside), if_pos held]

end Counted

end SharedHeap
