import Mathlib.Tactic.Common

/-!
# Stretches of a list

A list as a store: `slice` is what stands at a stretch of positions, `patch`
puts other elements there.  A patch is described by what stands at each position
afterwards, so the slice at its place is what was put there, and every other
position keeps its element.
-/

namespace Region

variable {α : Type*}

/-- The elements at `count` positions from `offset` on. -/
def slice (content : List α) (offset count : Nat) : List α :=
  (content.drop offset).take count

/-- The list with `elements` at the positions from `offset` on. -/
def patch (content : List α) (offset : Nat) (elements : List α) : List α :=
  content.take offset ++
    (elements ++ content.drop (offset + elements.length))

theorem slice_getElem?
    (content : List α) (offset count index : Nat) :
    (slice content offset count)[index]? =
      if index < count then content[offset + index]? else none := by
  rw [slice, List.getElem?_take, List.getElem?_drop]

theorem slice_length
    {content : List α} {offset count : Nat}
    (inside : offset + count ≤ content.length) :
    (slice content offset count).length = count := by
  rw [slice, List.length_take, List.length_drop]
  omega

theorem patch_getElem?
    {content : List α} {offset : Nat} (elements : List α)
    (inside : offset ≤ content.length) (position : Nat) :
    (patch content offset elements)[position]? =
      if offset ≤ position ∧ position < offset + elements.length then
        elements[position - offset]?
      else content[position]? := by
  have front : (content.take offset).length = offset := by
    rw [List.length_take, Nat.min_eq_left inside]
  rw [patch, List.getElem?_append, List.getElem?_append, front,
    List.getElem?_take, List.getElem?_drop]
  split
  case isTrue before =>
    rw [if_neg (by omega)]
  case isFalse behind =>
    split
    case isTrue among =>
      rw [if_pos (by omega)]
    case isFalse beyond =>
      rw [if_neg (by omega)]
      congr 1
      omega

theorem patch_length
    {content : List α} {offset : Nat} {elements : List α}
    (inside : offset + elements.length ≤ content.length) :
    (patch content offset elements).length = content.length := by
  simp only [patch, List.length_append, List.length_take, List.length_drop]
  omega

end Region
