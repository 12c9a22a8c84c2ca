import Mathlib.Order.WithBot
import Mathlib.Tactic.Common

/-!
# Binary heaps in an array, smallest key first

The layout of the standard heap algorithms: node `0` is the root and the
parent of node `i` is `(i - 1) / 2`.  Pushing appends an entry and swaps it
with its parent while its key is strictly smaller; popping swaps the root with
the last entry, drops it, and swaps the new root with its smaller child while
the child's key is strictly smaller.

The order argument is made on the level function, which maps every natural
number to the key stored there and the positions past the end to `⊤`.  No
bound has to be carried, and one swap of entries is one swap of two values.
A heap with its order proof is bundled as `MinHeap`, and the queue rules at
the end are stated for it: what the entries are after each operation, that the
top has the least key, and that a push of a key that is not smaller keeps the
top.

Entries with equal keys do not come out in the order of `std::priority_queue`,
whose pop moves the hole down to a leaf first.  The queue rules leave it open
which of several least entries is on top, so nothing that is proved from them
depends on it.
-/

namespace MinHeap

/-! ## Order of a level function -/

/-- The node above `node`; the root is its own parent. -/
def parent (node : Nat) : Nat := (node - 1) / 2

theorem parent_le (node : Nat) : parent node ≤ node := by
  rw [parent]
  omega

theorem parent_lt {node : Nat} (positive : 0 < node) :
    parent node < node := by
  rw [parent]
  omega

@[simp]
theorem parent_zero : parent 0 = 0 := rfl

/-- The nodes below `node` are the two that follow `2 * node`. -/
theorem eq_child_of_parent
    {child node : Nat} (positive : 0 < child) (isParent : parent child = node) :
    child = 2 * node + 1 ∨ child = 2 * node + 2 := by
  rw [parent] at isParent
  omega

section Levels

variable {Key : Type*} [LinearOrder Key]

/-- No node lies below its parent. -/
def LevelsOrdered (level : Nat → Key) : Prop :=
  ∀ node, level (parent node) ≤ level node

/-- The root of ordered levels is least. -/
theorem LevelsOrdered.root_le
    {level : Nat → Key} (ordered : LevelsOrdered level) (node : Nat) :
    level 0 ≤ level node := by
  induction node using Nat.strongRecOn with
  | _ node induction =>
      rcases Nat.eq_zero_or_pos node with rfl | positive
      · exact le_rfl
      · exact
          (induction (parent node) (parent_lt positive)).trans (ordered node)

/-- Exchange the values at two positions. -/
def exchange (level : Nat → Key) (first second : Nat) : Nat → Key :=
  fun node =>
    if node = first then level second
    else if node = second then level first
    else level node

/-- Only the edge above `hole` may be out of order. -/
structure UpReady (level : Nat → Key) (hole : Nat) : Prop where
  elsewhere : ∀ node, node ≠ hole → level (parent node) ≤ level node
  grandchild : ∀ node, parent node = hole → level (parent hole) ≤ level node

theorem UpReady.exchange
    {level : Nat → Key} {hole : Nat}
    (ready : UpReady level hole)
    (smaller : level hole < level (parent hole)) :
    UpReady (exchange level hole (parent hole)) (parent hole) := by
  have moved : parent hole ≠ hole := by
    intro same
    rw [same] at smaller
    exact smaller.ne rfl
  constructor
  · intro node notParent
    have elsewhere := ready.elsewhere node
    have grandchild := ready.grandchild node
    by_cases isHole : node = hole
    · subst isHole
      simp [MinHeap.exchange, moved, smaller.le]
    · have old := elsewhere isHole
      by_cases aboveHole : parent node = hole
      · have le := grandchild aboveHole
        simpa [MinHeap.exchange, aboveHole, isHole, notParent] using le
      · by_cases aboveParent : parent node = parent hole
        · rw [aboveParent] at old
          simpa [MinHeap.exchange, aboveParent, moved, isHole, notParent]
            using smaller.le.trans old
        · simpa [MinHeap.exchange, aboveHole, aboveParent, isHole, notParent]
            using old
  · intro node below
    have upper := ready.elsewhere (parent hole) moved
    by_cases atRoot : parent hole = 0
    · rw [atRoot] at below smaller moved ⊢
      have value : MinHeap.exchange level hole 0 (parent 0) = level hole := by
        simp [MinHeap.exchange, moved]
      rw [value]
      by_cases isHole : node = hole
      · subst isHole
        simpa [MinHeap.exchange] using smaller.le
      · by_cases isRoot : node = 0
        · subst isRoot
          simp [MinHeap.exchange, moved]
        · have old := ready.elsewhere node isHole
          rw [below] at old
          simpa [MinHeap.exchange, isHole, isRoot] using smaller.le.trans old
    · have shorter : parent (parent hole) < parent hole :=
        parent_lt (Nat.pos_of_ne_zero atRoot)
      have outside : parent (parent hole) ≠ hole := by
        have := parent_le hole
        omega
      have value :
          MinHeap.exchange level hole (parent hole) (parent (parent hole)) =
            level (parent (parent hole)) := by
        simp [MinHeap.exchange, outside, shorter.ne]
      rw [value]
      by_cases isHole : node = hole
      · subst isHole
        simpa [MinHeap.exchange] using upper
      · have notParent : node ≠ parent hole := by
          rintro rfl
          omega
        have old := ready.elsewhere node isHole
        rw [below] at old
        simpa [MinHeap.exchange, isHole, notParent] using upper.trans old

theorem UpReady.ordered
    {level : Nat → Key} {hole : Nat}
    (ready : UpReady level hole)
    (stopped : ¬ level hole < level (parent hole)) :
    LevelsOrdered level := by
  intro node
  by_cases isHole : node = hole
  · subst isHole
    exact not_lt.mp stopped
  · exact ready.elsewhere node isHole

/-- Only the edges below `hole` may be out of order. -/
structure DownReady (level : Nat → Key) (hole : Nat) : Prop where
  elsewhere : ∀ node, parent node ≠ hole → level (parent node) ≤ level node
  grandchild :
    0 < hole → ∀ node, parent node = hole → level (parent hole) ≤ level node

theorem DownReady.exchange
    {level : Nat → Key} {hole child : Nat}
    (ready : DownReady level hole)
    (below : hole < child)
    (isParent : parent child = hole)
    (least :
      ∀ node, 0 < node → parent node = hole → level child ≤ level node)
    (smaller : level child < level hole) :
    DownReady (exchange level hole child) child := by
  constructor
  · intro node notBelow
    have elsewhere := ready.elsewhere node
    by_cases isChild : node = child
    · subst isChild
      simpa [MinHeap.exchange, isParent, below.ne'] using smaller.le
    · by_cases isHole : node = hole
      · subst isHole
        rcases Nat.eq_zero_or_pos node with rfl | positive
        · simp
        · have le := ready.grandchild positive child isParent
          have notSelf := (parent_lt positive).ne
          simpa [MinHeap.exchange, notSelf, notBelow] using le
      · by_cases aboveHole : parent node = hole
        · have positive : 0 < node := by
            rcases Nat.eq_zero_or_pos node with rfl | positive
            · exact absurd aboveHole isHole
            · exact positive
          simpa [MinHeap.exchange, aboveHole, isHole, isChild]
            using least node positive aboveHole
        · simpa [MinHeap.exchange, aboveHole, notBelow, isHole, isChild]
            using elsewhere aboveHole
  · intro _ node isBelow
    have positive : 0 < node := by
      rcases Nat.eq_zero_or_pos node with rfl | positive
      · rw [parent_zero] at isBelow
        omega
      · exact positive
    have deeper : child < node := isBelow ▸ parent_lt positive
    have old := ready.elsewhere node (by omega)
    rw [isBelow] at old
    simpa [MinHeap.exchange, isParent, deeper.ne', (below.trans deeper).ne']
      using old

theorem DownReady.ordered
    {level : Nat → Key} {hole : Nat}
    (ready : DownReady level hole)
    (stopped :
      ∀ node, 0 < node → parent node = hole → level hole ≤ level node) :
    LevelsOrdered level := by
  intro node
  by_cases below : parent node = hole
  · rcases Nat.eq_zero_or_pos node with rfl | positive
    · exact le_rfl
    · rw [below]
      exact stopped node positive below
  · exact ready.elsewhere node below

end Levels

/-! ## The two sifts on an array -/

section Sift

variable {Entry Key : Type*} (key : Entry → Key)

/-- The key at a position, `⊤` past the end. -/
def levelOf (entries : Array Entry) (node : Nat) : WithTop Key :=
  (entries[node]?).elim ⊤ fun entry => (key entry : WithTop Key)

theorem levelOf_getElem
    (entries : Array Entry) (node : Nat) (inside : node < entries.size) :
    levelOf key entries node = (key entries[node] : WithTop Key) := by
  simp [levelOf, inside]

theorem levelOf_outside
    (entries : Array Entry) (node : Nat) (outside : entries.size ≤ node) :
    levelOf key entries node = ⊤ := by
  simp [levelOf, outside]

theorem levelOf_swap
    (entries : Array Entry) (first second : Nat)
    (firstInside : first < entries.size)
    (secondInside : second < entries.size) :
    levelOf key (entries.swapIfInBounds first second) =
      exchange (levelOf key entries) first second := by
  funext node
  by_cases inside : node < entries.size
  · rw [levelOf_getElem key _ node (by simpa using inside),
      Array.getElem_swapIfInBounds]
    rw [exchange, levelOf_getElem key _ _ firstInside,
      levelOf_getElem key _ _ secondInside, levelOf_getElem key _ _ inside]
    simp only [firstInside, secondInside, and_true]
    split_ifs <;> rfl
  · have outside : entries.size ≤ node := not_lt.mp inside
    rw [levelOf_outside _ _ _ (by simpa using outside), exchange,
      if_neg (by omega), if_neg (by omega), levelOf_outside _ _ _ outside]

theorem swapIfInBounds_perm
    (entries : Array Entry) (first second : Nat) :
    (entries.swapIfInBounds first second).toList.Perm entries.toList := by
  rw [Array.swapIfInBounds_def]
  split_ifs
  · exact Array.perm_iff_toList_perm.mp (Array.swap_perm _ _)
  · exact List.Perm.refl _
  · exact List.Perm.refl _

variable [LinearOrder Key]

/-- A level that is smaller than another one is the key of an entry. -/
theorem inside_of_levelOf_lt
    {entries : Array Entry} {node : Nat} {bound : WithTop Key}
    (smaller : levelOf key entries node < bound) :
    node < entries.size := by
  by_contra outside
  rw [levelOf_outside key entries node (not_lt.mp outside)] at smaller
  exact not_top_lt smaller

/-- The entries form a heap when their levels are ordered. -/
def Ordered (entries : Array Entry) : Prop :=
  LevelsOrdered (levelOf key entries)

/-- Swap the entry at `node` with its parent while its key is smaller. -/
def siftUp : Nat → Array Entry → Nat → Array Entry
  | 0, entries, _ => entries
  | fuel + 1, entries, node =>
      if levelOf key entries node < levelOf key entries (parent node) then
        siftUp fuel (entries.swapIfInBounds node (parent node)) (parent node)
      else entries

/-- The child of `node` with the smaller key, the left one on a tie. -/
def smallerChild (entries : Array Entry) (node : Nat) : Nat :=
  if levelOf key entries (2 * node + 2) < levelOf key entries (2 * node + 1)
  then 2 * node + 2
  else 2 * node + 1

/-- Swap the entry at `node` with its smaller child while that one is smaller. -/
def siftDown : Nat → Array Entry → Nat → Array Entry
  | 0, entries, _ => entries
  | fuel + 1, entries, node =>
      if levelOf key entries (smallerChild key entries node) <
          levelOf key entries node then
        siftDown fuel
          (entries.swapIfInBounds node (smallerChild key entries node))
          (smallerChild key entries node)
      else entries

theorem siftUp_perm (fuel : Nat) (entries : Array Entry) (node : Nat) :
    (siftUp key fuel entries node).toList.Perm entries.toList := by
  induction fuel generalizing entries node with
  | zero => exact List.Perm.refl _
  | succ fuel induction =>
      rw [siftUp]
      split_ifs
      · exact (induction _ _).trans (swapIfInBounds_perm _ _ _)
      · exact List.Perm.refl _

theorem siftDown_perm (fuel : Nat) (entries : Array Entry) (node : Nat) :
    (siftDown key fuel entries node).toList.Perm entries.toList := by
  induction fuel generalizing entries node with
  | zero => exact List.Perm.refl _
  | succ fuel induction =>
      rw [siftDown]
      split_ifs
      · exact (induction _ _).trans (swapIfInBounds_perm _ _ _)
      · exact List.Perm.refl _

theorem siftUp_ordered
    {fuel : Nat} {entries : Array Entry} {node : Nat}
    (enough : node ≤ fuel)
    (ready : UpReady (levelOf key entries) node) :
    Ordered key (siftUp key fuel entries node) := by
  induction fuel generalizing entries node with
  | zero =>
      obtain rfl : node = 0 := Nat.le_zero.mp enough
      exact ready.ordered (lt_irrefl _)
  | succ fuel induction =>
      rw [siftUp]
      split_ifs with smaller
      · have inside := inside_of_levelOf_lt key smaller
        refine induction ?_ ?_
        · have moved : node ≠ 0 := by
            rintro rfl
            exact lt_irrefl _ smaller
          have := parent_lt (Nat.pos_of_ne_zero moved)
          omega
        · rw [levelOf_swap key _ _ _ inside ((parent_le node).trans_lt inside)]
          exact ready.exchange smaller
      · exact ready.ordered smaller

theorem parent_smallerChild (entries : Array Entry) (node : Nat) :
    parent (smallerChild key entries node) = node := by
  rw [smallerChild, parent]
  split_ifs <;> omega

theorem lt_smallerChild (entries : Array Entry) (node : Nat) :
    node < smallerChild key entries node := by
  rw [smallerChild]
  split_ifs <;> omega

theorem smallerChild_le
    (entries : Array Entry) (node child : Nat)
    (positive : 0 < child) (isParent : parent child = node) :
    levelOf key entries (smallerChild key entries node) ≤
      levelOf key entries child := by
  rw [smallerChild]
  rcases eq_child_of_parent positive isParent with rfl | rfl
  · split_ifs with smaller
    · exact smaller.le
    · exact le_rfl
  · split_ifs with smaller
    · exact le_rfl
    · exact not_lt.mp smaller

theorem siftDown_ordered
    {fuel : Nat} {entries : Array Entry} {node : Nat}
    (enough : entries.size ≤ node + fuel)
    (ready : DownReady (levelOf key entries) node) :
    Ordered key (siftDown key fuel entries node) := by
  induction fuel generalizing entries node with
  | zero =>
      refine ready.ordered fun child positive isParent => ?_
      have deeper : node < child := isParent ▸ parent_lt positive
      rw [levelOf_outside key _ child (by omega)]
      exact le_top
  | succ fuel induction =>
      rw [siftDown]
      split_ifs with smaller
      · have below := lt_smallerChild key entries node
        have inside := inside_of_levelOf_lt key smaller
        refine induction ?_ ?_
        · rw [Array.size_swapIfInBounds]
          omega
        · rw [levelOf_swap key _ _ _ (below.trans inside) inside]
          exact
            ready.exchange below (parent_smallerChild key entries node)
              (smallerChild_le key entries node) smaller
      · exact
          ready.ordered fun child positive isParent =>
            (not_lt.mp smaller).trans
              (smallerChild_le key entries node child positive isParent)

/-- A sift that starts below the root at a level not under it keeps the root. -/
theorem siftUp_root
    {fuel : Nat} {entries : Array Entry} {node : Nat}
    (positive : 0 < node)
    (notBelow : levelOf key entries 0 ≤ levelOf key entries node) :
    (siftUp key fuel entries node)[0]? = entries[0]? := by
  induction fuel generalizing entries node with
  | zero => rfl
  | succ fuel induction =>
      rw [siftUp]
      split_ifs with smaller
      · have inside := inside_of_levelOf_lt key smaller
        have parentInside := (parent_le node).trans_lt inside
        have parentPositive : 0 < parent node := by
          refine Nat.pos_of_ne_zero fun atRoot => ?_
          rw [atRoot] at smaller
          exact absurd smaller (not_lt.mpr notBelow)
        rw [induction parentPositive]
        · rw [Array.getElem?_eq_getElem (by simp; omega),
            Array.getElem?_eq_getElem (by omega),
            Array.getElem_swapIfInBounds_of_ne_of_ne positive.ne
              parentPositive.ne]
        · rw [levelOf_swap key _ _ _ inside parentInside]
          simpa [exchange, positive.ne, parentPositive.ne,
            (parent_lt positive).ne] using notBelow
      · rfl

end Sift

/-! ## The queue -/

end MinHeap

/-- An array of entries in heap order, smallest key at the root. -/
structure MinHeap {Entry Key : Type*} [LinearOrder Key]
    (key : Entry → Key) where
  entries : Array Entry
  ordered : MinHeap.Ordered key entries

namespace MinHeap

variable {Entry Key : Type*} [LinearOrder Key] {key : Entry → Key}

/-- The heap without entries. -/
def empty : MinHeap key where
  entries := #[]
  ordered := by
    intro node
    rw [levelOf_outside key #[] node (Nat.zero_le node)]
    exact le_top

/-- The stored entries, in array order. -/
def toList (heap : MinHeap key) : List Entry := heap.entries.toList

/-- The entry at the root. -/
def top? (heap : MinHeap key) : Option Entry := heap.entries[0]?

def isEmpty (heap : MinHeap key) : Bool := heap.entries.isEmpty

theorem push_upReady (heap : MinHeap key) (entry : Entry) :
    UpReady (levelOf key (heap.entries.push entry)) heap.entries.size := by
  have kept : ∀ node, node ≠ heap.entries.size →
      levelOf key (heap.entries.push entry) node =
        levelOf key heap.entries node := by
    intro node notLast
    simp only [levelOf]
    rw [Array.getElem?_push, if_neg notLast]
  have deep : ∀ node, parent node = heap.entries.size →
      0 < heap.entries.size →
        levelOf key (heap.entries.push entry) node = ⊤ := by
    intro node below nonempty
    refine levelOf_outside key _ node ?_
    rw [Array.size_push]
    rw [parent] at below
    omega
  constructor
  · intro node notLast
    by_cases below : parent node = heap.entries.size
    · rcases Nat.eq_zero_or_pos heap.entries.size with isZero | nonempty
      · rw [kept node notLast,
          levelOf_outside key heap.entries node (by omega)]
        exact le_top
      · rw [deep node below nonempty]
        exact le_top
    · rw [kept node notLast, kept (parent node) below]
      exact heap.ordered node
  · intro node below
    rcases Nat.eq_zero_or_pos heap.entries.size with isZero | nonempty
    · rw [isZero] at below ⊢
      by_cases isRoot : node = 0
      · subst isRoot
        exact le_rfl
      · rw [kept node (by omega),
          levelOf_outside key heap.entries node (by omega)]
        exact le_top
    · rw [deep node below nonempty]
      exact le_top

/-- Append an entry and sift it up. -/
def push (heap : MinHeap key) (entry : Entry) : MinHeap key where
  entries :=
    siftUp key heap.entries.size (heap.entries.push entry) heap.entries.size
  ordered := siftUp_ordered key le_rfl (heap.push_upReady entry)

theorem pop_downReady (heap : MinHeap key) :
    DownReady
      (levelOf key
        (heap.entries.swapIfInBounds 0 (heap.entries.size - 1)).pop) 0 := by
  refine
    ⟨fun node notBelow => ?_,
      fun impossible => absurd impossible (lt_irrefl 0)⟩
  by_cases inside : node < heap.entries.size - 1
  · have positive : 0 < node := by
      refine Nat.pos_of_ne_zero ?_
      rintro rfl
      exact notBelow rfl
    have shorter := parent_lt positive
    have kept : ∀ other, 0 < other → other < heap.entries.size - 1 →
        levelOf key
            (heap.entries.swapIfInBounds 0 (heap.entries.size - 1)).pop
            other =
          levelOf key heap.entries other := by
      intro other otherPositive otherInside
      rw [levelOf_getElem key _ _ (by simpa using otherInside),
        levelOf_getElem key _ _ (by omega), Array.getElem_pop,
        Array.getElem_swapIfInBounds_of_ne_of_ne otherPositive.ne'
          otherInside.ne]
    rw [kept node positive inside,
      kept (parent node) (Nat.pos_of_ne_zero notBelow)
        (shorter.trans inside)]
    exact heap.ordered node
  · rw [levelOf_outside key _ node (by simpa using inside)]
    exact le_top

/-- Replace the root by the last entry and sift it down. -/
def pop (heap : MinHeap key) : MinHeap key where
  entries :=
    siftDown key heap.entries.size
      (heap.entries.swapIfInBounds 0 (heap.entries.size - 1)).pop 0
  ordered := siftDown_ordered key (by simp) heap.pop_downReady

/-! ### Rules -/

theorem toList_eq_nil_iff (heap : MinHeap key) :
    heap.toList = [] ↔ heap.top? = none := by
  simp [toList, top?, Array.toList_eq_nil_iff]

theorem isEmpty_iff (heap : MinHeap key) :
    heap.isEmpty = true ↔ heap.toList = [] := by
  simp [toList, isEmpty, Array.toList_eq_nil_iff]

/-- A push adds exactly the entry. -/
theorem push_perm (heap : MinHeap key) (entry : Entry) :
    (heap.push entry).toList.Perm (entry :: heap.toList) := by
  refine (siftUp_perm key _ _ _).trans ?_
  rw [Array.toList_push]
  exact List.perm_append_singleton _ _

theorem top?_mem {heap : MinHeap key} {entry : Entry}
    (isTop : heap.top? = some entry) : entry ∈ heap.toList := by
  rw [top?] at isTop
  exact Array.mem_toList_iff.mpr (Array.mem_of_getElem? isTop)

/-- The top has the least key. -/
theorem top?_le {heap : MinHeap key} {least entry : Entry}
    (isTop : heap.top? = some least) (member : entry ∈ heap.toList) :
    key least ≤ key entry := by
  rcases List.mem_iff_getElem.mp member with ⟨node, inside, atNode⟩
  have insideArray : node < heap.entries.size := by
    simpa [toList] using inside
  rcases Array.getElem?_eq_some_iff.mp isTop with ⟨rootInside, atRoot⟩
  have le := LevelsOrdered.root_le heap.ordered node
  rw [levelOf_getElem key _ _ rootInside, levelOf_getElem key _ _ insideArray,
    WithTop.coe_le_coe, atRoot] at le
  simpa [toList, ← atNode] using le

/-- A push of a key that is not smaller than the top's keeps the top. -/
theorem push_top?
    {heap : MinHeap key} {least : Entry} (entry : Entry)
    (isTop : heap.top? = some least)
    (notSmaller : key least ≤ key entry) :
    (heap.push entry).top? = some least := by
  rcases Array.getElem?_eq_some_iff.mp isTop with ⟨rootInside, atRoot⟩
  have root :
      (heap.entries.push entry)[0]? = some least := by
    rw [Array.getElem?_push, if_neg (by omega)]
    exact isTop
  rw [top?, push, siftUp_root key rootInside]
  · exact root
  · rw [levelOf_getElem key _ _ (by simp), levelOf_getElem key _ _ (by simp),
      WithTop.coe_le_coe, Array.getElem_push_lt rootInside,
      Array.getElem_push_eq, atRoot]
    exact notSmaller

/-- After a push the top is the new entry or the old top. -/
theorem push_top?_cases
    {heap : MinHeap key} {entry least : Entry}
    (isTop : (heap.push entry).top? = some least) :
    least = entry ∨ heap.top? = some least := by
  have pushed := heap.push_perm entry
  rcases List.mem_cons.mp (pushed.mem_iff.mp (top?_mem isTop)) with
    isNew | isOld
  · exact Or.inl isNew
  · cases atRoot : heap.top? with
    | none =>
        rw [(toList_eq_nil_iff heap).mpr atRoot] at isOld
        cases isOld
    | some old =>
        by_cases notSmaller : key old ≤ key entry
        · rw [push_top? entry atRoot notSmaller] at isTop
          exact Or.inr isTop
        · exfalso
          apply notSmaller
          have leEntry : key least ≤ key entry :=
            top?_le isTop (pushed.mem_iff.mpr List.mem_cons_self)
          exact (top?_le atRoot isOld).trans leEntry

/-- A pop removes exactly the top. -/
theorem pop_perm {heap : MinHeap key} {least : Entry}
    (isTop : heap.top? = some least) :
    heap.toList.Perm (least :: heap.pop.toList) := by
  rcases Array.getElem?_eq_some_iff.mp isTop with ⟨rootInside, atRoot⟩
  have lastInside : heap.entries.size - 1 < heap.entries.size := by omega
  have swapped :
      (heap.entries.swapIfInBounds 0 (heap.entries.size - 1)).toList =
        (heap.entries.swapIfInBounds 0
          (heap.entries.size - 1)).pop.toList ++ [least] := by
    rw [← Array.toList_push]
    congr 1
    refine Array.ext (by simp; omega) fun node inside _ => ?_
    by_cases isLast : node = heap.entries.size - 1
    · subst isLast
      simp [Array.getElem_push, rootInside, atRoot]
    · have before : node < heap.entries.size - 1 := by
        simp at inside
        omega
      simp [Array.getElem_push, before]
  refine (swapIfInBounds_perm _ 0 (heap.entries.size - 1)).symm.trans ?_
  rw [swapped]
  exact
    (List.perm_append_singleton _ _).trans
      ((siftDown_perm key _ _ _).symm.cons least)

end MinHeap
