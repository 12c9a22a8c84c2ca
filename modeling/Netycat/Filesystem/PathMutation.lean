import Netycat.Filesystem.PathJoin

/-!
# Changing a path in place

Three operations leave a path that is not that of its string, or read a string
that they have already changed.  `swap` and `clear` change the string and keep
the three lengths.  `operator /=` may be given its own object: in the branch
that keeps the root only, the argument is truncated before it is appended.

For each of them the theorems below give the paths for which nothing goes
wrong.
-/

namespace Netycat.Filesystem

namespace FilePath

/-! ## The accessors as a whole -/

/-- No accessor tells the two paths apart. -/
structure Alike (x y : FilePath) : Prop where
  hasRoot : x.hasRoot = y.hasRoot
  hasRootDirectory : x.hasRootDirectory = y.hasRootDirectory
  hasFilename : x.hasFilename = y.hasFilename
  isAbsolute : x.isAbsolute = y.isAbsolute
  getRootString : x.getRootString = y.getRootString
  getRootDirectoryString :
    x.getRootDirectoryString = y.getRootDirectoryString
  getRelativePathString :
    x.getRelativePathString = y.getRelativePathString
  getFilenameString : x.getFilenameString = y.getFilenameString

theorem Alike.refl (x : FilePath) : Alike x x :=
  ⟨rfl, rfl, rfl, rfl, rfl, rfl, rfl, rfl⟩

/-- Every position at which an accessor cuts the string is in it. -/
def InRange (path : FilePath) : Prop :=
  ∀ offset ∈ path.offsets, 0 ≤ offset ∧ offset ≤ path.data.length

structure SameLengths (x y : FilePath) : Prop where
  root : x.rootLength = y.rootLength
  rootDirectory : x.rootDirectoryLength = y.rootDirectoryLength
  filename : x.filenameLength = y.filenameLength

theorem inRange_iff (path : FilePath) :
    path.InRange ↔
      path.rootLength ≤ path.data.length ∧
        path.rootDirectoryLength ≤ path.data.length ∧
        path.filenameLength ≤ path.data.length := by
  simp only [InRange, offsets, List.forall_mem_cons]
  constructor
  · rintro ⟨root, rootDirectory, filename, _⟩
    omega
  · rintro ⟨root, rootDirectory, filename⟩
    refine ⟨by omega, by omega, by omega, ?_⟩
    intro offset member
    cases member

theorem Built.inRange {path : FilePath} (built : Built path) :
    path.InRange := by
  rw [built.eq_ofString, ofString_eq_parsed, inRange_iff]
  have whole := congrArg List.length (PathText.parts_append path.data)
  have filename := (filename_suffix path.data).length_le
  rw [List.length_append, List.length_append] at whole
  simp only [parsed, List.length_append]
  omega

/-- Paths with the same string are cut at the same places when no accessor
tells them apart. -/
theorem Alike.sameLengths
    {x y : FilePath} (alike : Alike x y) (same : x.data = y.data)
    (insideX : x.InRange) (insideY : y.InRange) :
    SameLengths x y := by
  have root := congrArg List.length alike.getRootString
  have rootDirectory := congrArg List.length alike.getRootDirectoryString
  have filename := congrArg List.length alike.getFilenameString
  rw [inRange_iff, same] at insideX
  rw [inRange_iff] at insideY
  simp only [FilePath.getRootString, FilePath.getRootDirectoryString,
    FilePath.getFilenameString, List.length_take, List.length_drop, same]
    at root rootDirectory filename
  constructor
  · omega
  · omega
  · omega

theorem SameLengths.eq
    {x y : FilePath} (lengths : SameLengths x y)
    (same : x.data = y.data) :
    x = y := by
  cases x with
  | mk data root rootDirectory filename =>
      cases y with
      | mk data' root' rootDirectory' filename' =>
          rcases lengths with ⟨rfl, rfl, rfl⟩
          cases same
          rfl

/-! ## `swap` and `clear` -/

/-- What further joins make of the paths `bases` and of other paths. -/
inductive JoinedFrom (bases : List FilePath) : FilePath → Prop where
  | base {path : FilePath} : path ∈ bases → JoinedFrom bases path
  | built {path : FilePath} : Built path → JoinedFrom bases path
  | join {a b : FilePath} :
      JoinedFrom bases a → JoinedFrom bases b →
        JoinedFrom bases (a.divAssign b)

theorem JoinedFrom.inRange
    {bases : List FilePath} {path : FilePath}
    (joined : JoinedFrom bases path)
    (sound : ∀ path ∈ bases, Built path) :
    path.InRange := by
  have built : Built path := by
    induction joined with
    | base member => exact sound _ member
    | built built => exact built
    | join _ _ first second => exact .join first second
  exact built.inRange

/-- `p.swap(q)` has exchanged the two paths, for every accessor and whatever
they are joined with. -/
structure SwapRight (p q : FilePath) : Prop where
  first : Alike (p.swap q).1 q
  second : Alike (p.swap q).2 p
  inRange :
    ∀ path, JoinedFrom [(p.swap q).1, (p.swap q).2] path → path.InRange

/-- `p.clear()` has made `p` the path `FilePath()`. -/
structure ClearRight (p : FilePath) : Prop where
  alike : Alike p.clear {}
  inRange : ∀ path, JoinedFrom [p.clear] path → path.InRange

theorem swapRight_iff (p q : BuiltPath) :
    SwapRight p.val q.val ↔ SameLengths p.val q.val := by
  constructor
  · intro right
    have inside : (p.val.swap q.val).1.InRange :=
      right.inRange _ (.base (List.mem_cons_self ..))
    have lengths := right.first.sameLengths rfl inside q.property.inRange
    exact ⟨lengths.root, lengths.rootDirectory, lengths.filename⟩
  · intro lengths
    have first : (p.val.swap q.val).1 = q.val :=
      SameLengths.eq
        ⟨lengths.root, lengths.rootDirectory, lengths.filename⟩ rfl
    have second : (p.val.swap q.val).2 = p.val :=
      SameLengths.eq
        ⟨lengths.root.symm, lengths.rootDirectory.symm,
          lengths.filename.symm⟩ rfl
    constructor
    · rw [first]
      exact Alike.refl q.val
    · rw [second]
      exact Alike.refl p.val
    · intro path joined
      rw [first, second] at joined
      apply joined.inRange
      simp only [List.forall_mem_cons]
      exact ⟨q.property, p.property, by simp⟩

theorem clearRight_iff (p : BuiltPath) :
    ClearRight p.val ↔ SameLengths p.val {} := by
  constructor
  · intro right
    have inside : p.val.clear.InRange :=
      right.inRange _ (.base (List.mem_cons_self ..))
    have lengths :=
      right.alike.sameLengths rfl inside Built.default.inRange
    exact ⟨lengths.root, lengths.rootDirectory, lengths.filename⟩
  · intro lengths
    have cleared : p.val.clear = {} :=
      SameLengths.eq
        ⟨lengths.root, lengths.rootDirectory, lengths.filename⟩ rfl
    constructor
    · rw [cleared]
      exact Alike.refl {}
    · intro path joined
      rw [cleared] at joined
      apply joined.inRange
      simp only [List.forall_mem_cons]
      exact ⟨.default, by simp⟩

/--
`swap` is right exactly for two paths whose cached lengths agree, and `clear`
exactly for a path whose cached lengths are those of the empty one.
-/
theorem swap_clear_iff (p q : BuiltPath) :
    (SwapRight p.val q.val ↔ SameLengths p.val q.val) ∧
      (ClearRight p.val ↔ SameLengths p.val {}) :=
  ⟨swapRight_iff p q, clearRight_iff p⟩

/-- A path on a drive that is cleared, and one that is swapped with a name: the
empty path is absolute, and the name has a root longer than it. -/
theorem swap_clear_keep_lengths :
    let p := ofString (wideString "C:\\x")
    let q := ofString (wideString "y")
    p.clear.data = [] ∧ p.clear.isAbsolute = true ∧
      p.clear.rootDirectoryLength = 3 ∧ ¬ ClearRight p ∧
      (p.swap q).1.data.length = 1 ∧ (p.swap q).1.rootLength = 2 ∧
      ¬ SwapRight p q := by
  refine ⟨rfl, by decide, by decide, ?_, rfl, by decide, ?_⟩
  · intro right
    exact absurd right.alike.isAbsolute (by decide)
  · intro right
    exact absurd right.first.isAbsolute (by decide)

/-! ## Joining a path with itself -/

/-- What a string does that copies its argument first. -/
def SelfOperations.copying : SelfOperations where
  assign := fun s => s
  append := fun s => s ++ s
  assign_eq := fun _ => rfl
  append_eq := fun _ => rfl

/-- In every branch but one the argument is read before the string changes. -/
theorem divAssignSelf_eq
    (string : SelfOperations) (path : FilePath)
    (keeps : path.isAbsolute = true ∨ path.hasRootDirectory = false) :
    path.divAssignSelf string = path.divAssign path := by
  rw [divAssignSelf, divAssign]
  rcases keeps with absolute | noDirectory
  · simp [absolute]
  · have relative : path.isAbsolute = false := by
      rw [isAbsolute, noDirectory, Bool.and_false]
    simp [noDirectory, relative]

/-- In that branch nothing is left of the argument. -/
theorem divAssignSelf_data
    (string : SelfOperations) {path : FilePath}
    (noRoot : path.hasRoot = false)
    (directory : path.hasRootDirectory = true) :
    (path.divAssignSelf string).data = [] := by
  have relative : path.isAbsolute = false := by
    rw [isAbsolute, noRoot, Bool.false_and]
  have length : path.rootLength = 0 := by
    simpa [hasRoot] using noRoot
  rw [divAssignSelf, relative, noRoot, directory]
  simp [length]

/-- A copy of such a path replaces it. -/
theorem divAssign_copy_data
    {path : FilePath} (built : Built path)
    (noRoot : path.hasRoot = false)
    (directory : path.hasRootDirectory = true) :
    (path.divAssign path).data = path.data ∧ path.data ≠ [] := by
  rw [built.eq_ofString, ofString_hasRoot_eq] at noRoot
  rw [built.eq_ofString, ofString_hasRootDirectory_eq, noRoot,
    Bool.false_or] at directory
  constructor
  · rw [built.eq_ofString, divAssign_ofString, ofString_data,
      PathText.join_of_separator _ noRoot directory,
      PathText.root_of_noDrive noRoot, List.nil_append]
    rfl
  · intro nothing
    rw [nothing] at directory
    cases directory

/--
A path joined with itself is the path joined with a copy of itself, unless it
has a root directory and no drive.
-/
theorem divAssignSelf_iff (string : SelfOperations) (p : BuiltPath) :
    p.val.divAssignSelf string = p.val / p.val ↔
      ¬ (p.val.hasRoot = false ∧ p.val.hasRootDirectory = true) := by
  constructor
  · rintro same ⟨noRoot, directory⟩
    have lost := divAssignSelf_data string noRoot directory
    rcases divAssign_copy_data p.property noRoot directory with
      ⟨kept, something⟩
    rw [same, div_eq_divAssign, kept] at lost
    exact something lost
  · intro other
    apply divAssignSelf_eq
    rw [isAbsolute]
    cases directory : p.val.hasRootDirectory with
    | false => exact Or.inr rfl
    | true =>
        apply Or.inl
        rw [Bool.and_true, ← Bool.not_eq_false]
        exact fun noRoot => other ⟨noRoot, directory⟩

/-- A path below the root of the current drive loses its string. -/
theorem divAssignSelf_loses :
    let p := ofString (wideString "\\dir")
    p.divAssignSelf .copying =
        { data := [], rootLength := 0, rootDirectoryLength := 0,
          filenameLength := 3 } ∧
      p / p = p ∧ p.divAssignSelf .copying ≠ p / p := by
  decide

end FilePath

end Netycat.Filesystem
