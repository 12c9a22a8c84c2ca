import Netycat.Filesystem.PathParse
import Netycat.Lib.Grouping

/-!
# Joins

A join of strings replaces the left one, keeps only its drive prefix, or appends
to it, with a separator in between when it ends in a name.  The four branches of
`/=` compute this join, and since no append makes a drive prefix or takes one
away, `init` gets the lengths right although it starts from the old ones.  So
the paths that constructors and joins make are those of their strings, and the
join is associative because that of strings is.
-/

namespace Netycat.Filesystem

/-! ## Joins of strings -/

namespace PathText

/-- The last character behind the root is part of a name. -/
def endsInName (s : StringType) : Bool :=
  (body s).getLast?.any fun c => !isSeparator c

/-- What is put between a string and what is appended to it. -/
def glue (s : StringType) : StringType :=
  if endsInName s then [SEPARATOR] else []

def join (a b : StringType) : StringType :=
  if startsWithDrive b then b
  else if separatorFollows b then root a ++ b
  else a ++ glue a ++ b

theorem root_of_noDrive
    {s : StringType} (noDrive : startsWithDrive s = false) :
    root s = [] := by
  rw [root, noDrive]
  rfl

theorem body_of_noDrive
    {s : StringType} (noDrive : startsWithDrive s = false) :
    body s = s := by
  rw [body, noDrive]
  rfl

theorem startsWithDrive_append
    {s : StringType} (drive : startsWithDrive s = true)
    (more : StringType) :
    startsWithDrive (s ++ more) = true := by
  match s with
  | [] | [_] => cases drive
  | c :: d :: rest => exact drive

theorem startsWithDrive_root (s : StringType) :
    startsWithDrive (root s) = startsWithDrive s := by
  rw [root]
  split
  case isTrue drive =>
    rcases s with _ | ⟨c, _ | ⟨d, rest⟩⟩
    · rfl
    · rfl
    · rfl
  case isFalse noDrive => exact (Bool.eq_false_iff.mpr noDrive).symm

/-- No letter is a separator. -/
theorem isDriveLetter_of_isSeparator
    {c : CharType} (separator : isSeparator c = true) :
    isDriveLetter c = false := by
  simp only [isSeparator, Bool.or_eq_true, beq_iff_eq] at separator
  rcases separator with rfl | rfl
  · decide
  · decide

/-- An append that leaves the root as it is. -/
structure KeepsRoot (s more : StringType) : Prop where
  root : root (s ++ more) = root s
  body : body (s ++ more) = body s ++ more

theorem KeepsRoot.of_drive
    {s more : StringType}
    (same : startsWithDrive (s ++ more) = startsWithDrive s) :
    KeepsRoot s more := by
  cases drive : startsWithDrive s with
  | true =>
      rw [drive] at same
      have long := two_le_length drive
      constructor
      · rw [PathText.root, PathText.root, if_pos same, if_pos drive,
          List.take_append_of_le_length long]
      · rw [PathText.body, PathText.body, if_pos same, if_pos drive,
          List.drop_append_of_le_length long]
  | false =>
      rw [drive] at same
      exact
        ⟨by rw [root_of_noDrive same, root_of_noDrive drive],
          by rw [body_of_noDrive same, body_of_noDrive drive]⟩

/-- What a join appends does not make a drive prefix. -/
theorem startsWithDrive_glue
    (a : StringType) {b : StringType}
    (noDrive : startsWithDrive b = false) :
    startsWithDrive (a ++ (glue a ++ b)) = startsWithDrive a := by
  match a with
  | [] => exact noDrive
  | [c] =>
      cases separator : isSeparator c with
      | true =>
          have noLetter := isDriveLetter_of_isSeparator separator
          have nothing : glue [c] = [] := by
            simp [glue, endsInName, body, startsWithDrive, separator]
          rw [nothing]
          cases b with
          | nil => rfl
          | cons d rest => simp [startsWithDrive, noLetter]
      | false =>
          have something : glue [c] = [SEPARATOR] := by
            simp [glue, endsInName, body, startsWithDrive, separator]
          have noColon : (SEPARATOR == wide ':') = false := by decide
          rw [something]
          simp [startsWithDrive, noColon]
  | c :: d :: rest => rfl

theorem keepsRoot_glue
    (a : StringType) {b : StringType}
    (noDrive : startsWithDrive b = false) :
    KeepsRoot a (glue a ++ b) :=
  KeepsRoot.of_drive (startsWithDrive_glue a noDrive)

theorem root_root (s : StringType) : root (root s) = root s := by
  cases drive : startsWithDrive s with
  | true =>
      rw [root, startsWithDrive_root, drive, if_pos rfl, root, drive,
        if_pos rfl, List.take_take, Nat.min_self]
  | false => rw [root_of_noDrive drive, root_of_noDrive rfl]

theorem body_root (s : StringType) : body (root s) = [] := by
  have whole := root_append_body (root s)
  rw [root_root] at whole
  simpa using whole

theorem startsWithDrive_root_append
    (a : StringType) {b : StringType}
    (noDrive : startsWithDrive b = false) :
    startsWithDrive (root a ++ b) = startsWithDrive (root a) := by
  cases drive : startsWithDrive a with
  | true =>
      have drive' : startsWithDrive (root a) = true := by
        rw [startsWithDrive_root, drive]
      rw [drive', startsWithDrive_append drive']
  | false => rw [root_of_noDrive drive]; exact noDrive

theorem join_of_drive
    (a : StringType) {b : StringType}
    (drive : startsWithDrive b = true) :
    join a b = b := by
  rw [join, if_pos drive]

theorem join_of_separator
    (a : StringType) {b : StringType}
    (noDrive : startsWithDrive b = false)
    (separator : separatorFollows b = true) :
    join a b = root a ++ b := by
  rw [join, if_neg (Bool.eq_false_iff.mp noDrive), if_pos separator]

theorem join_of_relative
    (a : StringType) {b : StringType}
    (noDrive : startsWithDrive b = false)
    (noSeparator : separatorFollows b = false) :
    join a b = a ++ (glue a ++ b) := by
  rw [join, if_neg (Bool.eq_false_iff.mp noDrive),
    if_neg (Bool.eq_false_iff.mp noSeparator), List.append_assoc]

theorem keepsRoot_root
    (a : StringType) {b : StringType}
    (noDrive : startsWithDrive b = false) :
    KeepsRoot (root a) b :=
  KeepsRoot.of_drive (startsWithDrive_root_append a noDrive)

/-- Only a string with a drive changes the root. -/
theorem root_join
    (a : StringType) {b : StringType}
    (noDrive : startsWithDrive b = false) :
    root (join a b) = root a := by
  cases separator : separatorFollows b with
  | true =>
      rw [join_of_separator a noDrive separator,
        (keepsRoot_root a noDrive).root, root_root]
  | false =>
      rw [join_of_relative a noDrive separator,
        (keepsRoot_glue a noDrive).root]

theorem startsWithDrive_join
    (a : StringType) {b : StringType}
    (noDrive : startsWithDrive b = false) :
    startsWithDrive (join a b) = startsWithDrive a := by
  rw [← startsWithDrive_root, root_join a noDrive, startsWithDrive_root]

theorem nil_join (s : StringType) : join [] s = s := by
  cases drive : startsWithDrive s with
  | true => exact join_of_drive [] drive
  | false =>
      cases separator : separatorFollows s with
      | true => exact join_of_separator [] drive separator
      | false => exact join_of_relative [] drive separator

/-! ### The ends of a join -/

theorem endsInName_of_body
    {s front b : StringType}
    (split : body s = front ++ b) (more : b ≠ [])
    (noDrive : startsWithDrive b = false) :
    endsInName s = endsInName b := by
  rw [endsInName, endsInName, split, body_of_noDrive noDrive,
    List.getLast?_append, List.getLast?_eq_some_getLast more,
    Option.some_or]

theorem glue_of_body
    {s front b : StringType}
    (split : body s = front ++ b) (more : b ≠ [])
    (noDrive : startsWithDrive b = false) :
    glue s = glue b := by
  rw [glue, glue, endsInName_of_body split more noDrive]

/-- One separator is enough. -/
theorem glue_append_glue (s : StringType) : glue (s ++ glue s) = [] := by
  have split := (keepsRoot_glue s (b := []) rfl).body
  rw [List.append_nil] at split
  cases named : endsInName s with
  | true =>
      have something : glue s = [SEPARATOR] := by rw [glue, if_pos named]
      rw [something] at split ⊢
      rw [glue, endsInName, split, List.getLast?_concat]
      rfl
  | false =>
      have nothing : glue s = [] := by
        rw [glue, if_neg (Bool.eq_false_iff.mp named)]
      rw [nothing, List.append_nil, nothing]

theorem separatorFollows_of_body
    {s t more : StringType}
    (split : body t = body s ++ more) (starts : body s ≠ []) :
    separatorFollows t = separatorFollows s := by
  rw [separatorFollows, separatorFollows, split, List.head?_append,
    List.head?_eq_some_head starts, Option.some_or]

/-- The case in which the last string is appended to the others. -/
theorem join_assoc_relative
    (a : StringType) {b c : StringType}
    (driveB : startsWithDrive b = false)
    (driveC : startsWithDrive c = false)
    (separatorC : separatorFollows c = false) :
    join (join a b) c = join a (join b c) := by
  have joined := join_of_relative b driveC separatorC
  have noDrive : startsWithDrive (join b c) = false := by
    rw [startsWithDrive_join b driveC, driveB]
  rw [join_of_relative _ driveC separatorC]
  by_cases nothing : b = []
  · rw [nothing, nil_join, join_of_relative a driveC separatorC,
      join_of_relative a rfl rfl, List.append_nil, glue_append_glue,
      List.nil_append, List.append_assoc]
  · have starts : body b ≠ [] := by
      rwa [body_of_noDrive driveB]
    have follows :
        separatorFollows (join b c) = separatorFollows b := by
      rw [joined]
      exact separatorFollows_of_body (keepsRoot_glue b driveC).body starts
    cases separatorB : separatorFollows b with
    | true =>
        have split : body (root a ++ b) = [] ++ b := by
          rw [(keepsRoot_root a driveB).body, body_root]
        rw [join_of_separator a driveB separatorB,
          join_of_separator a noDrive (follows.trans separatorB), joined,
          glue_of_body split nothing driveB, List.append_assoc]
    | false =>
        have split : body (a ++ (glue a ++ b)) = body a ++ glue a ++ b := by
          rw [(keepsRoot_glue a driveB).body, List.append_assoc]
        rw [join_of_relative a driveB separatorB,
          join_of_relative a noDrive (follows.trans separatorB), joined,
          glue_of_body split nothing driveB]
        simp only [List.append_assoc]

/-- Joins of strings are associative. -/
theorem join_assoc (a b c : StringType) :
    join (join a b) c = join a (join b c) := by
  cases driveC : startsWithDrive c with
  | true =>
      rw [join_of_drive _ driveC, join_of_drive b driveC,
        join_of_drive a driveC]
  | false =>
      cases driveB : startsWithDrive b with
      | true =>
          have drive : startsWithDrive (join b c) = true := by
            rw [startsWithDrive_join b driveC, driveB]
          rw [join_of_drive a driveB, join_of_drive a drive]
      | false =>
          have noDrive : startsWithDrive (join b c) = false := by
            rw [startsWithDrive_join b driveC, driveB]
          cases separatorC : separatorFollows c with
          | true =>
              rw [join_of_separator _ driveC separatorC,
                join_of_separator b driveC separatorC,
                root_of_noDrive driveB, List.nil_append,
                join_of_separator a driveC separatorC, root_join a driveB]
          | false =>
              exact join_assoc_relative a driveB driveC separatorC

end PathText

open PathText (separatorFollows endsInName)

namespace FilePath

/-! ## Joins of paths -/

@[simp]
theorem ofString_hasFilename_eq (s : StringType) :
    (ofString s).hasFilename = endsInName s := by
  have split := PathText.separators_append_relative s
  have empty := filename_eq_nil_iff s
  rw [ofString_eq_parsed, hasFilename, parsed, endsInName, ← split,
    List.getLast?_append]
  by_cases nothing : PathText.relative s = []
  · rw [empty.mpr (Or.inl nothing), nothing, List.getLast?_nil,
      Option.none_or]
    cases last : (PathText.separators s).getLast? with
    | none => rfl
    | some c =>
        have separator : isSeparator c = true :=
          List.mem_takeWhile_imp (List.mem_of_getLast? last)
        simp [separator]
  · rw [List.getLast?_eq_some_getLast nothing] at empty ⊢
    rw [Bool.eq_iff_iff]
    simp only [bne_iff_ne, ne_eq, List.length_eq_zero_iff, empty, nothing,
      false_or, Option.some.injEq, exists_eq_left', Option.some_or,
      Option.any_some, Bool.not_eq_true']
    rw [Bool.not_eq_true]

/-- The branch that puts a separator in is taken for a file name only. -/
theorem separatorBranch_eq (path : FilePath) :
    (path.hasFilename || (!path.hasRootDirectory && path.isAbsolute)) =
      path.hasFilename := by
  rw [isAbsolute]
  cases path.hasRootDirectory <;> simp

/--
`init` over the lengths of the string `a`, when another string has taken its
place that has a drive prefix exactly if `a` has one.
-/
theorem init_replaced
    {a s : StringType}
    (drive : startsWithDrive s = startsWithDrive a)
    (filename : PathText.body s ≠ [] ∨ PathText.body a = []) :
    init { ofString a with data := s } = ofString s := by
  have resettable : Resettable { ofString a with data := s } := by
    rw [ofString_eq_parsed]
    constructor
    · cases driveA : startsWithDrive a with
      | true => exact Or.inl (drive.trans driveA)
      | false =>
          apply Or.inr
          show (PathText.root a).length = 0
          rw [PathText.root_of_noDrive driveA, List.length_nil]
    · rcases filename with more | nothing
      · exact Or.inl more
      · apply Or.inr
        show (PathText.filename a).length = 0
        rw [PathText.filename, PathText.relative, nothing]
        rfl
  exact resettable.init_eq.trans (ofString_eq_parsed s).symm

/-- `init` after the branch that keeps the root only. -/
theorem init_behindRoot
    (a : StringType) {b : StringType}
    (noDrive : startsWithDrive b = false)
    (separator : separatorFollows b = true) :
    init { ofString a with data := PathText.root a ++ b } =
      ofString (PathText.root a ++ b) := by
  have sameDrive := PathText.startsWithDrive_root_append a noDrive
  rw [PathText.startsWithDrive_root] at sameDrive
  apply init_replaced sameDrive
  apply Or.inl
  rw [(PathText.keepsRoot_root a noDrive).body, PathText.body_root]
  rintro rfl
  cases separator

/-- `init` after the two branches that append. -/
theorem init_appended
    (a : StringType) {b : StringType}
    (noDrive : startsWithDrive b = false) :
    init { ofString a with data := a ++ (PathText.glue a ++ b) } =
      ofString (a ++ (PathText.glue a ++ b)) := by
  apply init_replaced (PathText.startsWithDrive_glue a noDrive)
  rw [(PathText.keepsRoot_glue a noDrive).body]
  by_cases nothing : PathText.body a = []
  · exact Or.inr nothing
  · exact Or.inl (List.append_ne_nil_of_left_ne_nil nothing _)

/-- The four branches of the join compute the join of the strings. -/
theorem divAssign_ofString (a b : StringType) :
    (ofString a).divAssign (ofString b) =
      ofString (PathText.join a b) := by
  have cut : a.take (ofString a).rootLength = PathText.root a :=
    ofString_getRootString a
  rw [divAssign, separatorBranch_eq]
  simp only [ofString_isAbsolute_eq, ofString_hasRoot_eq,
    ofString_getRootString, ofString_hasRootDirectory_eq,
    ofString_hasFilename_eq, getString_eq_data, ofString_data]
  cases drive : startsWithDrive b with
  | true => simp [PathText.join_of_drive a drive]
  | false =>
      cases separator : separatorFollows b with
      | true =>
          rw [PathText.join_of_separator a drive separator,
            ← init_behindRoot a drive separator, ← cut]
          simp
      | false =>
          rw [PathText.join_of_relative a drive separator,
            ← init_appended a drive, PathText.glue]
          cases endsInName a <;> simp

/-! ## The paths a program can build -/

/-- The paths that the constructors and any number of joins make.  One that
`clear` or `swap` has changed is not among them, since its cached lengths need
not be those of its string. -/
inductive Built : FilePath → Prop where
  | default : Built {}
  | ofString (s : StringType) : Built (ofString s)
  | join {a b : FilePath} : Built a → Built b → Built (a.divAssign b)

/-- Such a path is the one that is constructed from its string. -/
theorem Built.eq_ofString
    {path : FilePath} (built : Built path) :
    path = FilePath.ofString path.data := by
  induction built with
  | default => rfl
  | ofString s => rfl
  | join _ _ first second =>
      rw [first, second, divAssign_ofString, ofString_data]

end FilePath

/-- A path with the way it was built. -/
abbrev BuiltPath := { path : FilePath // path.Built }

namespace BuiltPath

/-- `FilePath()`. -/
def empty : BuiltPath :=
  ⟨{}, .default⟩

def join (a b : BuiltPath) : BuiltPath :=
  ⟨a.val / b.val, .join a.property b.property⟩

instance : Div BuiltPath :=
  ⟨join⟩

theorem val_div (a b : BuiltPath) :
    (a / b).val = FilePath.ofString (PathText.join a.val.data b.val.data) := by
  show a.val.divAssign b.val = _
  conv =>
    left
    rw [a.property.eq_ofString, b.property.eq_ofString]
  exact FilePath.divAssign_ofString _ _

theorem data_div (a b : BuiltPath) :
    (a / b).val.data = PathText.join a.val.data b.val.data := by
  rw [val_div, FilePath.ofString_data]

/-- Paths that were built are equal when their strings are. -/
theorem ext_data
    {a b : BuiltPath} (same : a.val.data = b.val.data) : a = b := by
  apply Subtype.ext
  rw [a.property.eq_ofString, b.property.eq_ofString, same]

theorem div_assoc (a b c : BuiltPath) : a / b / c = a / (b / c) := by
  apply ext_data
  simp only [data_div]
  exact PathText.join_assoc _ _ _

theorem empty_div (a : BuiltPath) : empty / a = a := by
  apply ext_data
  rw [data_div]
  exact PathText.nil_join _

/--
The join is associative and the empty path is its left identity.  A chain of
joins of any length, with its parentheses anywhere, is the chain joined to the
empty path from the left.  Operands that `clear` or `swap` has changed are not
covered.
-/
theorem join_grouping :
    (∀ a b c : BuiltPath,
        (a.val / b.val / c.val).getString =
          (a.val / (b.val / c.val)).getString) ∧
      (∀ a : BuiltPath, ({} / a.val).getString = a.val.getString) ∧
      ∀ chain : Grouping BuiltPath,
        (chain.eval join).val.getString =
          (chain.operands.foldl join empty).val.getString := by
  refine ⟨?_, ?_, ?_⟩
  · intro a b c
    exact congrArg (fun path => path.val.getString) (div_assoc a b c)
  · intro a
    exact congrArg (fun path => path.val.getString) (empty_div a)
  · intro chain
    have taken : chain.eval join = chain.operands.foldl join empty :=
      Grouping.eval_eq_foldl div_assoc empty_div chain
    rw [taken]

/--
After a join the cached lengths are those of a path that is constructed from
the string.  Operands that `clear` or `swap` has changed are not covered.
-/
theorem join_lengths (a b : BuiltPath) :
    a.val.divAssign b.val =
      FilePath.ofString (a.val.divAssign b.val).getString :=
  (a / b).property.eq_ofString

/-! ## Paths relative to a drive -/

/-- Appending behind the root is appending exactly when only the root is
there. -/
theorem root_append_eq_iff (s more : StringType) :
    PathText.root s ++ more = s ++ (PathText.glue s ++ more) ↔
      s = PathText.root s := by
  have whole := PathText.root_append_body s
  constructor
  · intro same
    rw [← List.append_assoc, List.append_left_inj] at same
    have size := congrArg List.length same
    have parts := congrArg List.length whole
    rw [List.length_append] at size parts
    have nothing : (PathText.body s).length = 0 := by omega
    rw [List.length_eq_zero_iff.mp nothing, List.append_nil] at whole
    exact whole.symm
  · intro isRoot
    have nothing : PathText.body s = [] := by
      rw [isRoot, PathText.body_root]
    have noGlue : PathText.glue s = [] := by
      rw [PathText.glue, PathText.endsInName, nothing]
      rfl
    rw [noGlue, List.nil_append, ← isRoot]

/-- The string of a join with the relative part of a path on a drive. -/
theorem join_relative
    (s : StringType) {t : StringType}
    (relative : separatorFollows t = false)
    (noDrive : startsWithDrive (PathText.relative t) = false) :
    PathText.join s (PathText.relative t) =
      s ++ (PathText.glue s ++ PathText.body t) := by
  have noSeparators : PathText.separators t = [] := by
    by_contra some
    have follows := (FilePath.separators_ne_nil_iff t).mp some
    rw [relative] at follows
    cases follows
  have same : PathText.relative t = PathText.body t := by
    have split := PathText.separators_append_relative t
    rwa [noSeparators, List.nil_append] at split
  have noSeparator : separatorFollows (PathText.relative t) = false := by
    rw [separatorFollows, PathText.body_of_noDrive noDrive, same]
    exact relative
  rw [PathText.join_of_relative s noDrive noSeparator, same]

/--
A path that is relative to the current directory of the drive of `a` is taken
for an absolute one, and `a` is discarded.  So the join is that with its
relative part exactly if there is nothing to discard, because `a` is its drive
prefix.
-/
theorem driveRelative_join_iff
    (a b : BuiltPath)
    (rooted : a.val.hasRoot = true)
    (sameRoot : b.val.getRootString = a.val.getRootString)
    (relative : separatorFollows b.val.getString = false)
    (noDrive : startsWithDrive b.val.getRelativePathString = false) :
    (a.val / b.val).getString =
        (a.val / b.val.getRelativePath).getString ↔
      a.val.getString = a.val.getRootString := by
  rcases a with ⟨a, builtA⟩
  rcases b with ⟨b, builtB⟩
  obtain ⟨s, rfl⟩ : ∃ s, a = FilePath.ofString s :=
    ⟨_, builtA.eq_ofString⟩
  obtain ⟨t, rfl⟩ : ∃ t, b = FilePath.ofString t :=
    ⟨_, builtB.eq_ofString⟩
  simp only [FilePath.getRelativePath, FilePath.div_eq_divAssign,
    FilePath.divAssign_ofString, FilePath.getString_eq_data,
    FilePath.ofString_data, FilePath.ofString_hasRoot_eq,
    FilePath.ofString_getRootString,
    FilePath.ofString_getRelativePathString] at *
  have driveT : startsWithDrive t = true := by
    rw [← PathText.startsWithDrive_root, sameRoot,
      PathText.startsWithDrive_root, rooted]
  rw [PathText.join_of_drive s driveT, join_relative s relative noDrive,
    ← root_append_eq_iff s (PathText.body t), ← sameRoot,
    PathText.root_append_body]

/-- A drive prefix and a name on the same drive. -/
theorem driveRelative_join_drive :
    ∃ a b : BuiltPath,
      a.val.getString = wideString "C:" ∧
        b.val.getString = wideString "C:x" ∧
        ((a.val / b.val).getString =
            (a.val / b.val.getRelativePath).getString ↔
          a.val.getString = a.val.getRootString) :=
  ⟨⟨_, .ofString (wideString "C:")⟩, ⟨_, .ofString (wideString "C:x")⟩,
    rfl, rfl,
    driveRelative_join_iff _ _ (by decide) (by decide) (by decide)
      (by decide)⟩

/-- A name on the drive of a directory, and what becomes of the directory. -/
theorem driveRelative_join_discards :
    let a := FilePath.ofString (wideString "C:\\dir")
    let b := FilePath.ofString (wideString "C:x")
    a.hasRoot = true ∧ b.getRootString = a.getRootString ∧
      separatorFollows b.getString = false ∧
      startsWithDrive b.getRelativePathString = false ∧
      (a / b).getString = wideString "C:x" ∧
      (a / b.getRelativePath).getString = wideString "C:\\dir\\x" := by
  decide

end BuiltPath

end Netycat.Filesystem
