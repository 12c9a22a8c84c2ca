import Netycat.Filesystem.FilePath
import Mathlib.Data.List.DropRight

/-!
# What the parse of a path means

The three lengths of a path are found by scans over its string.  Here the parts
of a string are described without scans: the drive prefix, the run of separators
behind it, the rest, and the last stretch of the rest without a separator.  The
constructors cut the string at the ends of these parts, and neither of their
scans reads a character that is not there.

The root directory of a path is its root and its separators, so its length is
counted from the start of the string.  `hasRootDirectory` tests that length,
and is true of every path with a drive.
-/

namespace Netycat.Filesystem

/-! ## The parts of a string -/

namespace PathText

/-- The letter and the colon, if the string starts with them. -/
def root (s : StringType) : StringType :=
  if startsWithDrive s then s.take 2 else []

/-- What follows the drive prefix. -/
def body (s : StringType) : StringType :=
  if startsWithDrive s then s.drop 2 else s

/-- The separators that follow the drive prefix. -/
def separators (s : StringType) : StringType :=
  (body s).takeWhile isSeparator

/-- What follows the separators. -/
def relative (s : StringType) : StringType :=
  (body s).dropWhile isSeparator

/-- The longest end of the relative part without a separator. -/
def filename (s : StringType) : StringType :=
  (relative s).rtakeWhile fun c => !isSeparator c

/-- A separator stands directly behind the root. -/
def separatorFollows (s : StringType) : Bool :=
  (body s).head?.any isSeparator

theorem root_append_body (s : StringType) : root s ++ body s = s := by
  rw [root, body]
  split
  · exact List.take_append_drop 2 s
  · rfl

theorem separators_append_relative (s : StringType) :
    separators s ++ relative s = body s :=
  List.takeWhile_append_dropWhile

theorem parts_append (s : StringType) :
    root s ++ separators s ++ relative s = s := by
  rw [List.append_assoc, separators_append_relative, root_append_body]

theorem two_le_length {s : StringType} (drive : startsWithDrive s = true) :
    2 ≤ s.length := by
  match s with
  | [] | [_] => cases drive
  | c :: d :: rest => simp

theorem root_length (s : StringType) :
    (root s).length = if startsWithDrive s then 2 else 0 := by
  rw [root]
  split
  case isTrue drive =>
    rw [List.length_take, Nat.min_eq_left (two_le_length drive)]
  case isFalse => rfl

/-- The text is cut behind the root. -/
theorem take_root_length (s : StringType) :
    s.take (root s).length = root s := by
  have cut := @List.take_left _ (root s) (body s)
  rwa [root_append_body] at cut

theorem drop_root_length (s : StringType) :
    s.drop (root s).length = body s := by
  have cut := @List.drop_left _ (root s) (body s)
  rwa [root_append_body] at cut

end PathText

/-! ## The forward scan -/

open PathText (separatorFollows)

namespace FilePath

theorem separators_eq_length (s : StringType) :
    separators s = (s.takeWhile isSeparator).length := by
  induction s with
  | nil => rfl
  | cons c rest induction =>
      rw [separators, List.takeWhile_cons]
      cases isSeparator c with
      | true => exact congrArg (· + 1) induction
      | false => rfl

/-- From a position in the string the scan stays in the string. -/
theorem scanSeparators_eq
    {data : StringType} {p : Nat} (inside : p ≤ data.length) :
    scanSeparators data p = some (p + separators (data.drop p)) := by
  induction left : data.length - p generalizing p with
  | zero =>
      obtain rfl : p = data.length := by omega
      rw [scanSeparators, if_pos rfl, List.drop_length]
      rfl
  | succ left' induction =>
      have before : p < data.length := by omega
      rw [scanSeparators, if_neg (Nat.ne_of_lt before),
        List.drop_eq_getElem_cons before, separators]
      split
      case h_1 missing =>
        rw [List.getElem?_eq_getElem before] at missing
        cases missing
      case h_2 c read =>
        rw [List.getElem?_eq_getElem before, Option.some.injEq] at read
        rw [read]
        cases isSeparator c with
        | true =>
            have next : p + 1 ≤ data.length := before
            rw [if_pos rfl, if_pos rfl, induction next (by omega),
              Nat.add_assoc, Nat.add_comm 1]
        | false => rfl

/-! ## The backward scan -/

/--
The scan over `before` and then `rest`, which are given last character first,
stops in front of the last stretch of `rest` without a separator, where `before`
is what precedes `p`.
-/
theorem filenameStart_eq
    {p : Nat} (before rest : StringType)
    (starts : before.length = p)
    (stops : rest = [] → ∃ c, before.head? = some c ∧ isSeparator c) :
    filenameStart p (rest ++ before) =
      p + (rest.dropWhile fun c => !isSeparator c).length := by
  induction rest with
  | nil =>
      rcases stops rfl with ⟨c, first, separator⟩
      cases before with
      | nil => cases first
      | cons d before =>
          obtain rfl : d = c := Option.some.inj first
          rw [List.nil_append, filenameStart, if_pos separator]
          exact starts
  | cons c rest induction =>
      rw [List.cons_append, filenameStart, List.dropWhile_cons]
      cases separator : isSeparator c with
      | true =>
          simp [starts]
          omega
      | false =>
          simp only [Bool.false_eq_true, if_false, Bool.not_false, if_true]
          split
          case isTrue further =>
            apply induction
            rintro rfl
            exact absurd starts.symm further
          case isFalse reached =>
            have nothing : rest = [] := by
              apply List.length_eq_zero_iff.mp
              rw [List.length_append] at reached
              omega
            simp [nothing, starts]

/-- Above a separator, or above `p`, the scan stays in the string. -/
theorem scanFilename_eq
    {data : StringType} {p q : Nat} (inside : q ≤ data.length)
    (stops :
      p < q ∨ ∃ c, (data.take q).getLast? = some c ∧ isSeparator c) :
    scanFilename data p q =
      some (filenameStart p (data.take q).reverse) := by
  induction q with
  | zero =>
      rcases stops with impossible | ⟨c, last, _⟩
      · cases impossible
      · cases last
  | succ q induction =>
      have before : q < data.length := inside
      have first :
          (data.take (q + 1)).reverse =
            data[q] :: (data.take q).reverse := by
        rw [List.take_succ_eq_append_getElem before, List.reverse_append]
        rfl
      have length : (data.take q).reverse.length = q := by
        rw [List.length_reverse, List.length_take,
          Nat.min_eq_left (Nat.le_of_lt before)]
      rw [scanFilename, first, filenameStart, length,
        List.getElem?_eq_getElem before]
      cases separator : isSeparator data[q] with
      | true => simp [separator]
      | false =>
          have above : p < q + 1 := by
            rcases stops with above | ⟨c, last, isSeparator_⟩
            · exact above
            · rw [List.take_succ_eq_append_getElem before,
                List.getLast?_concat, Option.some.injEq] at last
              rw [← last, separator] at isSeparator_
              cases isSeparator_
          by_cases further : p ≠ q
          · have again :=
              induction (Nat.le_of_lt before)
                (Or.inl (Nat.lt_of_le_of_ne (Nat.lt_succ_iff.mp above)
                  further))
            simp [separator, further, again]
          · simp [separator, further]

/-! ## The parse as a whole -/

/-- The path whose lengths are those of the parts of its string. -/
def parsed (s : StringType) : FilePath where
  data := s
  rootLength := (PathText.root s).length
  rootDirectoryLength := (PathText.root s ++ PathText.separators s).length
  filenameLength := (PathText.filename s).length

/-- The lengths that `init` does not recompute are right as they are. -/
structure Resettable (path : FilePath) : Prop where
  root : startsWithDrive path.data = true ∨ path.rootLength = 0
  filename : PathText.body path.data ≠ [] ∨ path.filenameLength = 0

theorem Resettable.rootLength
    {path : FilePath} (resettable : Resettable path) :
    (if startsWithDrive path.data then 2 else path.rootLength) =
      (PathText.root path.data).length := by
  rw [PathText.root_length]
  split
  · rfl
  case isFalse noDrive =>
    exact resettable.root.resolve_left noDrive

theorem rootDirectoryLength_eq (s : StringType) :
    (PathText.root s).length + separators (PathText.body s) =
      (PathText.root s ++ PathText.separators s).length := by
  rw [separators_eq_length, List.length_append, PathText.separators]

theorem rootLength_eq_length_iff (s : StringType) :
    (PathText.root s).length = s.length ↔ PathText.body s = [] := by
  have whole := congrArg List.length (PathText.root_append_body s)
  rw [List.length_append] at whole
  rw [← List.length_eq_zero_iff]
  omega

/-- Something precedes the end of the string at which the scan may stop. -/
theorem lastSeparator
    {s : StringType} (more : PathText.body s ≠ [])
    (nothing : PathText.relative s = []) :
    ∃ c, (PathText.root s ++ PathText.separators s).getLast? = some c ∧
      isSeparator c := by
  have all : PathText.separators s = PathText.body s := by
    have split := PathText.separators_append_relative s
    rwa [nothing, List.append_nil] at split
  rw [← all] at more
  refine ⟨(PathText.separators s).getLast more, ?_, ?_⟩
  · rw [List.getLast?_append, List.getLast?_eq_some_getLast more]
    rfl
  · exact List.mem_takeWhile_imp (List.getLast_mem more)

/-- Where the backward scan stops when there is something behind the root. -/
theorem filenameStart_parts
    {s : StringType} (more : PathText.body s ≠ []) :
    s.length -
        filenameStart (PathText.root s ++ PathText.separators s).length
          s.reverse =
      (PathText.filename s).length := by
  have whole := congrArg List.length (PathText.parts_append s)
  have stretch :=
    congrArg List.length
      (List.takeWhile_append_dropWhile (p := fun c => !isSeparator c)
        (l := (PathText.relative s).reverse))
  have stop :=
    filenameStart_eq (PathText.root s ++ PathText.separators s).reverse
      (PathText.relative s).reverse List.length_reverse ?_
  · rw [← List.reverse_append, PathText.parts_append] at stop
    rw [List.length_append] at whole stretch
    rw [List.length_reverse] at stretch
    rw [stop, PathText.filename, List.rtakeWhile, List.length_reverse]
    omega
  · intro nothing
    rw [List.head?_reverse]
    exact lastSeparator more (List.reverse_eq_nil_iff.mp nothing)

/-- The scans find the parts whenever the stale lengths do no harm. -/
theorem Resettable.init_eq
    {path : FilePath} (resettable : Resettable path) :
    path.init = parsed path.data := by
  simp only [init, parsed, resettable.rootLength,
    PathText.drop_root_length, rootDirectoryLength_eq]
  congr 1
  split
  case isTrue more =>
    exact filenameStart_parts (mt (rootLength_eq_length_iff _).mpr more)
  case isFalse whole =>
    have nothing : PathText.body path.data = [] :=
      (rootLength_eq_length_iff _).mp (not_not.mp whole)
    rw [resettable.filename.resolve_left (not_not.mpr nothing)]
    simp [PathText.filename, PathText.relative, nothing]

/-- Under the same condition the scans read characters of the string only. -/
theorem Resettable.initReading_eq
    {path : FilePath} (resettable : Resettable path) :
    path.initReading = some path.init := by
  have whole := congrArg List.length (PathText.parts_append path.data)
  rw [List.length_append] at whole
  have rootInside :
      (PathText.root path.data).length ≤ path.data.length := by
    rw [List.length_append] at whole
    omega
  have forward := scanSeparators_eq rootInside
  rw [PathText.drop_root_length, rootDirectoryLength_eq] at forward
  simp only [initReading, init, resettable.rootLength, forward,
    PathText.drop_root_length, rootDirectoryLength_eq, Option.bind_eq_bind,
    Option.bind_some]
  split
  case isFalse => rfl
  case isTrue more =>
    have remains : PathText.body path.data ≠ [] :=
      mt (rootLength_eq_length_iff _).mpr more
    rw [scanFilename_eq (Nat.le_refl _) ?_, List.take_length]
    · rfl
    · by_cases nothing : PathText.relative path.data = []
      · apply Or.inr
        have last := lastSeparator remains nothing
        have all := PathText.parts_append path.data
        rw [nothing, List.append_nil] at all
        rw [all] at last
        rw [List.take_length]
        exact last
      · apply Or.inl
        have positive := List.length_pos_iff.mpr nothing
        omega

theorem fresh_resettable (s : StringType) :
    Resettable { data := s } :=
  ⟨Or.inr rfl, Or.inr rfl⟩

/-- The constructors store the lengths of the parts. -/
theorem ofString_eq_parsed (s : StringType) :
    ofString s = parsed s :=
  (fresh_resettable s).init_eq

@[simp]
theorem ofString_getRootString (s : StringType) :
    (ofString s).getRootString = PathText.root s := by
  rw [ofString_eq_parsed]
  exact PathText.take_root_length s

@[simp]
theorem ofString_getRootDirectoryString (s : StringType) :
    (ofString s).getRootDirectoryString =
      PathText.root s ++ PathText.separators s := by
  have cut :=
    @List.take_left _ (PathText.root s ++ PathText.separators s)
      (PathText.relative s)
  rw [PathText.parts_append] at cut
  rw [ofString_eq_parsed]
  exact cut

@[simp]
theorem ofString_getRelativePathString (s : StringType) :
    (ofString s).getRelativePathString = PathText.relative s := by
  have cut :=
    @List.drop_left _ (PathText.root s ++ PathText.separators s)
      (PathText.relative s)
  rw [PathText.parts_append] at cut
  rw [ofString_eq_parsed]
  exact cut

theorem filename_suffix (s : StringType) :
    PathText.filename s <:+ s := by
  have inRelative : PathText.filename s <:+ PathText.relative s :=
    List.rtakeWhile_suffix _ _
  have inText : PathText.relative s <:+ s :=
    ⟨_, PathText.parts_append s⟩
  exact inRelative.trans inText

@[simp]
theorem ofString_getFilenameString (s : StringType) :
    (ofString s).getFilenameString = PathText.filename s := by
  rw [ofString_eq_parsed]
  exact (List.suffix_iff_eq_drop.mp (filename_suffix s)).symm

/-! ## What the accessors return -/

/-- The text does not begin with a separator. -/
theorem relative_begins {s rest : StringType} {c : CharType}
    (begins : PathText.relative s = c :: rest) :
    isSeparator c = false := by
  have first := List.head?_dropWhile_not isSeparator (PathText.body s)
  rw [← PathText.relative, begins] at first
  exact first

/-- Every separator-free end of the relative part is an end of the name. -/
theorem filename_longest {s ending : StringType}
    (isEnd : ending <:+ PathText.relative s)
    (noSeparator : ∀ c ∈ ending, isSeparator c = false) :
    ending <:+ PathText.filename s := by
  rcases isEnd with ⟨front, split⟩
  rw [PathText.filename, ← split, List.rtakeWhile, List.reverse_append,
    List.takeWhile_append_of_pos, List.reverse_append, List.reverse_reverse]
  · exact List.suffix_append _ _
  · intro c member
    rw [noSeparator c (List.mem_reverse.mp member)]
    rfl

theorem filename_eq_nil_iff (s : StringType) :
    PathText.filename s = [] ↔
      PathText.relative s = [] ∨
        ∃ c, (PathText.relative s).getLast? = some c ∧
          isSeparator c = true := by
  rw [PathText.filename, List.rtakeWhile_eq_nil_iff]
  by_cases nothing : PathText.relative s = []
  · simp [nothing]
  · rw [List.getLast?_eq_some_getLast nothing]
    simp [nothing]

/--
The parse of a string: root, separators and relative part put together are the
string, each is as long as it can be, the accessors return them, and none of
the scans reads what is not a character of the string.
-/
theorem parse_correct (s : StringType) :
    ∃ separators,
      s =
          (ofString s).getRootString ++ separators ++
            (ofString s).getRelativePathString ∧
        (ofString s).getRootString =
          (if startsWithDrive s then s.take 2 else []) ∧
        (∀ c ∈ separators, isSeparator c = true) ∧
        (ofString s).getRootDirectoryString =
          (ofString s).getRootString ++ separators ∧
        (∀ c rest,
          (ofString s).getRelativePathString = c :: rest →
            isSeparator c = false) ∧
        (ofString s).getFilenameString <:+
          (ofString s).getRelativePathString ∧
        (∀ c ∈ (ofString s).getFilenameString, isSeparator c = false) ∧
        (∀ ending,
          ending <:+ (ofString s).getRelativePathString →
            (∀ c ∈ ending, isSeparator c = false) →
              ending <:+ (ofString s).getFilenameString) ∧
        ((ofString s).getFilenameString = [] ↔
          (ofString s).getRelativePathString = [] ∨
            ∃ c,
              (ofString s).getRelativePathString.getLast? = some c ∧
                isSeparator c = true) ∧
        initReading { data := s } = some (ofString s) := by
  simp only [ofString_getRootString, ofString_getRelativePathString,
    ofString_getRootDirectoryString, ofString_getFilenameString]
  refine
    ⟨PathText.separators s, (PathText.parts_append s).symm, rfl, ?_, rfl,
      ?_, ?_, ?_, ?_, ?_, ?_⟩
  · intro c member
    exact List.mem_takeWhile_imp member
  · intro c rest begins
    exact relative_begins begins
  · exact List.rtakeWhile_suffix _ _
  · intro c member
    simpa using List.mem_rtakeWhile_imp member
  · intro ending isEnd noSeparator
    exact filename_longest isEnd noSeparator
  · exact filename_eq_nil_iff s
  · exact (fresh_resettable s).initReading_eq

/-! ## The predicates -/

theorem separators_ne_nil_iff (s : StringType) :
    PathText.separators s ≠ [] ↔ separatorFollows s = true := by
  rw [PathText.separators, separatorFollows]
  cases PathText.body s with
  | nil => simp
  | cons c rest =>
      cases separator : isSeparator c with
      | true => simp [separator]
      | false => simp [separator]

@[simp]
theorem ofString_hasRoot_eq (s : StringType) :
    (ofString s).hasRoot = startsWithDrive s := by
  rw [ofString_eq_parsed, hasRoot, parsed, PathText.root_length]
  cases startsWithDrive s <;> rfl

@[simp]
theorem ofString_hasRootDirectory_eq (s : StringType) :
    (ofString s).hasRootDirectory =
      (startsWithDrive s || separatorFollows s) := by
  have follows := separators_ne_nil_iff s
  rw [ofString_eq_parsed, hasRootDirectory, parsed, List.length_append,
    PathText.root_length]
  cases startsWithDrive s with
  | true => simp
  | false =>
      rw [Bool.eq_iff_iff]
      simpa using follows

/-- The root directory counts the root, so a drive is enough. -/
@[simp]
theorem ofString_isAbsolute_eq (s : StringType) :
    (ofString s).isAbsolute = startsWithDrive s := by
  rw [isAbsolute, ofString_hasRoot_eq, ofString_hasRootDirectory_eq]
  cases startsWithDrive s <;> rfl

/--
`hasRootDirectory` and `isAbsolute` mean what their names say exactly for the
strings in which a drive prefix, if there is one, has a separator behind it.
-/
theorem predicates_correct_iff (s : StringType) :
    (((ofString s).hasRootDirectory = true ↔ separatorFollows s = true) ∧
        ((ofString s).isAbsolute = true ↔
          startsWithDrive s = true ∧ separatorFollows s = true)) ↔
      (startsWithDrive s = true → separatorFollows s = true) := by
  rw [ofString_hasRootDirectory_eq, ofString_isAbsolute_eq]
  cases startsWithDrive s with
  | true => simp
  | false => simp

/-- A name relative to the current directory of a drive. -/
theorem driveRelative_isAbsolute :
    separatorFollows (wideString "C:foo") = false ∧
      (ofString (wideString "C:foo")).hasRootDirectory = true ∧
      (ofString (wideString "C:foo")).isAbsolute = true := by
  decide

end FilePath

end Netycat.Filesystem
