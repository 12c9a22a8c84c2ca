import Netycat.Filesystem.PathJoin
import Netycat.Filesystem.Directory

/-!
# Names of entries

An iterator joins the name of every entry to the path of its directory.  The
path that comes out continues the string of the directory, has its root and
ends in the name, so that different entries have different paths.

The pattern of a search is made from the same string by a rule of its own,
which looks at the last character where the join looks at the file name.
-/

namespace Netycat.Filesystem

/-- A name that a join appends: it is one component and has no drive. -/
structure Component where
  text : StringType
  nonempty : text ≠ []
  noSeparator : ∀ c ∈ text, isSeparator c = false
  noDrive : startsWithDrive text = false

namespace PathText

theorem separatorFollows_component (n : Component) :
    separatorFollows n.text = false := by
  rw [separatorFollows, body_of_noDrive n.noDrive,
    List.head?_eq_some_head n.nonempty]
  exact n.noSeparator _ (List.head_mem n.nonempty)

theorem join_component (s : StringType) (n : Component) :
    join s n.text = s ++ (glue s ++ n.text) :=
  join_of_relative s n.noDrive (separatorFollows_component n)

/-- What precedes the name ends in a separator, if there is anything. -/
theorem endsInName_glue (s : StringType) :
    endsInName (s ++ glue s) = false := by
  have nothing := glue_append_glue s
  rw [glue] at nothing
  split at nothing
  case isTrue => cases nothing
  case isFalse noName => exact Bool.eq_false_iff.mpr noName

/-- Nothing of a text that ends in a separator belongs to the name behind it. -/
theorem rtakeWhile_component
    {front : StringType} (n : Component)
    (ends : (front.getLast?.any fun c => !isSeparator c) = false) :
    ((front ++ n.text).rtakeWhile fun c => !isSeparator c) = n.text := by
  have named : ∀ c ∈ n.text.reverse, (!isSeparator c) = true := by
    intro c member
    rw [n.noSeparator c (List.mem_reverse.mp member)]
    rfl
  rw [List.rtakeWhile, List.reverse_append,
    List.takeWhile_append_of_pos named]
  rcases List.eq_nil_or_concat front with rfl | ⟨before, last, rfl⟩
  · simp
  · rw [List.concat_eq_append, List.getLast?_concat, Option.any_some] at ends
    rw [List.concat_eq_append, List.reverse_concat, List.takeWhile_cons, ends]
    simp

/-- Behind a body that ends in a separator the name is the file name. -/
theorem filename_of_body
    {s front : StringType} {n : Component}
    (split : body s = front ++ n.text)
    (ends : (front.getLast?.any fun c => !isSeparator c) = false) :
    filename s = n.text := by
  rw [filename, relative, split, List.dropWhile_append]
  cases rest : front.dropWhile isSeparator with
  | nil =>
      have whole : n.text.dropWhile isSeparator = n.text := by
        have first := n.noSeparator _ (List.head_mem n.nonempty)
        rw [← List.cons_head_tail n.nonempty, List.dropWhile_cons, first]
        rfl
      rw [List.isEmpty_nil, if_pos rfl, whole]
      exact @rtakeWhile_component [] n rfl
  | cons c more =>
      have kept : front.getLast? = (c :: more).getLast? := by
        rw [← rest]
        have parts := @List.takeWhile_append_dropWhile _ isSeparator front
        conv =>
          left
          rw [← parts]
        rw [List.getLast?_append, rest,
          List.getLast?_eq_some_getLast (List.cons_ne_nil c more),
          Option.some_or]
      rw [kept] at ends
      exact rtakeWhile_component n ends

end PathText

open PathText (endsInName)

/-! ## The path of an entry -/

namespace BuiltPath

theorem data_div_component (a : BuiltPath) (n : Component) :
    (a.val / .ofString n.text).data =
      a.val.data ++ (PathText.glue a.val.data ++ n.text) := by
  have joined := data_div a ⟨_, .ofString n.text⟩
  rw [FilePath.ofString_data, PathText.join_component] at joined
  exact joined

theorem div_component (a : BuiltPath) (n : Component) :
    a.val / .ofString n.text =
      .ofString (a.val.data ++ (PathText.glue a.val.data ++ n.text)) := by
  have built : FilePath.Built (a.val / .ofString n.text) :=
    .join a.property (.ofString n.text)
  rw [built.eq_ofString, data_div_component]

theorem div_component_injective (a : BuiltPath) :
    Function.Injective fun n : Component =>
      (a.val / .ofString n.text).getString := by
  intro n m same
  simp only [FilePath.getString_eq_data, data_div_component,
    List.append_cancel_left_eq] at same
  cases n
  cases m
  cases same
  rfl

theorem getRootString_eq (a : BuiltPath) :
    a.val.getRootString = PathText.root a.val.data := by
  conv =>
    left
    rw [a.property.eq_ofString]
  exact FilePath.ofString_getRootString _

/-- A path is its root when nothing stands behind the drive prefix. -/
theorem eq_getRootString_iff (a : BuiltPath) :
    a.val.getString = a.val.getRootString ↔
      PathText.body a.val.data = [] := by
  have whole := PathText.root_append_body a.val.data
  rw [getRootString_eq, FilePath.getString_eq_data]
  constructor
  · intro isRoot
    rw [isRoot, PathText.body_root]
  · intro nothing
    rw [nothing, List.append_nil] at whole
    exact whole.symm

/--
The path of an entry continues the string of its directory, has the same root,
and its file name is the name of the entry.  Names that are different have
paths that are different.  A directory path that `clear` or `swap` has changed
is not covered.
-/
theorem div_component_correct (a : BuiltPath) :
    (∀ n : Component,
        a.val.getString <+: (a.val / .ofString n.text).getString ∧
          (a.val / .ofString n.text).getRootString =
            a.val.getRootString ∧
          (a.val / .ofString n.text).getFilenameString = n.text) ∧
      Function.Injective fun n : Component =>
        (a.val / .ofString n.text).getString := by
  refine ⟨?_, div_component_injective a⟩
  intro n
  have keeps := PathText.keepsRoot_glue a.val.data n.noDrive
  rw [div_component]
  refine ⟨List.prefix_append _ _, ?_, ?_⟩
  · rw [FilePath.ofString_getRootString, keeps.root, getRootString_eq]
  · have behind := (PathText.keepsRoot_glue a.val.data (b := []) rfl).body
    have ends := PathText.endsInName_glue a.val.data
    rw [List.append_nil] at behind
    rw [endsInName, behind] at ends
    have split := keeps.body
    rw [← List.append_assoc (PathText.body a.val.data)] at split
    rw [FilePath.ofString_getFilenameString]
    exact PathText.filename_of_body split ends

end BuiltPath

/-! ## The pattern of a search -/

namespace PathText

/-- The last character behind the root is that of the string. -/
theorem getLast?_body
    {s : StringType} (more : body s ≠ []) :
    (body s).getLast? = s.getLast? := by
  have whole := root_append_body s
  conv =>
    right
    rw [← whole]
  rw [List.getLast?_append, List.getLast?_eq_some_getLast more,
    Option.some_or]

/-- A drive prefix with nothing behind it ends in its colon. -/
theorem getLast?_of_body_nil
    {s : StringType} (something : s ≠ []) (nothing : body s = []) :
    s.getLast? = some (wide ':') := by
  rcases s with _ | ⟨c, _ | ⟨d, rest⟩⟩
  · exact absurd rfl something
  · cases nothing
  · cases drive : startsWithDrive (c :: d :: rest) with
    | false =>
        rw [body_of_noDrive drive] at nothing
        cases nothing
    | true =>
        rw [body, if_pos drive] at nothing
        simp only [startsWithDrive, Bool.and_eq_true, beq_iff_eq] at drive
        simp only [List.drop_succ_cons, List.drop_zero] at nothing
        rw [nothing, drive.2]
        rfl

/-- What the pattern of a search has between the path and the asterisk. -/
def patternGlue (s : StringType) : StringType :=
  if s.getLast?.all fun c =>
    c != wide '\\' && c != wide '/' && c != wide ':'
  then [SEPARATOR] else []

/-- The two rules agree on a string unless it is empty, or ends in a colon that
is not that of a bare drive prefix. -/
theorem patternGlue_eq_glue_iff (s : StringType) :
    patternGlue s = glue s ↔
      s ≠ [] ∧ (s.getLast? = some (wide ':') → body s = []) := by
  by_cases nothing : s = []
  · rw [nothing]
    decide
  · rw [patternGlue, glue, endsInName]
    by_cases bare : body s = []
    · rw [getLast?_of_body_nil nothing bare, bare]
      simp [nothing]
    · rw [getLast?_body bare, List.getLast?_eq_some_getLast nothing]
      generalize s.getLast nothing = c
      have colonInName : isSeparator (wide ':') = false := by decide
      by_cases colon : c = wide ':'
      · simp [colon, bare, colonInName]
      · have same :
            (c != wide '\\' && c != wide '/' && c != wide ':') =
              !isSeparator c := by
          rw [isSeparator, Bool.not_or, Bool.and_comm (!_)]
          simp [bne, colon]
        simp [nothing, colon, same]

end PathText

namespace Directory

theorem searchPattern_eq (path : FilePath) :
    searchPattern path =
      path.getString ++
        (PathText.patternGlue path.getString ++ wideString "*") := by
  rw [searchPattern, PathText.patternGlue]
  cases path.getString.getLast? with
  | none => rfl
  | some c =>
      simp only [Option.all_some]
      split
      · rfl
      · rfl

/--
The string that `FindFirstFileW` gets has an asterisk at its end, and with the
name in the place of the asterisk it is the string of the path of the entry.
-/
def SearchesEntry (path : FilePath) (n : StringType) : Prop :=
  ∃ front,
    cString (searchPattern path) = front ++ wideString "*" ∧
      front ++ n = (path / .ofString n).getString

/-- The string is not empty, has no NUL in it, and a colon at its end is that
of a drive prefix with nothing behind it. -/
def PatternAgrees (path : FilePath) : Prop :=
  path.getString ≠ [] ∧ 0 ∉ path.getString ∧
    (path.getString.getLast? = some (wide ':') →
      path.getString = path.getRootString)

instance (path : FilePath) : Decidable (PatternAgrees path) := by
  unfold PatternAgrees
  infer_instance

theorem cString_eq_self_iff (s : StringType) :
    cString s = s ↔ 0 ∉ s := by
  rw [cString, List.takeWhile_eq_self_iff]
  constructor
  · intro all member
    simpa using all 0 member
  · rintro absent c member
    have different : c ≠ 0 := by
      rintro rfl
      exact absent member
    simpa using different

theorem patternGlue_noNul (s : StringType) :
    0 ∉ PathText.patternGlue s ++ wideString "*" := by
  rw [PathText.patternGlue]
  split
  · decide
  · decide

/-- A callee that gets a string with a NUL in it sees less than the string. -/
theorem cString_length_lt
    {s : StringType} (member : 0 ∈ s) (more : StringType) :
    (cString (s ++ more)).length < s.length := by
  induction s with
  | nil => cases member
  | cons c rest induction =>
      rw [cString, List.cons_append, List.takeWhile_cons]
      by_cases nul : c = 0
      · simp [nul]
      · have later : 0 ∈ rest :=
          (List.mem_cons.mp member).resolve_left (Ne.symm nul)
        have shorter := induction later
        rw [cString] at shorter
        simpa [nul] using shorter

theorem cString_searchPattern
    {path : FilePath} (noNul : 0 ∉ path.getString) :
    cString (searchPattern path) = searchPattern path := by
  rw [cString_eq_self_iff, searchPattern_eq, List.mem_append]
  rintro (inPath | behind)
  · exact noNul inPath
  · exact patternGlue_noNul _ behind

/-- A pattern that has lost its asterisk is shorter than the path. -/
theorem SearchesEntry.agrees
    {p : BuiltPath} {n : Component}
    (searches : SearchesEntry p.val n.text) :
    PatternAgrees p.val := by
  rcases searches with ⟨front, seen, same⟩
  rw [FilePath.getString_eq_data, p.data_div_component] at same
  have noNul : 0 ∉ p.val.getString := by
    intro member
    have shorter := cString_length_lt member
      (PathText.patternGlue p.val.data ++ wideString "*")
    have lengths := congrArg List.length same
    rw [← FilePath.getString_eq_data, ← searchPattern_eq, seen] at shorter
    simp only [List.length_append, FilePath.getString_eq_data]
      at lengths shorter
    omega
  rw [cString_searchPattern noNul, searchPattern_eq, ← List.append_assoc,
    List.append_left_inj] at seen
  rw [← seen, List.append_assoc, FilePath.getString_eq_data,
    List.append_cancel_left_eq, List.append_left_inj] at same
  rcases (PathText.patternGlue_eq_glue_iff _).mp same with
    ⟨something, colon⟩
  exact
    ⟨something, noNul,
      fun last => p.eq_getRootString_iff.mpr (colon last)⟩

theorem PatternAgrees.searches
    {p : BuiltPath} (agrees : PatternAgrees p.val) (n : Component) :
    SearchesEntry p.val n.text := by
  rcases agrees with ⟨something, noNul, colon⟩
  have sameGlue :
      PathText.patternGlue p.val.data = PathText.glue p.val.data := by
    rw [PathText.patternGlue_eq_glue_iff]
    exact
      ⟨something, fun last => p.eq_getRootString_iff.mp (colon last)⟩
  refine ⟨p.val.data ++ PathText.patternGlue p.val.data, ?_, ?_⟩
  · rw [cString_searchPattern noNul, searchPattern_eq,
      List.append_assoc, FilePath.getString_eq_data]
  · rw [sameGlue, FilePath.getString_eq_data, p.data_div_component,
      List.append_assoc]

/--
The search for a path is that for the paths of its entries exactly if the
pattern agrees with the join.
-/
theorem searchesEntry_iff (p : BuiltPath) (n : Component) :
    SearchesEntry p.val n.text ↔ PatternAgrees p.val :=
  ⟨fun searches => searches.agrees, fun agrees => agrees.searches n⟩

/-- A name of one letter. -/
def letter : Component where
  text := wideString "n"
  nonempty := by decide
  noSeparator := List.forall_mem_singleton.mpr (by decide)
  noDrive := by decide

/-- The pattern for the empty path lists the root of the current drive, and
that for a name with a colon at its end lacks the separator. -/
theorem searchPattern_disagrees :
    let empty : FilePath := {}
    let stream := FilePath.ofString (wideString "foo:")
    cString (searchPattern empty) = wideString "\\*" ∧
      (empty / .ofString (wideString "n")).getString = wideString "n" ∧
      ¬ SearchesEntry empty (wideString "n") ∧
      cString (searchPattern stream) = wideString "foo:*" ∧
      (stream / .ofString (wideString "n")).getString =
        wideString "foo:\\n" ∧
      ¬ SearchesEntry stream (wideString "n") := by
  have absent (p : BuiltPath) (differs : ¬ PatternAgrees p.val) :
      ¬ SearchesEntry p.val (wideString "n") := by
    intro searches
    exact differs (SearchesEntry.agrees (n := letter) searches)
  refine ⟨rfl, rfl, ?_, by decide, by decide, ?_⟩
  · exact absent ⟨_, .default⟩ (by decide)
  · exact absent ⟨_, .ofString (wideString "foo:")⟩ (by decide)

end Directory

end Netycat.Filesystem
