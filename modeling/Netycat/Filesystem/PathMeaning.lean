import Netycat.Filesystem.PathJoin
import Netycat.Lib.Routes

/-!
# What paths denote

A path is a route: its drive is the volume, a separator behind the drive sends
it to the root, and the stretches between separators are the names to follow.
As in the parse, a run of separators counts as one, whatever its length, and the
letters of drives are compared without case.

Joins then mean what they are used for.  The join of two paths leads where the
second one leads after a change of directory to the first, whatever the names
lead to, unless the second path names a drive without a separator behind it.
-/

namespace Netycat.Filesystem

/-! ## The route of a string -/

/-- The drive of a letter. -/
def driveOf (c : CharType) : CharType :=
  if wide 'a' ≤ c then c - (wide 'a' - wide 'A') else c

namespace PathText

def drive (s : StringType) : Option CharType :=
  (root s).head?.map driveOf

/-- The stretches of a string between its separators. -/
def pieces (s : StringType) : List StringType :=
  (s.splitOnP isSeparator).filter (!·.isEmpty)

def route (s : StringType) : Route CharType StringType where
  volume := drive s
  fromRoot := separatorFollows s
  names := pieces (body s)

@[simp]
theorem pieces_nil : pieces [] = [] := rfl

theorem pieces_append_cons {c : CharType}
    (separator : isSeparator c = true) (before after : StringType) :
    pieces (before ++ c :: after) = pieces before ++ pieces after := by
  rw [pieces, List.splitOnP_append_cons before after separator,
    List.filter_append]
  rfl

theorem pieces_of_noSeparator {s : StringType} (nonempty : s ≠ [])
    (noSeparator : ∀ c ∈ s, isSeparator c = false) :
    pieces s = [s] := by
  rw [pieces, List.splitOnP_eq_singleton noSeparator]
  cases s with
  | nil => exact absurd rfl nonempty
  | cons c rest => rfl

theorem drive_isSome (s : StringType) :
    (drive s).isSome = startsWithDrive s := by
  rw [drive, Option.isSome_map]
  cases drive : startsWithDrive s with
  | true =>
      rcases s with _ | ⟨c, rest⟩
      · cases drive
      · rw [root, if_pos drive]
        rfl
  | false =>
      rw [root_of_noDrive drive]
      rfl

theorem drive_of_noDrive {s : StringType}
    (noDrive : startsWithDrive s = false) :
    drive s = none := by
  rw [drive, root_of_noDrive noDrive]
  rfl

/-- What a join appends is followed behind the names that are there. -/
theorem pieces_glue (a b : StringType) :
    pieces (body a ++ (glue a ++ b)) =
      pieces (body a) ++ pieces b := by
  cases named : endsInName a with
  | true =>
      have separator : isSeparator SEPARATOR = true := by decide
      rw [glue, if_pos named, List.singleton_append,
        pieces_append_cons separator]
  | false =>
      rw [glue, if_neg (Bool.eq_false_iff.mp named), List.nil_append]
      rcases List.eq_nil_or_concat (body a) with nothing |
        ⟨front, last, split⟩
      · rw [nothing]
        rfl
      · rw [List.concat_eq_append] at split
        rw [endsInName, split, List.getLast?_concat, Option.any_some,
          Bool.not_eq_false'] at named
        rw [split, List.append_assoc, List.singleton_append,
          pieces_append_cons named, pieces_append_cons named, pieces_nil,
          List.append_nil]

/-- A join that appends goes on from where the path leads. -/
theorem separatorFollows_glue (a : StringType) {b : StringType}
    (noDrive : startsWithDrive b = false)
    (noSeparator : separatorFollows b = false) :
    separatorFollows (a ++ (glue a ++ b)) = separatorFollows a := by
  have split := (keepsRoot_glue a noDrive).body
  by_cases nothing : body a = []
  · have noGlue : glue a = [] := by
      rw [glue, endsInName, nothing]
      rfl
    have first : b.head?.any isSeparator = false := by
      rwa [separatorFollows, body_of_noDrive noDrive] at noSeparator
    rw [separatorFollows, split, nothing, noGlue, List.nil_append,
      List.nil_append, first, separatorFollows, nothing]
    rfl
  · exact separatorFollows_of_body split nothing

/-- The join of strings is the join of their routes. -/
theorem route_join (a b : StringType) :
    route (join a b) = (route a).join (route b) := by
  cases drive' : startsWithDrive b with
  | true =>
      have named : (drive b).isSome = true := (drive_isSome b).trans drive'
      rcases Option.isSome_iff_exists.mp named with ⟨volume, same⟩
      rw [join_of_drive a drive']
      simp only [Route.join, route, same]
  | false =>
      have unnamed := drive_of_noDrive drive'
      cases separator : separatorFollows b with
      | true =>
          have keeps := keepsRoot_root a drive'
          have behind := keeps.body
          rw [body_root, List.nil_append] at behind
          rw [join_of_separator a drive' separator]
          simp only [Route.join, route, unnamed, separator]
          rw [drive, keeps.root, root_root, ← drive, separatorFollows,
            behind, body_of_noDrive drive']
          rw [separatorFollows, body_of_noDrive drive'] at separator
          rw [separator]
      | false =>
          have keeps := keepsRoot_glue a drive'
          rw [join_of_relative a drive' separator]
          simp only [Route.join, route, unnamed, separator]
          rw [drive, keeps.root, ← drive, keeps.body, pieces_glue,
            separatorFollows_glue a drive' separator,
            body_of_noDrive drive']

end PathText

/-! ## The meaning of joins -/

namespace FilePath

/-- The route of a path is that of its string. -/
def route (path : FilePath) : Route CharType StringType :=
  PathText.route path.getString

end FilePath

namespace BuiltPath

theorem route_div (a b : BuiltPath) :
    (a / b).val.route = a.val.route.join b.val.route := by
  rw [FilePath.route, FilePath.getString_eq_data, data_div,
    PathText.route_join]
  rfl

/-- A join leads where the second path leads behind the first, in every world
and from every place, exactly if the second path has no drive, or has a
separator behind it, or is on another drive than the first, or the first path is
at most a drive.  Paths that `clear` or `swap` has changed are not covered. -/
theorem join_denotes_iff
    (a b : BuiltPath) :
    (∀ (Node : Type) (world : World CharType StringType Node)
        (standing : Standing CharType Node),
      (a.val / b.val).route.locate world standing =
        b.val.route.locate world (a.val.route.enter world standing)) ↔
      ¬ Route.Misplaced a.val.route b.val.route := by
  have joined : (a.val / b.val).route = a.val.route.join b.val.route :=
    route_div a b
  rw [joined]
  exact Route.locate_join_iff a.val.route b.val.route

/-- The routes of a chain of joins, from the left. -/
theorem route_foldl (parts : List BuiltPath) (start : BuiltPath) :
    (parts.foldl join start).val.route =
      (parts.map fun part => part.val.route).foldl Route.join
        start.val.route := by
  induction parts generalizing start with
  | nil => rfl
  | cons part parts ih =>
      have joined :
          (start.join part).val.route =
            start.val.route.join part.val.route := route_div start part
      rw [List.foldl_cons, ih, List.map_cons, List.foldl_cons, joined]

/-- The empty path leads to where the process stands. -/
theorem locate_empty {Node : Type} (world : World CharType StringType Node)
    (standing : Standing CharType Node) :
    empty.val.route.locate world standing = standing.here := rfl

/-- A chain of joins of any length, with its parentheses anywhere, leads where
changing the directory along its parts leads, if no part but the first has a
drive without a separator behind it.  Parts that `clear` or `swap` has changed
are not covered. -/
theorem chain_denotes
    (chain : Grouping BuiltPath)
    (absolute :
      ∀ part ∈ chain.operands.tail, ¬ part.val.route.VolumeRelative)
    (Node : Type)
    (world : World CharType StringType Node)
    (standing : Standing CharType Node) :
    (chain.eval join).val.route.locate world standing =
      (chain.operands.foldl
        (fun place part => part.val.route.enter world place)
        standing).here := by
  have taken : chain.eval join = chain.operands.foldl join empty :=
    Grouping.eval_eq_foldl div_assoc empty_div chain
  rw [taken]
  revert absolute
  cases chain.operands with
  | nil =>
      intro _
      exact locate_empty world standing
  | cons first rest =>
      intro absolute
      have routes : ∀ route ∈ rest.map fun part => part.val.route,
          ¬ route.VolumeRelative := by
        intro route among
        rcases List.mem_map.mp among with ⟨part, within, rfl⟩
        exact absolute part within
      have located :=
        Route.locate_foldl_join routes world standing first.val.route
      have begins : empty.join first = first := empty_div first
      rw [List.foldl_cons, begins, route_foldl, located, List.foldl_map]
      rfl

/-- The world in which a node is the names that lead to it from the root. -/
def nested : World CharType StringType (List StringType) where
  root _ := []
  follow node name := node ++ [name]

/-- A chain that names its drive first and goes back to the root last. -/
theorem chain_denotes_nested :
    let part (s : String) : BuiltPath := ⟨_, .ofString (wideString s)⟩
    let chain : Grouping BuiltPath :=
      .apply (.operand (part "D:a"))
        (.apply (.operand (part "b")) (.operand (part "/c")))
    let standing : Standing CharType (List StringType) :=
      ⟨wide 'C', fun _ => []⟩
    (chain.eval join).val.route.locate nested standing =
      (chain.operands.foldl
        (fun place part => part.val.route.enter nested place)
        standing).here := by
  intro part chain standing
  exact chain_denotes chain (by decide) _ nested standing

end BuiltPath

end Netycat.Filesystem
