import Mathlib.Data.List.Induction
import Mathlib.Logic.Function.Basic

/-!
# Routes through volumes

A route says which volume to take, whether to start from its root or from the
current directory there, and which names to follow.  A process stands on one
volume and has a current directory on each of them.  What a name leads to is
left open, so that links and the names that mean the place itself or the one
above are covered.

Taking one route after the other is taking their join, in every world and from
every place, except where the second route starts from the current directory of
a volume that it names and the first has changed that very directory.
-/

universe u

/-- A way to a node. -/
structure Route (Volume Name : Type u) where
  volume : Option Volume
  fromRoot : Bool
  names : List Name
deriving DecidableEq, Repr

/-- The nodes of the volumes, and where a name leads from each of them. -/
structure World (Volume Name Node : Type u) where
  root : Volume → Node
  follow : Node → Name → Node

/-- Where a process stands. -/
structure Standing (Volume Node : Type u) where
  volume : Volume
  directory : Volume → Node

/-- The current volume and the current directory on it. -/
def Standing.here {Volume Node : Type u} (standing : Standing Volume Node) :
    Volume × Node :=
  (standing.volume, standing.directory standing.volume)

namespace Route

variable {Volume Name Node : Type u}

/-- Where the route leads. -/
def locate (world : World Volume Name Node)
    (standing : Standing Volume Node) (route : Route Volume Name) :
    Volume × Node :=
  let volume := route.volume.getD standing.volume
  let start :=
    if route.fromRoot then world.root volume else standing.directory volume
  (volume, route.names.foldl world.follow start)

/-- The process goes where the route leads. -/
def enter [DecidableEq Volume] (world : World Volume Name Node)
    (standing : Standing Volume Node) (route : Route Volume Name) :
    Standing Volume Node :=
  let place := route.locate world standing
  ⟨place.1, Function.update standing.directory place.1 place.2⟩

/-- One route behind another. -/
def join (a b : Route Volume Name) : Route Volume Name :=
  match b.volume, b.fromRoot with
  | some _, _ => b
  | none, true => { b with volume := a.volume }
  | none, false => { a with names := a.names ++ b.names }

/-- The route starts from the current directory of a volume that it names. -/
def VolumeRelative (route : Route Volume Name) : Prop :=
  route.volume.isSome = true ∧ route.fromRoot = false

instance (route : Route Volume Name) : Decidable route.VolumeRelative := by
  unfold VolumeRelative
  infer_instance

/-- The route ends where it starts. -/
def Stays (route : Route Volume Name) : Prop :=
  route.fromRoot = false ∧ route.names = []

/-- The first route may change the directory from which the second starts. -/
structure Misplaced (a b : Route Volume Name) : Prop where
  relative : b.VolumeRelative
  moves : ¬ a.Stays
  meets : a.volume = none ∨ a.volume = b.volume

@[simp]
theorem here_enter [DecidableEq Volume] (world : World Volume Name Node)
    (standing : Standing Volume Node) (route : Route Volume Name) :
    (route.enter world standing).here = route.locate world standing := by
  simp only [enter, Standing.here, Function.update_self]

/-- A route that stays changes nothing on its volume. -/
theorem Stays.locate {route : Route Volume Name} (stays : route.Stays)
    (world : World Volume Name Node) (standing : Standing Volume Node) :
    route.locate world standing =
      (route.volume.getD standing.volume,
        standing.directory (route.volume.getD standing.volume)) := by
  rw [Route.locate, stays.1, stays.2]
  rfl

theorem Stays.enter_directory [DecidableEq Volume]
    {route : Route Volume Name} (stays : route.Stays)
    (world : World Volume Name Node) (standing : Standing Volume Node) :
    (route.enter world standing).directory = standing.directory := by
  rw [enter, stays.locate world standing]
  exact Function.update_eq_self _ standing.directory

/-- A route that names no volume, or starts from a root, leads from places that
agree on where the process is to the same node. -/
theorem locate_of_here {route : Route Volume Name}
    (absolute : ¬ route.VolumeRelative)
    (world : World Volume Name Node) {standing other : Standing Volume Node}
    (same : standing.here = other.here) :
    route.locate world standing = route.locate world other := by
  rcases route with ⟨_ | volume, _ | _, names⟩
  · have volumes := congrArg Prod.fst same
    have directories := congrArg Prod.snd same
    simp only [Standing.here] at volumes directories
    rw [volumes] at directories
    simp only [locate, Option.getD_none, Bool.false_eq_true, if_false,
      volumes, directories]
  · have volumes := congrArg Prod.fst same
    simp only [Standing.here] at volumes
    simp only [locate, Option.getD_none, if_true, volumes]
  · exact absurd ⟨rfl, rfl⟩ absolute
  · rfl

/-- The join leads where the second route leads behind the first. -/
theorem locate_join [DecidableEq Volume] {a b : Route Volume Name}
    (placed : ¬ Misplaced a b)
    (world : World Volume Name Node) (standing : Standing Volume Node) :
    (a.join b).locate world standing =
      b.locate world (a.enter world standing) := by
  rcases b with ⟨_ | volume, _ | _, names⟩
  · simp only [join, locate, enter, Option.getD_none, Bool.false_eq_true,
      if_false, List.foldl_append, Function.update_self]
    rfl
  · rfl
  · by_cases stays : a.Stays
    · simp only [join, locate, Option.getD_some, Bool.false_eq_true,
        if_false, stays.enter_directory]
    · have apart : a.volume.getD standing.volume ≠ volume := by
        intro same
        apply placed
        refine ⟨⟨rfl, rfl⟩, stays, ?_⟩
        cases named : a.volume with
        | none =>
            exact .inl rfl
        | some other =>
            rw [named] at same
            exact .inr (congrArg some same)
      simp only [join, locate, enter, Option.getD_some, Bool.false_eq_true,
        if_false, Function.update_of_ne apart.symm]
  · rfl

/-- The world in which every route can be read off the node it leads to. -/
def free (Volume Name : Type u) :
    World Volume Name (ULift.{u} Bool × List Name) where
  root _ := (⟨true⟩, [])
  follow node name := (node.1, node.2 ++ [name])

theorem free_follow (names : List Name)
    (node : ULift.{u} Bool × List Name) :
    names.foldl (free Volume Name).follow node =
      (node.1, node.2 ++ names) := by
  induction names generalizing node with
  | nil =>
      rw [List.append_nil]
      rfl
  | cons name names ih =>
      rw [List.foldl_cons, ih]
      simp only [free, List.append_assoc, List.singleton_append]

/-- The join is right in all worlds unless the routes are misplaced. -/
theorem locate_join_iff [DecidableEq Volume] (a b : Route Volume Name) :
    (∀ (Node : Type u) (world : World Volume Name Node)
        (standing : Standing Volume Node),
      (a.join b).locate world standing =
        b.locate world (a.enter world standing)) ↔
      ¬ Misplaced a b := by
  constructor
  · rintro right ⟨relative, moves, meets⟩
    rcases b with ⟨_ | volume, _ | _, names⟩
    · cases relative.1
    · cases relative.1
    · have same := right _ (free Volume Name)
        ⟨volume, fun _ => (⟨false⟩, [])⟩
      have there : a.volume.getD volume = volume := by
        rcases meets with unnamed | named
        · rw [unnamed]
          rfl
        · rw [named]
          rfl
      simp only [join, locate, enter, Option.getD_some, Bool.false_eq_true,
        if_false, there, Function.update_self, free_follow,
        List.nil_append] at same
      apply moves
      cases root : a.fromRoot with
      | true =>
          rw [root] at same
          cases congrArg (fun place => place.2.1.down) same
      | false =>
          rw [root] at same
          have followed := congrArg (fun place => place.2.2) same
          simp only [Bool.false_eq_true, if_false,
            List.nil_append] at followed
          exact ⟨root, List.self_eq_append_left.mp followed⟩
    · cases relative.2
  · intro placed Node world standing
    exact locate_join placed world standing

/-- A chain of joins leads where the routes lead one after the other. -/
theorem locate_foldl_join [DecidableEq Volume]
    {routes : List (Route Volume Name)}
    (absolute : ∀ route ∈ routes, ¬ route.VolumeRelative)
    (world : World Volume Name Node) (standing : Standing Volume Node)
    (start : Route Volume Name) :
    (routes.foldl join start).locate world standing =
      (routes.foldl (enter world) (start.enter world standing)).here := by
  induction routes using List.reverseRecOn with
  | nil =>
      exact (here_enter world standing start).symm
  | append_singleton routes route ih =>
      have last := absolute route (List.mem_append_right _ List.mem_cons_self)
      have earlier := ih fun other among =>
        absolute other (List.mem_append_left _ among)
      simp only [List.foldl_append, List.foldl_cons, List.foldl_nil,
        here_enter]
      rw [locate_join (fun misplaced => last misplaced.relative)]
      apply locate_of_here last
      rw [here_enter, earlier]

end Route
