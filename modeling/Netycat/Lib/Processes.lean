import Netycat.Lib.Commuting

/-!
# Two processes and the queues between them

A process sends symbols, waits for symbols, and ends with a result.  Two of
them talk over a queue in each direction.  A process cannot look whether a
symbol is there, so what it does depends on the symbols alone and not on when
they come, and the steps of the two sides commute.  If the two can come to
their ends at all, every run leads there.  A blocked process has not come to its
end and does nothing more.
-/

namespace Netycat.Lib.Processes

/-- What is left of a process. -/
inductive Process (Symbol Result : Type*) where
  | done (result : Result)
  | send (symbol : Symbol) (rest : Process Symbol Result)
  | receive (rest : Symbol → Process Symbol Result)
  | blocked

namespace Process

variable {Symbol Result : Type*}

/-- A step: what is left of the process and of the symbols that wait for it,
and what it has sent. -/
def step : Process Symbol Result → List Symbol →
    Option (Process Symbol Result × List Symbol × List Symbol)
  | .done _, _ => none
  | .send symbol rest, incoming => some (rest, incoming, [symbol])
  | .receive _, [] => none
  | .receive rest, symbol :: incoming => some (rest symbol, incoming, [])
  | .blocked, _ => none

/-- Several steps. -/
def advance : Nat → Process Symbol Result → List Symbol →
    Option (Process Symbol Result × List Symbol × List Symbol)
  | 0, process, incoming => some (process, incoming, [])
  | steps + 1, process, incoming =>
      (process.step incoming).bind fun (next, waiting, sent) =>
        (advance steps next waiting).map fun (last, left, further) =>
          (last, left, sent ++ further)

/-- Send all the symbols of a list. -/
def sendAll (rest : Process Symbol Result) : List Symbol → Process Symbol Result
  | [] => rest
  | symbol :: symbols => .send symbol (sendAll rest symbols)

/-- Wait for a number of symbols. -/
def receiveAll : Nat → (List Symbol → Process Symbol Result) →
    Process Symbol Result
  | 0, rest => rest []
  | count + 1, rest =>
      .receive fun symbol =>
        receiveAll count fun symbols => rest (symbol :: symbols)

/-- Symbols that come later do not change what a step does now. -/
theorem step_append
    {process next : Process Symbol Result}
    {incoming waiting sent : List Symbol}
    (stepped : process.step incoming = some (next, waiting, sent))
    (more : List Symbol) :
    process.step (incoming ++ more) = some (next, waiting ++ more, sent) := by
  cases process with
  | done result | blocked => cases stepped
  | send symbol rest =>
      cases stepped
      rfl
  | receive rest =>
      cases incoming with
      | nil => cases stepped
      | cons symbol incoming =>
          cases stepped
          rfl

theorem advance_sendAll
    {symbols : List Symbol}
    {count : Nat}
    (fits : count ≤ symbols.length)
    (rest : Process Symbol Result)
    (incoming : List Symbol) :
    advance count (sendAll rest symbols) incoming =
      some (sendAll rest (symbols.drop count), incoming,
        symbols.take count) := by
  induction count generalizing symbols with
  | zero => rfl
  | succ count induction =>
      cases symbols with
      | nil => cases fits
      | cons symbol symbols =>
          simp [advance, sendAll, step, induction (Nat.le_of_succ_le_succ fits)]

theorem advance_receiveAll
    {wanted count : Nat}
    {incoming : List Symbol}
    (fits : count ≤ wanted)
    (there : count ≤ incoming.length)
    (rest : List Symbol → Process Symbol Result) :
    advance count (receiveAll wanted rest) incoming =
      some (receiveAll (wanted - count)
          (fun symbols => rest (incoming.take count ++ symbols)),
        incoming.drop count, []) := by
  induction count generalizing wanted incoming rest with
  | zero => rfl
  | succ count induction =>
      cases wanted with
      | zero => cases fits
      | succ wanted =>
          cases incoming with
          | nil => cases there
          | cons symbol incoming =>
              have later :=
                induction (Nat.le_of_succ_le_succ fits)
                  (Nat.le_of_succ_le_succ there)
                  (fun symbols => rest (symbol :: symbols))
              simp [advance, receiveAll, step, later]

end Process

/-! ## The pair -/

inductive Side where
  | left
  | right
deriving DecidableEq, Repr

def Side.other : Side → Side
  | .left => .right
  | .right => .left

theorem Side.other_ne (side : Side) :
    side.other ≠ side := by
  cases side with
  | left | right => exact Side.noConfusion

theorem Side.eq_other_of_ne
    {side target : Side}
    (different : target ≠ side) :
    target = side.other := by
  cases side with
  | left | right =>
      cases target with
      | left | right => first | rfl | exact absurd rfl different

/-- The processes, and the symbols that wait for each. -/
structure Pair (Symbol Result : Type*) where
  process : Side → Process Symbol Result
  incoming : Side → List Symbol

namespace Pair

variable {Symbol Result : Type*}

/-- The pair after the process of one side has done something: what it has
sent waits for the other. -/
def after (pair : Pair Symbol Result) (side : Side) :
    Process Symbol Result × List Symbol × List Symbol → Pair Symbol Result
  | (next, waiting, sent) =>
      { process := Function.update pair.process side next
        incoming := fun target =>
          if target = side then waiting else pair.incoming target ++ sent }

/-- A step of one of the two. -/
def step (pair : Pair Symbol Result) (side : Side) :
    Option (Pair Symbol Result) :=
  ((pair.process side).step (pair.incoming side)).map (pair.after side)

/-- Both have come to their ends. -/
def Ended (pair : Pair Symbol Result) (result : Side → Result) : Prop :=
  ∀ side, pair.process side = .done (result side)

/-- What the two sides do does not depend on which is first. -/
theorem after_after
    (pair : Pair Symbol Result)
    {first second : Side}
    (different : first ≠ second)
    (one other : Process Symbol Result)
    (waiting waiting' sent sent' : List Symbol) :
    (pair.after first (one, waiting, sent)).after second
        (other, waiting' ++ sent, sent') =
      (pair.after second (other, waiting', sent')).after first
        (one, waiting ++ sent', sent) := by
  simp only [after, Pair.mk.injEq]
  constructor
  · exact Function.update_comm different one other pair.process
  · funext target
    by_cases isFirst : target = first
    · subst isFirst
      simp [different]
    · have isSecond : target = second :=
        (Side.eq_other_of_ne isFirst).trans
          (Side.eq_other_of_ne different.symm).symm
      subst isSecond
      simp [isFirst]

/-- A side that could move still can after the other has moved. -/
theorem step_after
    {pair : Pair Symbol Result}
    {first second : Side}
    (different : first ≠ second)
    {next : Process Symbol Result}
    {waiting sent : List Symbol}
    (stepped :
      (pair.process second).step (pair.incoming second) =
        some (next, waiting, sent))
    (moved : Process Symbol Result × List Symbol × List Symbol) :
    (pair.after first moved).step second =
      some
        ((pair.after first moved).after second
          (next, waiting ++ moved.2.2, sent)) := by
  apply Option.map_eq_some_iff.mpr
  refine ⟨_, ?_, rfl⟩
  simpa [after, Function.update_of_ne different.symm, different.symm] using
    Process.step_append stepped moved.2.2

theorem joins
    {pair afterFirst afterSecond : Pair Symbol Result}
    {first second : Side}
    (different : first ≠ second)
    (one : pair.step first = some afterFirst)
    (other : pair.step second = some afterSecond) :
    ∃ joined,
      afterFirst.step second = some joined ∧
        afterSecond.step first = some joined := by
  rcases Option.map_eq_some_iff.mp one with ⟨moved, stepped, rfl⟩
  rcases Option.map_eq_some_iff.mp other with ⟨moved', stepped', rfl⟩
  refine ⟨_, step_after different stepped' moved, ?_⟩
  rw [step_after different.symm stepped moved', after_after _ different]

end Pair

variable {Symbol Result : Type*}

/-- The two processes under every schedule. -/
def network (initial : Pair Symbol Result) :
    TransitionSystem (Pair Symbol Result) Side where
  init := initial
  step := Pair.step

/-- The two sides do not get into each other's way. -/
theorem network_commutes (initial : Pair Symbol Result) :
    (network initial).Commutes := by
  intro state first second afterFirst afterSecond different one other
  exact Pair.joins different one other

theorem Pair.Ended.final
    {initial pair : Pair Symbol Result}
    {result : Side → Result}
    (ended : pair.Ended result) :
    (network initial).Final pair := by
  intro side
  simp [network, Pair.step, ended side, Process.step]

/-- Several steps of one side in a row. -/
theorem runFrom_replicate
    (initial : Pair Symbol Result)
    {pair : Pair Symbol Result}
    {side : Side}
    {count : Nat}
    {moved : Process Symbol Result × List Symbol × List Symbol}
    (advanced :
      Process.advance count (pair.process side) (pair.incoming side) =
        some moved) :
    (network initial).runFrom pair (List.replicate count side) =
      some (pair.after side moved) := by
  induction count generalizing pair moved with
  | zero =>
      cases advanced
      have same :
          pair.after side (pair.process side, pair.incoming side, []) =
            pair := by
        simp only [Pair.after, Function.update_eq_self, List.append_nil]
        congr
        funext target
        split
        · next isSide => rw [isSide]
        · rfl
      rw [same]
      rfl
  | succ count induction =>
      rw [Process.advance] at advanced
      rcases Option.bind_eq_some_iff.mp advanced with
        ⟨⟨next, waiting, sent⟩, stepped, further⟩
      rcases Option.map_eq_some_iff.mp further with
        ⟨⟨last, left, others⟩, later, rfl⟩
      have rest :
          (network initial).runFrom (pair.after side (next, waiting, sent))
              (List.replicate count side) =
            some
              ((pair.after side (next, waiting, sent)).after side
                (last, left, others)) := by
        apply induction
        simpa [Pair.after] using later
      rw [List.replicate_succ, TransitionSystem.runFrom]
      have first :
          (network initial).step pair side =
            some (pair.after side (next, waiting, sent)) :=
        Option.map_eq_some_iff.mpr ⟨_, stepped, rfl⟩
      rw [first, Option.bind_some, rest]
      simp only [Pair.after, Function.update_idem, Option.some.injEq,
        Pair.mk.injEq, true_and]
      funext target
      split
      · rfl
      · rw [List.append_assoc]

/-! ## Turns -/

/-- The pair as one of the sides sees it. -/
def Pair.facing (side : Side) (mine theirs : Process Symbol Result)
    (toMe toThem : List Symbol) : Pair Symbol Result where
  process := fun target => if target = side then mine else theirs
  incoming := fun target => if target = side then toMe else toThem

theorem Pair.facing_other
    (side : Side)
    (mine theirs : Process Symbol Result)
    (toMe toThem : List Symbol) :
    facing side.other mine theirs toMe toThem =
      facing side theirs mine toThem toMe := by
  simp only [facing, mk.injEq]
  constructor
  · funext target
    cases side with
    | left | right =>
        cases target with
        | left | right => rfl
  · funext target
    cases side with
    | left | right =>
        cases target with
        | left | right => rfl

theorem Pair.facing_after
    (side : Side)
    (mine theirs next : Process Symbol Result)
    (toMe toThem waiting sent : List Symbol) :
    (facing side mine theirs toMe toThem).after side (next, waiting, sent) =
      facing side next theirs waiting (toThem ++ sent) := by
  simp only [facing, after, mk.injEq]
  constructor
  · funext target
    by_cases isSide : target = side
    · simp [isSide]
    · simp [isSide]
  · funext target
    by_cases isSide : target = side
    · simp [isSide]
    · simp [isSide]

section Turns

variable (initial : Pair Symbol Result) (side : Side)

/-- One side sends all that it is to send, in a row. -/
theorem runFrom_sendAll
    (rest theirs : Process Symbol Result)
    (toMe toThem symbols : List Symbol) :
    (network initial).runFrom
        (.facing side (.sendAll rest symbols) theirs toMe toThem)
        (List.replicate symbols.length side) =
      some (.facing side rest theirs toMe (toThem ++ symbols)) := by
  rw [← Pair.facing_after side (.sendAll rest symbols) theirs rest toMe toThem
    toMe symbols]
  apply runFrom_replicate
  simp only [Pair.facing, if_true]
  rw [Process.advance_sendAll (Nat.le_refl _), List.drop_length,
    List.take_length]
  rfl

/-- One side receives all that it waits for, in a row. -/
theorem runFrom_receiveAll
    (rest : List Symbol → Process Symbol Result)
    (theirs : Process Symbol Result)
    (toThem symbols more : List Symbol) :
    (network initial).runFrom
        (.facing side (.receiveAll symbols.length rest) theirs
          (symbols ++ more) toThem)
        (List.replicate symbols.length side) =
      some (.facing side (rest symbols) theirs more toThem) := by
  have after :=
    Pair.facing_after side (.receiveAll symbols.length rest) theirs
      (rest symbols) (symbols ++ more) toThem more []
  rw [List.append_nil] at after
  rw [← after]
  apply runFrom_replicate
  simp only [Pair.facing, if_true]
  rw [Process.advance_receiveAll (Nat.le_refl _) (by simp)]
  simp [Process.receiveAll]

/-- A message passes from one side to the other. -/
theorem runFrom_handOver
    (rest : Process Symbol Result)
    (next : List Symbol → Process Symbol Result)
    (symbols : List Symbol) :
    (network initial).runFrom
        (.facing side (.sendAll rest symbols)
          (.receiveAll symbols.length next) [] [])
        (List.replicate symbols.length side ++
          List.replicate symbols.length side.other) =
      some (.facing side rest (next symbols) [] []) := by
  have received :=
    runFrom_receiveAll initial side.other next rest [] symbols []
  rw [List.append_nil, Pair.facing_other, Pair.facing_other] at received
  rw [TransitionSystem.runFrom_append, runFrom_sendAll, Option.bind_some,
    List.nil_append]
  exact received

end Turns

end Netycat.Lib.Processes
