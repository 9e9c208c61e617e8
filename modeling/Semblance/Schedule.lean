import Semblance.Syntax.Arena

/-! # Scheduling statements

A schedule puts statements in an order in which each comes after the statements that it depends on.
It is found depth first: a statement is placed once its dependencies are, and statements that do not
depend on each other keep their order.  A dependency on a statement that is still waiting for its
own dependencies closes a cycle.  It is left out of account and reported as broken, unless a
statement depends on itself, which is the normal form of a self-referential value.  Dependencies
beyond the last statement count for nothing.

* `waitingWork_set_le`   marking a statement as active or placed leaves no more work waiting
* `waitingWork_set`      and less by its own share, if it was waiting -/

namespace Semblance

/-- How far the search has come with a statement. -/
inductive Mark where
  /-- Not looked at. -/
  | waiting
  /-- On the path of the search. -/
  | active
  /-- In the schedule. -/
  | placed
deriving DecidableEq, Repr

/-- An order of statements, and the dependencies that it does not respect. -/
structure Schedule where
  order : Array Nat := #[]
  /-- The broken dependencies in the order in which they were found: from a statement to one that
      comes later. -/
  broken : Array (Nat × Nat) := #[]
deriving DecidableEq, Repr

namespace Schedule

/-- The statements that a statement depends on. -/
def edges (deps : Array (Array Nat)) (position : Nat) : List Nat :=
  match deps[position]? with
  | some targets => targets.toList
  | none => []

/-- The work that a statement not looked at will make: one step, and one for each of its
    dependencies. -/
def waitingWorkAt (deps : Array (Array Nat)) (marks : Array Mark) (position : Nat) : Nat :=
  if marks[position]? = some .waiting then (edges deps position).length + 1 else 0

/-- The work that the first statements will make, as far as they are not looked at. -/
def waitingWorkBelow (deps : Array (Array Nat)) (marks : Array Mark) : Nat → Nat
  | 0 => 0
  | position + 1 => waitingWorkBelow deps marks position + waitingWorkAt deps marks position

/-- The work that is left in the statements not looked at. -/
def waitingWork (deps : Array (Array Nat)) (marks : Array Mark) : Nat :=
  waitingWorkBelow deps marks marks.size

/-- The work that is left on a path: one step for each statement on it, and one for each dependency
    to look at. -/
def pathWork : List (Nat × List Nat) → Nat
  | [] => 0
  | (_, targets) :: rest => targets.length + 1 + pathWork rest

/-- Marking a statement does not change the work that another one will make. -/
theorem waitingWorkAt_set_ne (deps : Array (Array Nat)) (marks : Array Mark) {position other : Nat}
    (mark : Mark) (hne : position ≠ other) :
    waitingWorkAt deps (marks.setIfInBounds position mark) other =
      waitingWorkAt deps marks other := by
  rw [waitingWorkAt, waitingWorkAt, Array.getElem?_setIfInBounds_ne hne]

/-- A statement that is looked at makes no work any more. -/
theorem waitingWorkAt_set_self (deps : Array (Array Nat)) (marks : Array Mark) (position : Nat)
    {mark : Mark} (hmark : mark ≠ .waiting) :
    waitingWorkAt deps (marks.setIfInBounds position mark) position = 0 := by
  rw [waitingWorkAt, Array.getElem?_setIfInBounds_self]
  split <;> simp [hmark]

/-- Marking a statement takes its own share out of the work, if it is among the first ones. -/
theorem waitingWorkBelow_set (deps : Array (Array Nat)) (marks : Array Mark) (position : Nat)
    {mark : Mark} (hmark : mark ≠ .waiting) (bound : Nat) :
    waitingWorkBelow deps (marks.setIfInBounds position mark) bound +
        (if position < bound then waitingWorkAt deps marks position else 0) =
      waitingWorkBelow deps marks bound := by
  induction bound with
  | zero => rfl
  | succ bound ih =>
    rw [waitingWorkBelow, waitingWorkBelow]
    by_cases heq : position = bound
    · subst heq
      rw [waitingWorkAt_set_self deps marks position hmark]
      simp only [Nat.lt_irrefl, if_false, Nat.lt_succ_self, if_true] at ih ⊢
      omega
    · rw [waitingWorkAt_set_ne deps marks mark heq]
      split at ih <;> split <;> omega

/-- Marking a statement as active or placed leaves no more work than before. -/
theorem waitingWork_set_le (deps : Array (Array Nat)) (marks : Array Mark) (position : Nat)
    {mark : Mark} (hmark : mark ≠ .waiting) :
    waitingWork deps (marks.setIfInBounds position mark) ≤ waitingWork deps marks := by
  have hshare := waitingWorkBelow_set deps marks position hmark marks.size
  rw [waitingWork, waitingWork, Array.size_setIfInBounds]
  omega

/-- If the statement was waiting, then its own share of the work is gone. -/
theorem waitingWork_set (deps : Array (Array Nat)) {marks : Array Mark} {position : Nat}
    {mark : Mark} (hmark : mark ≠ .waiting) (hwaiting : marks[position]? = some .waiting) :
    waitingWork deps (marks.setIfInBounds position mark) + ((edges deps position).length + 1) =
      waitingWork deps marks := by
  have hshare := waitingWorkBelow_set deps marks position hmark marks.size
  obtain ⟨hlt, _⟩ := Array.getElem?_eq_some_iff.1 hwaiting
  rw [if_pos hlt, waitingWorkAt, if_pos hwaiting] at hshare
  rw [waitingWork, waitingWork, Array.size_setIfInBounds]
  exact hshare

/-- Follow the dependencies of the statements on a path, the innermost first, each with the
    dependencies that are left to look at. -/
def explore (deps : Array (Array Nat)) (path : List (Nat × List Nat)) (marks : Array Mark)
    (schedule : Schedule) : Array Mark × Schedule :=
  match path with
  | [] => (marks, schedule)
  | (position, []) :: rest =>
    -- Nothing is left to wait for.
    explore deps rest (marks.setIfInBounds position .placed)
      { schedule with order := schedule.order.push position }
  | (position, target :: targets) :: rest =>
    match _hfound : marks[target]? with
    | some .waiting =>
      -- One step down the path; the rest of the dependencies wait.
      explore deps ((target, edges deps target) :: (position, targets) :: rest)
        (marks.setIfInBounds target .active) schedule
    | some .active =>
      -- The target is on the path itself, so this dependency closes a cycle.
      explore deps ((position, targets) :: rest) marks
        (if target = position then schedule
          else { schedule with broken := schedule.broken.push (position, target) })
    | _ =>
      -- The target is placed, or there is no such statement.
      explore deps ((position, targets) :: rest) marks schedule
termination_by waitingWork deps marks + pathWork path
decreasing_by
  · have := waitingWork_set_le deps marks position (by decide : Mark.placed ≠ .waiting)
    simp only [pathWork, List.length_nil]
    omega
  · have := waitingWork_set deps (by decide : Mark.active ≠ .waiting) _hfound
    simp only [pathWork, List.length_cons]
    omega
  · simp [pathWork]
  · simp [pathWork]

/-- Schedule a statement and all that it depends on, unless it is in the schedule. -/
def start (deps : Array (Array Nat)) (state : Array Mark × Schedule) (position : Nat) :
    Array Mark × Schedule :=
  if state.1[position]? = some .waiting then
    explore deps [(position, edges deps position)] (state.1.setIfInBounds position .active) state.2
  else state

/-- The schedule of so many statements with the given dependencies. -/
def ofDeps (count : Nat) (deps : Array (Array Nat)) : Schedule :=
  ((List.range count).foldl (start deps) (Array.replicate count .waiting, {})).2

end Schedule

/-- A dependency that a schedule does not respect, as it is reported. -/
structure CycleWarning where
  /-- The statement that comes too early. -/
  source : NodeId
  /-- The statement that it refers to. -/
  target : NodeId
  sourceName : Option String
  targetName : Option String
deriving DecidableEq, Repr

/-- How a warning refers to a statement: by the name that it declares, or by its id. -/
def CycleWarning.describe (name : Option String) (id : NodeId) : String :=
  name.getD ("statement " ++ toString id)

/-- The wording of a warning. -/
def CycleWarning.message (warning : CycleWarning) : String :=
  "circular dependency: " ++ describe warning.sourceName warning.source ++ " refers to " ++
    describe warning.targetName warning.target ++ " before it is initialised"

/-- The warnings for the broken dependencies of a schedule of statements. -/
def Schedule.warnings (schedule : Schedule) (arena : Arena) (roots : Array NodeId) :
    List CycleWarning :=
  schedule.broken.toList.filterMap fun (source, target) => do
    let source ← roots[source]?
    let target ← roots[target]?
    return ⟨source, target, arena.declaredName source, arena.declaredName target⟩

end Semblance
