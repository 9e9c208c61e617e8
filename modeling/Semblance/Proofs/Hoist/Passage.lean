import Semblance.Proofs.Hoist.Allowance

/-!
# What a walk passes

A walk from any graph passes through states until no occurrence is left or a step is refused. Every
id that is reached was met by then, and a node is there when it is met.

## Key results

- `walk_outcome`: a walk with enough steps ends in one of the two ways
- `hoist_eq_error_iff`: hoisting fails with the fault of a step that is refused
- `hoist_ne_unfinished`: hoisting is never stopped early
- `Passes.met_of_reaches`: at the end every id that is reached was met
-/

namespace Semblance.Hoist

/-- The states that a walk passes, each with the occurrences that it is to visit from there. -/
inductive Passes (arena : Arena) (roots : List NodeId) (names : NameSupply) :
    Agenda → Hoist → Prop
  | start : Passes arena roots names (agenda roots) { arena, roots := roots.toArray, names }
  | step {id : NodeId} {place : Occurrence} {rest next : Agenda} {hoist hoist' : Hoist} :
      Passes arena roots names ((id, place) :: rest) hoist →
      hoist.visit id place = .ok (next, hoist') → Passes arena roots names (next ++ rest) hoist'

/-- A node was met or is to be visited. -/
def Due (hoist : Hoist) (ahead : Agenda) (id : NodeId) : Prop :=
  (hoist.sighting? id).isSome ∨ ∃ place, (id, place) ∈ ahead

variable {arena : Arena} {roots : List NodeId} {names : NameSupply} {hoist hoist' : Hoist}
  {ahead rest next : Agenda} {id : NodeId} {place : Occurrence} {fault : Fault}

/-! ### What was met -/

/-- A step leaves no node behind. -/
theorem Grown.due_visit (h : Grown arena ((id, place) :: rest) hoist)
    (hstep : hoist.visit id place = .ok (next, hoist')) {other : NodeId}
    (hdue : hoist.Due ((id, place) :: rest) other) : hoist'.Due (next ++ rest) other := by
  -- The id at the head of the agenda is met by the step.
  have hhead : (hoist'.sighting? id).isSome ∧
      ((hoist.sighting? other).isSome → (hoist'.sighting? other).isSome) := by
    rcases (h.visit hstep).2.2 with ⟨hmet, _, hgrows⟩ | ⟨_, rfl, _⟩
    · rw [hgrows.isSome_eq, hgrows.isSome_eq]
      exact ⟨hmet, fun hother => hother⟩
    · rw [sighting?_meet, sighting?_meet, if_pos rfl]
      refine ⟨rfl, fun hother => ?_⟩
      split
      · rfl
      · exact hother
  rcases hdue with hmet | ⟨place', hmem⟩
  · exact .inl (hhead.2 hmet)
  · rcases List.mem_cons.1 hmem with heq | hmem
    · exact .inl ((Prod.mk.inj heq).1 ▸ hhead.1)
    · exact .inr ⟨place', List.mem_append_right _ hmem⟩

namespace Passes

/-- A walk on the way has grown its arena as any walk has. -/
theorem grown (h : Passes arena roots names ahead hoist) : Grown arena ahead hoist := by
  induction h with
  | start => exact .start arena roots names
  | step _ hstep ih => exact (ih.visit hstep).1

/-- The statements, and the children of the given nodes that were met, were met or are to be
    visited. -/
theorem due (h : Passes arena roots names ahead hoist) : (∀ id ∈ roots, hoist.Due ahead id) ∧
    ∀ parent slot child, (hoist.sighting? parent).isSome →
      arena.child? parent slot = some child → hoist.Due ahead child := by
  induction h with
  | start =>
    constructor
    · intro id hmem
      obtain ⟨position, hposition⟩ := List.getElem?_of_mem hmem
      exact .inr ⟨.root position, List.mem_map.2
        ⟨(id, position), List.mem_zipIdx_iff_getElem?.2 hposition, rfl⟩⟩
    · intro parent slot child hmet
      rw [sighting?_start] at hmet
      exact absurd hmet Bool.false_ne_true
  | @step here place rest next hoist hoist' hpasses hstep ih =>
    have hgrown := hpasses.grown
    refine ⟨fun id hmem => hgrown.due_visit hstep (ih.1 id hmem), ?_⟩
    intro parent slot child hmet hchild
    by_cases hformer : (hoist.sighting? parent).isSome
    · exact hgrown.due_visit hstep (ih.2 parent slot child hformer hchild)
    · -- The parent was met by this step, which has put its children on the agenda.
      rcases (hgrown.visit hstep).2.2 with ⟨_, _, hgrows⟩ | ⟨hunmet, rfl, node, hnode, rfl⟩
      · rw [hgrows.isSome_eq] at hmet
        exact absurd hmet hformer
      · rw [sighting?_meet] at hmet
        split at hmet
        · next heq =>
          subst heq
          obtain ⟨given, hgiven, hchild⟩ := Arena.child?_eq_some.1 hchild
          rw [hgrown.given hunmet (Arena.lt_size_of_node? hgiven), hgiven] at hnode
          obtain rfl := Option.some.inj hnode
          exact .inr ⟨_, List.mem_append_left _ (mem_below.2 ⟨slot, rfl, hchild⟩)⟩
        · exact absurd hmet hformer

/-- When nothing is left to visit, every id that is reached was met. -/
theorem met_of_reaches (h : Passes arena roots names [] hoist) (hid : arena.Reaches roots id) :
    (hoist.sighting? id).isSome := by
  have hmet {id : NodeId} (hdue : hoist.Due [] id) : (hoist.sighting? id).isSome :=
    hdue.resolve_right fun ⟨_, hmem⟩ => nomatch hmem
  induction hid with
  | root hmem => exact hmet (h.due.1 _ hmem)
  | child _ hchild ih => exact hmet (h.due.2 _ _ _ ih hchild)

/-- A node is there when it is met first. -/
theorem exists_of_met (h : Passes arena roots names ahead hoist)
    (hmet : (hoist.sighting? id).isSome) :
    ∃ place rest former node, Passes arena roots names ((id, place) :: rest) former ∧
      former.sighting? id = none ∧ former.arena.node? id = some node := by
  induction h with
  | start =>
    rw [sighting?_start] at hmet
    exact absurd hmet Bool.false_ne_true
  | @step here place rest next hoist hoist' hpasses hstep ih =>
    rcases (hpasses.grown.visit hstep).2.2 with ⟨_, _, hgrows⟩ | ⟨hunmet, rfl, node, hnode, _⟩
    · -- A node that was met before makes the step meet no further one.
      rw [hgrows.isSome_eq] at hmet
      exact ih hmet
    · rw [sighting?_meet] at hmet
      split at hmet
      · next heq =>
        subst heq
        exact ⟨place, rest, hoist, node, hpasses, hunmet, hnode⟩
      · exact ih hmet

/-! ### How a walk ends -/

/-- A walk goes on from each state that it passes, with enough steps left. -/
theorem walk_eq (h : Passes arena roots names ahead hoist) :
    ∃ steps, effort arena ahead hoist ≤ steps ∧
      walk (allowance arena roots) (agenda roots) { arena, roots := roots.toArray, names } =
        walk steps ahead hoist := by
  induction h with
  | start => exact ⟨_, effort_start arena roots names, rfl⟩
  | @step id place rest next hoist hoist' hpasses hstep ih =>
    obtain ⟨steps, hsteps, hwalk⟩ := ih
    have heffort := visit_effort hpasses.grown hstep
    obtain ⟨left, rfl⟩ := Nat.exists_eq_add_of_le' (Nat.le_trans (Nat.le_add_left 1 _)
      (Nat.le_trans heffort hsteps))
    rw [walk_cons, hstep] at hwalk
    exact ⟨left, by omega, hwalk⟩

end Passes

/-- A walk with enough steps ends when nothing is left to visit or a step is refused. -/
theorem walk_outcome {steps : Nat} (h : Passes arena roots names ahead hoist)
    (hsteps : effort arena ahead hoist ≤ steps) :
    (∃ final, walk steps ahead hoist = .ok final ∧ Passes arena roots names [] final) ∨
      ∃ fault id place rest last, walk steps ahead hoist = .error fault ∧
        Passes arena roots names ((id, place) :: rest) last ∧
        last.visit id place = .error fault := by
  induction steps generalizing ahead hoist with
  | zero =>
    cases ahead with
    | nil => exact .inl ⟨hoist, rfl, h⟩
    | cons head rest =>
      -- There is an occurrence left, so there is a step left for it.
      have := one_le_cost arena hoist head.1
      rw [effort_cons] at hsteps
      omega
  | succ steps ih =>
    cases ahead with
    | nil => exact .inl ⟨hoist, rfl, h⟩
    | cons head rest =>
      obtain ⟨id, place⟩ := head
      rw [walk_cons]
      cases hstep : hoist.visit id place with
      | error fault => exact .inr ⟨fault, id, place, rest, hoist, rfl, h, hstep⟩
      | ok value =>
        obtain ⟨next, hoist'⟩ := value
        have heffort := visit_effort h.grown hstep
        exact ih (h.step hstep) (by omega)

/-- What hoisting answers comes from a state with nothing left to visit. -/
theorem passes_of_hoist_eq_ok {hoisted : Hoisted} (h : arena.hoist roots names = .ok hoisted) :
    ∃ hoist, Passes arena roots names [] hoist ∧ hoisted = hoist.result := by
  obtain ⟨final, hwalk, hresult⟩ := bind_eq_ok.1 h
  rcases walk_outcome .start (effort_start arena roots names) with
    ⟨final', hwalk', hpasses⟩ | ⟨_, _, _, _, _, hwalk', _⟩
  · obtain rfl := Except.ok.inj (hwalk.symm.trans hwalk')
    exact ⟨final, hpasses, (Except.ok.inj hresult).symm⟩
  · exact nomatch hwalk.symm.trans hwalk'

/-- Hoisting fails with the fault of a step that is refused. -/
theorem hoist_eq_error_iff : arena.hoist roots names = .error fault ↔
    ∃ id place rest hoist, Passes arena roots names ((id, place) :: rest) hoist ∧
      hoist.visit id place = .error fault := by
  constructor
  · intro h
    rcases bind_eq_error.1 h with hwalk | ⟨_, _, hresult⟩
    · rcases walk_outcome .start (effort_start arena roots names) with
        ⟨_, hwalk', _⟩ | ⟨_, id, place, rest, last, hwalk', hpasses, hstep⟩
      · exact nomatch hwalk.symm.trans hwalk'
      · obtain rfl := Except.error.inj (hwalk.symm.trans hwalk')
        exact ⟨id, place, rest, last, hpasses, hstep⟩
    · exact nomatch hresult
  · rintro ⟨id, place, rest, hoist, hpasses, hstep⟩
    -- The walk to the refused occurrence leaves at least one step.
    obtain ⟨steps, hsteps, hwalk⟩ := hpasses.walk_eq
    have hcost := one_le_cost arena hoist id
    rw [effort_cons] at hsteps
    obtain ⟨left, rfl⟩ := Nat.exists_eq_add_of_le' (show 1 ≤ steps by omega)
    rw [walk_cons, hstep] at hwalk
    exact bind_eq_error.2 (.inl hwalk)

/-- Hoisting is never stopped early, whatever the graph. -/
theorem hoist_ne_unfinished (arena : Arena) (roots : List NodeId) (names : NameSupply) :
    arena.hoist roots names ≠ .error .unfinished := by
  intro h
  obtain ⟨id, place, rest, hoist, hpasses, hstep⟩ := hoist_eq_error_iff.1 h
  rcases hpasses.grown.visit_error hstep with ⟨_, heq⟩ | ⟨_, ⟨_, _, heq⟩ | ⟨_, heq⟩⟩
  all_goals exact nomatch heq

end Semblance.Hoist
