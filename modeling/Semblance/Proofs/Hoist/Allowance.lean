import Mathlib.Algebra.BigOperators.Fin
import Mathlib.Algebra.Order.BigOperators.Group.Finset
import Mathlib.Algebra.Order.BigOperators.Group.List
import Mathlib.Algebra.Order.Ring.Nat
import Semblance.Proofs.Hoist.Growth

/-!
# A walk ends within its allowance

A walk may come to nodes that it has put in itself, so that there are not only as many steps as
there are occurrences in the graph. The steps that are left are bounded by an effort, which each
step lowers: a cost for every occurrence on the agenda, and the costs of the occurrences below each
given node that was not met. An occurrence of a given node costs the step that visits it. An id
without a node may come to be that of a declaration, from which the walk goes on to the declarator
and to the node that this holds. That node was met before, so the occurrence costs three steps.

## Key results

- `visit_effort`: every step lowers the effort
- `effort_start`: the effort at the start is within the allowance
-/

namespace Semblance.Hoist

/-- How many steps an occurrence of a node takes at most, beyond those below given nodes. -/
def cost (arena : Arena) (hoist : Hoist) (id : NodeId) : Nat :=
  if id.index < arena.size ∨ (hoist.sighting? id).isSome then 1
  else
    match hoist.arena.node? id with
    | some (.declarator _ _) => 2
    | some (.varDecl _) | none => 3
    | some _ => 1

/-- The number of child slots of a node. -/
def fanout (arena : Arena) (index : Nat) : Nat :=
  arena.nodes[index]?.elim 0 (·.operands.length)

/-- The given nodes that were not met. -/
def unopened (arena : Arena) (hoist : Hoist) : Finset Nat :=
  (Finset.range arena.size).filter fun index => hoist.sighting? ⟨index⟩ = none

/-- How many steps a walk takes at most from here. -/
def effort (arena : Arena) (agenda : Agenda) (hoist : Hoist) : Nat :=
  (agenda.map fun occurrence => cost arena hoist occurrence.1).sum +
    ∑ index ∈ unopened arena hoist, 3 * fanout arena index

variable {arena : Arena} {hoist hoist' : Hoist} {rest next : Agenda} {id other : NodeId}
  {place : Occurrence} {node : Node}

/-! ### Costs -/

/-- Every occurrence costs a step. -/
theorem one_le_cost (arena : Arena) (hoist : Hoist) (id : NodeId) : 1 ≤ cost arena hoist id := by
  unfold cost
  repeat' split
  all_goals omega

/-- No occurrence costs more than a declaration, its declarator and its node. -/
theorem cost_le (arena : Arena) (hoist : Hoist) (id : NodeId) : cost arena hoist id ≤ 3 := by
  unfold cost
  repeat' split
  all_goals omega

/-- A given node costs the step that visits it. -/
theorem cost_of_lt (h : id.index < arena.size) : cost arena hoist id = 1 :=
  if_pos (.inl h)

/-- A node that was met costs the step that visits it again. -/
theorem cost_of_met (h : (hoist.sighting? id).isSome) : cost arena hoist id = 1 :=
  if_pos (.inr h)

/-- An occurrence costs less when its node is there, and when it was met. -/
theorem Grows.cost_le (h : Grows hoist hoist') (arena : Arena) (id : NodeId) :
    cost arena hoist' id ≤ cost arena hoist id := by
  by_cases hknown : id.index < arena.size ∨ (hoist.sighting? id).isSome
  · rw [cost, cost, h.isSome_eq, if_pos hknown, if_pos hknown]
  · cases hnode : hoist.arena.node? id with
    | none =>
      have hdear : cost arena hoist id = 3 := by rw [cost, if_neg hknown, hnode]
      exact hdear ▸ Hoist.cost_le arena hoist' id
    | some node =>
      have hunmet := Option.not_isSome_iff_eq_none.1 (not_or.1 hknown).2
      rw [cost, cost, h.isSome_eq, h.unmet id hunmet (Arena.lt_size_of_node? hnode)]

/-- No occurrence costs more once a node is met. -/
theorem cost_meet_le (arena : Arena) (hoist : Hoist) (id : NodeId) (place : Occurrence)
    (other : NodeId) : cost arena (hoist.meet id place) other ≤ cost arena hoist other := by
  by_cases heq : other = id
  · rw [cost_of_met (by rw [sighting?_meet, if_pos heq]; rfl)]
    exact one_le_cost ..
  · rw [cost, cost, sighting?_meet, if_neg heq]
    exact Nat.le_refl _

/-! ### Steps -/

/-- An occurrence adds its cost to the effort. -/
theorem effort_cons (arena : Arena) (hoist : Hoist) (id : NodeId) (place : Occurrence)
    (rest : Agenda) : effort arena ((id, place) :: rest) hoist =
      cost arena hoist id + effort arena rest hoist := by
  rw [effort, effort, List.map_cons, List.sum_cons, Nat.add_assoc]

/-- The costs of occurrences where none of them costs more. -/
theorem sum_cost_le (hcost : ∀ id, cost arena hoist' id ≤ cost arena hoist id) (rest : Agenda) :
    (rest.map fun occurrence => cost arena hoist' occurrence.1).sum ≤
      (rest.map fun occurrence => cost arena hoist occurrence.1).sum :=
  List.sum_le_sum fun occurrence _ => hcost occurrence.1

/-- The occurrences below a node cost three steps each at most. -/
theorem sum_below_le (arena : Arena) (hoist : Hoist) (id : NodeId) (node : Node) :
    ((below id node).map fun occurrence => cost arena hoist occurrence.1).sum ≤
      3 * node.operands.length := by
  have hsum := List.sum_le_card_nsmul
    ((below id node).map fun occurrence => cost arena hoist occurrence.1) 3 (by
      simp only [List.mem_map]
      rintro _ ⟨occurrence, _, rfl⟩
      exact Hoist.cost_le ..)
  have hlength : (below id node).length ≤ node.operands.length := by
    rw [below, List.length_map, Node.children]
    exact (List.length_filterMap_le ..).trans_eq (List.length_zipIdx ..)
  rw [List.length_map, smul_eq_mul] at hsum
  omega

/-- What is below a node that was put in costs less than the node. -/
theorem sum_below_made (place : Occurrence) (hge : arena.size ≤ id.index)
    (hunmet : hoist.sighting? id = none) (hnode : hoist.arena.node? id = some node)
    (hmade : hoist.Made node) :
    ((below id node).map fun occurrence =>
      cost arena (hoist.meet id place) occurrence.1).sum + 1 ≤ cost arena hoist id := by
  have hknown : ¬ (id.index < arena.size ∨ (hoist.sighting? id).isSome) := by
    rw [hunmet]
    simpa using hge
  have hmono := cost_meet_le arena hoist id place
  rw [cost, if_neg hknown, hnode]
  cases hmade with
  | ident name => exact Nat.le_refl 1
  | @declarator name init hmet =>
    have := hmono init
    rw [cost_of_met hmet] at this
    show cost arena (hoist.meet id place) init + 0 + 1 ≤ 2
    omega
  | @varDecl declarator hparts =>
    -- The declarator was met, or it is the node that was put in below the declaration.
    have hdeclarator : cost arena hoist declarator ≤ 2 := by
      rcases hparts with hmet | ⟨name, init, hnode⟩
      · rw [cost_of_met hmet]
        omega
      · rw [cost, hnode]
        split
        · exact Nat.le_succ 1
        · exact Nat.le_refl 2
    have := hmono declarator
    show cost arena (hoist.meet id place) declarator + 0 + 1 ≤ 3
    omega

/-- Meeting a given node takes it out of those that were not met. -/
theorem unopened_meet (hoist : Hoist) (id : NodeId) (place : Occurrence) :
    unopened arena (hoist.meet id place) = (unopened arena hoist).erase id.index := by
  ext index
  have hindex : (⟨index⟩ : NodeId) = id ↔ index = id.index :=
    ⟨fun heq => heq ▸ rfl, fun heq => heq ▸ rfl⟩
  rw [unopened, unopened, Finset.mem_erase, Finset.mem_filter, Finset.mem_filter, sighting?_meet]
  split
  · next heq => simp [hindex.1 heq]
  · next hne => simp [mt hindex.2 hne]

/-- Meeting a node lowers the effort. -/
theorem effort_meet (h : Grown arena ((id, place) :: rest) hoist)
    (hunmet : hoist.sighting? id = none) (hnode : hoist.arena.node? id = some node) :
    effort arena (below id node ++ rest) (hoist.meet id place) + 1 ≤
      effort arena ((id, place) :: rest) hoist := by
  have hrest := sum_cost_le (cost_meet_le arena hoist id place) rest
  rw [effort_cons, effort, effort, unopened_meet, List.map_append, List.sum_append]
  by_cases hgiven : id.index < arena.size
  · -- The occurrences below a given node were taken into account with the node.
    have hmem : id.index ∈ unopened arena hoist :=
      Finset.mem_filter.2 ⟨Finset.mem_range.2 hgiven, hunmet⟩
    have hsum := Finset.add_sum_erase _ (fun index => 3 * fanout arena index) hmem
    have hfanout : fanout arena id.index = node.operands.length := by
      rw [h.given hunmet hgiven, Arena.node?] at hnode
      rw [fanout, hnode]
      rfl
    have hbelow := sum_below_le arena (hoist.meet id place) id node
    rw [cost_of_lt hgiven]
    simp only [hfanout] at hsum
    omega
  · -- Those below a node that was put in were taken into account with its occurrence.
    have hbelow := sum_below_made place (Nat.not_lt.1 hgiven) hunmet hnode
      (h.made hunmet (Nat.not_lt.1 hgiven) hnode)
    have hnot : id.index ∉ unopened arena hoist := fun hmem =>
      hgiven (Finset.mem_range.1 (Finset.mem_filter.1 hmem).1)
    rw [Finset.erase_eq_of_notMem hnot]
    omega

/-- Every step lowers the effort. -/
theorem visit_effort (h : Grown arena ((id, place) :: rest) hoist)
    (hstep : hoist.visit id place = .ok (next, hoist')) :
    effort arena (next ++ rest) hoist' + 1 ≤ effort arena ((id, place) :: rest) hoist := by
  rcases (h.visit hstep).2.2 with ⟨_, rfl, hgrows⟩ | ⟨hunmet, rfl, node, hnode, rfl⟩
  · have hunopened : unopened arena hoist' = unopened arena hoist := by
      simp only [unopened, hgrows.eq_none_iff]
    have hrest := sum_cost_le (hgrows.cost_le arena) rest
    have hcost := one_le_cost arena hoist id
    rw [effort_cons, effort, effort, hunopened, List.nil_append]
    omega
  · exact effort_meet h hunmet hnode

/-! ### The start -/

/-- The slots of all nodes, counted by index. -/
theorem sum_fanout (arena : Arena) : ∑ index ∈ Finset.range arena.size, fanout arena index =
    arena.nodes.foldl (fun count node => count + node.operands.length) 0 := by
  have hnode (index : Fin arena.nodes.toList.length) :
      fanout arena index = arena.nodes.toList[index.1].operands.length := by
    rw [fanout, Array.getElem?_eq_getElem index.2]
    rfl
  rw [← Array.foldl_toList, ← List.foldl_map (f := fun node : Node => node.operands.length)
    (g := (· + ·)), ← List.sum_eq_foldl, ← Fin.sum_univ_fun_getElem, Arena.size,
    ← Array.length_toList, Finset.sum_range]
  exact Finset.sum_congr rfl fun index _ => hnode index

/-- The effort at the start is within the allowance. -/
theorem effort_start (arena : Arena) (roots : List NodeId) (names : NameSupply) :
    effort arena (agenda roots) { arena, roots := roots.toArray, names } ≤
      allowance arena roots := by
  have hroots := List.sum_le_card_nsmul ((agenda roots).map fun occurrence =>
    cost arena { arena, roots := roots.toArray, names } occurrence.1) 3 (by
      simp only [List.mem_map]
      rintro _ ⟨occurrence, _, rfl⟩
      exact cost_le ..)
  have hslots : ∑ index ∈ unopened arena { arena, roots := roots.toArray, names },
      3 * fanout arena index ≤ ∑ index ∈ Finset.range arena.size, 3 * fanout arena index :=
    Finset.sum_le_sum_of_subset (Finset.filter_subset ..)
  rw [← Finset.mul_sum, ← Finset.mul_sum, sum_fanout] at hslots
  rw [List.length_map, agenda, List.length_map, List.length_zipIdx, smul_eq_mul] at hroots
  rw [effort, agenda, allowance, ← Finset.mul_sum]
  omega

end Semblance.Hoist
