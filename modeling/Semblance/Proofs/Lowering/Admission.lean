import Mathlib.Data.Set.Card
import Semblance.Proofs.Hoist.Admission
import Semblance.Proofs.Hoist.Passage
import Semblance.Proofs.Lowering.Forest

/-!
# Which graphs can be lowered

Where every id that is reached has a node, it can be read off a graph whether its lowering succeeds,
although a walk checks one occurrence at a time in an arena that it is rewriting. Cycles are no
obstacle, and the names in use make no difference.

## Key results

- `hoistable_iff`: the conditions on a graph in terms of its nodes
- `Unfolded.encard_shared`: hoisting makes one declaration for each shared node
- `lower_ok_iff`: a lowering succeeds if and only if its graph meets the conditions
-/

namespace Semblance

variable {arena : Arena} {roots : List NodeId}

/-- A graph can be hoisted if no statement needs a container, every child is accepted by its parent,
    and what occurs twice is an expression with a hint that is no statement. -/
theorem hoistable_iff (hclosed : arena.Closed roots) : arena.Hoistable roots ↔
    (∀ root ∈ roots, ∀ node, arena.node? root = some node → node.needsContainer = false) ∧
    (∀ parent holder slot child node, arena.Reaches roots parent →
      arena.node? parent = some holder → holder.child? slot = some child →
      arena.node? child = some node → holder.acceptsChild node = true) ∧
    ∀ id node, arena.Shared roots id → arena.node? id = some node →
      node.isExpression = true ∧ id ∉ roots ∧ ∃ hint, arena.hint id = some hint ∧ hint ≠ "" := by
  constructor
  · intro h
    refine ⟨?_, ?_, fun id node hshared hnode =>
      ⟨h.expression hshared hnode, h.not_root hshared, h.named hshared⟩⟩
    · intro root hmem node hnode
      obtain ⟨position, hposition⟩ := List.getElem?_of_mem hmem
      have hstand : Hoist.mayStandIn arena node (.root position) = true :=
        h.placed hposition hnode
      exact (Bool.not_eq_true' _).mp hstand
    · intro parent holder slot child node hparent hholder hchild hnode
      have hslot := Arena.child?_eq_some.2 ⟨holder, hholder, hchild⟩
      have hstand := h.placed (Arena.occurs_slot.2 ⟨hparent, hslot⟩) hnode
      rwa [Hoist.mayStandIn, hholder] at hstand
  · rintro ⟨hroots, hchildren, hshared⟩
    -- A shared node is reached, so it is there.
    have hnode {id : NodeId} (hid : arena.Shared roots id) :
        ∃ node, arena.node? id = some node := by
      obtain ⟨_, _, _, hoccurs, _⟩ := hid
      exact Option.isSome_iff_exists.1 (hclosed id hoccurs.reaches)
    refine ⟨hclosed, ?_, fun hid hnode => (hshared _ _ hid hnode).1, ?_, ?_⟩
    · intro id place node hoccurs hnode
      cases place with
      | root position =>
        exact (Bool.not_eq_true' _).mpr (hroots id (List.mem_of_getElem? hoccurs) node hnode)
      | slot parent slot =>
        obtain ⟨holder, hholder, hchild⟩ := Arena.child?_eq_some.1 hoccurs.2
        rw [Hoist.mayStandIn, hholder]
        exact hchildren parent holder slot id node hoccurs.1 hholder hchild hnode
    · intro id hid
      obtain ⟨node, hnode⟩ := hnode hid
      exact (hshared id node hid hnode).2.1
    · intro id hid
      obtain ⟨node, hnode⟩ := hnode hid
      exact (hshared id node hid hnode).2.2

/-- Hoisting makes one declaration for each shared node. -/
theorem Hoist.Unfolded.encard_shared {names : NameSupply} {hoist : Hoist}
    (h : Hoist.Unfolded arena roots names hoist) :
    {id | arena.Shared roots id}.encard = hoist.promotions.size := by
  have hset : {id | arena.Shared roots id} =
      ((hoist.promotions.toList.map (·.node)).toFinset : Set NodeId) := by
    ext id
    rw [List.coe_toFinset]
    show arena.Shared roots id ↔ id ∈ hoist.promotions.toList.map (·.node)
    simp only [h.shared_iff, List.mem_map, Array.mem_toList_iff]
  rw [hset, Set.encard_coe_eq_coe_finsetCard,
    List.toFinset_card_of_nodup (h.nodup_map _ h.node_inj), List.length_map, Array.length_toList]

/-- A lowering ends. It succeeds if and only if no statement is an entry or a declarator, every
    child is accepted by its parent, and each node that occurs twice is an expression with a hint
    for its name that is no statement. As many nodes are hoisted as occur twice. -/
theorem lower_ok_iff (names : NameSupply) (hclosed : arena.Closed roots) :
    arena.lower roots names ≠ .error .unfinished ∧
    ((∃ lowering, arena.lower roots names = .ok lowering) ↔
      (∀ root ∈ roots, ∀ node, arena.node? root = some node → node.needsContainer = false) ∧
      (∀ parent holder slot child node, arena.Reaches roots parent →
        arena.node? parent = some holder → holder.child? slot = some child →
        arena.node? child = some node → holder.acceptsChild node = true) ∧
      ∀ id node, arena.Shared roots id → arena.node? id = some node →
        node.isExpression = true ∧ id ∉ roots ∧
          ∃ hint, arena.hint id = some hint ∧ hint ≠ "") ∧
    ∀ lowering, arena.lower roots names = .ok lowering →
      {id | arena.Shared roots id}.encard = lowering.hoisted.promotions.size := by
  refine ⟨?_, ?_, fun lowering h => ?_⟩
  · rw [Ne, lower_eq_error_iff]
    exact Hoist.hoist_ne_unfinished arena roots names
  · -- Only hoisting can be refused; the order is always found.
    have hhoist : (∃ hoisted, arena.hoist roots names = .ok hoisted) ↔ arena.Hoistable roots :=
      Hoist.hoist_ok_iff hclosed
    rw [← hoistable_iff hclosed, ← hhoist]
    constructor
    · rintro ⟨lowering, h⟩
      obtain ⟨hoisted, hhoist, _⟩ := bind_eq_ok.1 h
      exact ⟨hoisted, hhoist⟩
    · rintro ⟨hoisted, hhoist⟩
      exact ⟨_, bind_eq_ok.2 ⟨hoisted, hhoist, rfl⟩⟩
  · obtain ⟨hoist, _, hunfolded, _, rfl⟩ := lower_eq_ok hclosed h
    exact hunfolded.encard_shared

/-- A value that holds itself and is part of a statement is lowered, with one declaration. -/
theorem lower_ok_iff_selfReference : ∃ lowering, Hoist.selfReference.lower [⟨4⟩] ∅ = .ok lowering ∧
    {id | Hoist.selfReference.Shared [⟨4⟩] id}.encard = lowering.hoisted.promotions.size := by
  have hok : (Hoist.selfReference.lower [⟨4⟩] ∅).isOk = true := by decide +kernel
  obtain ⟨_, _, hcount⟩ := lower_ok_iff ∅ Hoist.selfReference_closed
  obtain ⟨lowering, hlower⟩ := isOk_iff.1 hok
  exact ⟨lowering, hlower, hcount lowering hlower⟩

end Semblance
