import Semblance.Proofs.Hoist.Admission
import Semblance.Proofs.Hoist.Stability
import Semblance.Proofs.Lowering.Forest
import Semblance.Proofs.Schedule.Precedence

/-!
# Lowering a lowered program

A lowered program is a forest, and its nodes stand where they may: those of the graph stand as
before or, if they were hoisted, they are expressions in declarators, and the new references,
declarations and declarators fit in anywhere they are put. So hoisting leaves the program alone, and
without dependencies its statements keep their order.

## Key results

- `ofDeps_free`: without dependencies statements keep their order
- `lower_placed`: the nodes of a lowered program stand where they may
- `lower_idempotent`: lowering a lowered program gives it back
-/

namespace Semblance

/-! ### Schedules without dependencies -/

/-- Without dependencies statements keep their order, and none is broken. -/
theorem Schedule.ofDeps_free {count : Nat} {deps : Array (Array Nat)}
    (hfree : ∀ position target, ¬ Depends deps count position target) :
    (ofDeps count deps).order.toList = List.range count ∧ (ofDeps count deps).broken = #[] := by
  constructor
  · rw [← filter_order (Nat.le_refl count) fun root _ position => hfree position root]
    refine (List.filter_eq_self.2 fun position hmem => ?_).symm
    exact decide_eq_true (List.mem_range.1 ((order_perm deps count).mem_iff.1 hmem))
  · refine Array.eq_empty_iff_forall_not_mem.2 fun ⟨position, target⟩ hmem => ?_
    exact hfree position target (needs_of_broken (Array.mem_toList_iff.2 hmem)).1

/-- Without dependencies, no statement depends on another one. -/
theorem Schedule.not_depends_replicate (length count position target : Nat) :
    ¬ Depends (Array.replicate length #[]) count position target := by
  rintro ⟨_, hmem⟩
  simp only [edges, Array.getElem?_replicate] at hmem
  split at hmem <;> simp_all

/-- In the order of their positions the statements are a program as they stand. -/
theorem Program.ofOrder_range (arena : Arena) (roots : Array NodeId) :
    ofOrder arena roots (List.range roots.size) = ⟨arena, roots.toList⟩ := by
  rw [ofOrder, layout_of_perm (.refl _), filterMap_range]

/-! ### What may stand where -/

/-- Only nodes of kinds that need a container are refused in a slot. -/
theorem Node.acceptsChild_of_not_needsContainer {child : Node} (h : child.needsContainer = false)
    (parent : Node) : parent.acceptsChild child = true := by
  cases child <;> first | rfl | exact nomatch h

/-- Expressions need no container. -/
theorem Node.not_needsContainer_of_isExpression {node : Node} (h : node.isExpression = true) :
    node.needsContainer = false := by
  cases node <;> first | rfl | exact nomatch h

/-- What needs no container may stand in any slot of a node. -/
theorem Hoist.mayStandIn_of_not_needsContainer {arena : Arena} {node holder : Node} {parent : NodeId}
    (hparent : arena.node? parent = some holder) (hnode : node.needsContainer = false) (slot : Nat) :
    mayStandIn arena node (.slot parent slot) = true := by
  rw [mayStandIn, hparent, Option.any_some, Node.acceptsChild_of_not_needsContainer hnode]

variable {arena : Arena} {roots : List NodeId} {names : NameSupply} {lowering : Lowering}

/-- Where a node may stand does not depend on the order of the statements. -/
theorem Arena.Placed.perm (h : arena.Placed roots) {body : List NodeId} (hperm : body.Perm roots) :
    arena.Placed body := by
  intro id place node hoccurs hnode
  cases place with
  | root position =>
    obtain ⟨position', hposition⟩ :=
      List.getElem?_of_mem (hperm.mem_iff.1 (List.mem_of_getElem? hoccurs))
    exact h id (.root position') node hposition hnode
  | slot parent slot =>
    exact h id _ node
      ⟨hoccurs.1.mono fun _ hmem => .root (hperm.mem_iff.1 hmem), hoccurs.2⟩ hnode

/-- All nodes of an unfolded graph stand where they may. -/
theorem Hoist.Unfolded.placed {hoist : Hoist} (h : Hoist.Unfolded arena roots names hoist)
    (hhoistable : arena.Hoistable roots) : hoist.arena.Placed hoist.roots.toList := by
  intro id place node hoccurs hnode
  cases (h.occurs_iff hhoistable.closed).1 hoccurs with
  | kept hformer _ =>
    obtain ⟨_, node', _, hnode', _, hstand⟩ := h.mayStandIn_ok hhoistable hformer
    rwa [Option.some.inj (hnode.symm.trans hnode')]
  | @reference parent _ _ promotion hparent _ _ _ _ hident =>
    obtain rfl := Option.some.inj (hnode.symm.trans hident)
    obtain ⟨holder, hholder⟩ := Option.isSome_iff_exists.1 (hhoistable.closed _ hparent)
    obtain ⟨_, hholder', _⟩ := h.skeleton_eq hholder
    exact mayStandIn_of_not_needsContainer hholder' rfl _
  | decl hdecl => rw [Option.some.inj (hnode.symm.trans hdecl.decl_node)]; rfl
  | declarator hdecl =>
    rw [Option.some.inj (hnode.symm.trans hdecl.declarator_node), mayStandIn, hdecl.decl_node]
    rfl
  | hoisted hdecl =>
    -- A hoisted node is an expression, and it may stand in any slot.
    obtain ⟨former, hformer⟩ :=
      Option.isSome_iff_exists.1 (hhoistable.closed _ (h.node_reached hdecl.mem))
    obtain ⟨node', hnode', hskeleton⟩ := h.skeleton_eq hformer
    obtain rfl := Option.some.inj (hnode.symm.trans hnode')
    refine mayStandIn_of_not_needsContainer hdecl.declarator_node ?_ 0
    refine Node.not_needsContainer_of_isExpression ?_
    rw [Node.isExpression_of_skeleton_eq hskeleton]
    exact hhoistable.expression (h.shared_iff.2 ⟨_, hdecl.mem, rfl⟩) hformer

/-- The nodes of a lowered program stand where they may. -/
theorem lower_placed (hclosed : arena.Closed roots) (h : arena.lower roots names = .ok lowering) :
    lowering.program.arena.Placed lowering.program.body := by
  obtain ⟨hoisted, hhoist, _⟩ := bind_eq_ok.1 h
  have hhoistable := (Hoist.hoist_ok_iff hclosed).1 ⟨hoisted, hhoist⟩
  obtain ⟨hoist, _, hunfolded, _, rfl⟩ := lower_eq_ok hclosed h
  exact (hunfolded.placed hhoistable).perm (program_body_perm hoist.arena hoist.roots hoist.deps)

/-! ### Forests -/

/-- Lowering gives a forest back. -/
theorem lower_of_forest (h : arena.IsForest roots) (hplaced : arena.Placed roots)
    (names : NameSupply) :
    ∃ lowering, arena.lower roots names = .ok lowering ∧ lowering.program = ⟨arena, roots⟩ ∧
      lowering.warnings = [] ∧ lowering.names = names := by
  refine ⟨_, bind_eq_ok.2 ⟨_, Hoist.hoist_forest h hplaced names, rfl⟩, ?_⟩
  obtain ⟨horder, hbroken⟩ := Schedule.ofDeps_free
    (Schedule.not_depends_replicate roots.length roots.toArray.size)
  refine ⟨?_, ?_, rfl⟩
  · rw [Lowering.program, horder, Program.ofOrder_range]
  · rw [Lowering.warnings, Schedule.warnings, hbroken]
    rfl

/-- Lowering a lowered program gives it back, whatever names are in use: its arena, its statements
    in order, and the names are the same, and there are no warnings. The reason is that hoisting
    leaves a forest alone if its nodes stand where they may: nothing is declared, and no statement
    depends on another one. -/
theorem lower_idempotent :
    (∀ (arena : Arena) (roots : List NodeId) (names : NameSupply) (lowering : Lowering),
      arena.Closed roots → arena.lower roots names = .ok lowering → ∀ names' : NameSupply,
        ∃ again, lowering.program.arena.lower lowering.program.body names' = .ok again ∧
          again.program = lowering.program ∧ again.warnings = [] ∧ again.names = names') ∧
    ∀ (arena : Arena) (roots : List NodeId), arena.IsForest roots → arena.Placed roots →
      ∀ names : NameSupply, arena.hoist roots names =
        .ok { arena, roots := roots.toArray, deps := Array.replicate roots.length #[],
              promotions := #[], names } :=
  ⟨fun _ _ _ _ hclosed h names' =>
      lower_of_forest (lower_forest hclosed h) (lower_placed hclosed h) names',
    fun _ _ h hplaced names => Hoist.hoist_forest h hplaced names⟩

/-- The program for the value that holds itself is lowered to itself. -/
theorem lower_idempotent_selfReference :
    ∃ lowering, Hoist.selfReference.lower [⟨4⟩] (NameSupply.empty.reserve "log") = .ok lowering ∧
      lowering.program ≠ ⟨Hoist.selfReference, [⟨4⟩]⟩ ∧
      (∃ again, lowering.program.arena.lower lowering.program.body ∅ = .ok again ∧
        again.program = lowering.program ∧ again.warnings = []) ∧
      ∃ hoisted, lowering.program.arena.hoist lowering.program.body ∅ = .ok hoisted ∧
        hoisted.arena = lowering.program.arena ∧ hoisted.promotions = #[] := by
  have hrun : (Hoist.selfReference.lower [⟨4⟩] (NameSupply.empty.reserve "log")).toOption.any
      (fun lowering => decide (lowering.program ≠ ⟨Hoist.selfReference, [⟨4⟩]⟩)) = true := by
    decide +kernel
  have hclosed := Hoist.selfReference_closed
  obtain ⟨lowering, hlower, hchanged⟩ := exists_of_any hrun
  obtain ⟨again, hagain, hprogram, hwarnings, _⟩ :=
    lower_idempotent.1 _ _ _ lowering hclosed hlower ∅
  exact ⟨lowering, hlower, of_decide_eq_true hchanged, ⟨again, hagain, hprogram, hwarnings⟩, _,
    lower_idempotent.2 _ _ (lower_forest hclosed hlower) (lower_placed hclosed hlower) ∅, rfl, rfl⟩

end Semblance
