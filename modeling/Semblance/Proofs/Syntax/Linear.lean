import Semblance.Proofs.Hoist.Progress

/-!
# Arenas that can be hoisted

While an arena is built, some ids are in the hands of the builder: the statements it emitted, and
nodes that are still to be put below others. An id that the builder holds may be used up once, and
it may be used again and again only if it can be shared, which means that it is an expression with a
hint for its name. `Sound arena used` says that the arena keeps to this: for each node that cannot
be shared, the slots that hold it and the entries of `used` are one at most.

Nodes are never removed and never change their kind. `Grows` is this relation between an arena and a
later one.

## Key results

- `Sound.push`, `Sound.modifyNode`: a node takes its children out of what the builder holds
- `two_le_uses`: a shared node is used twice
- `Sound.reaches_parent`: what cannot be shared has one parent
- `Sound.hoistable`: a sound arena can be hoisted
-/

namespace Semblance

namespace Node

/-- Nodes that may stand in the same places. -/
structure SameKind (node node' : Node) : Prop where
  isExpression : node'.isExpression = node.isExpression
  needsContainer : node'.needsContainer = node.needsContainer
  accepted : ∀ parent : Node, parent.acceptsChild node' = parent.acceptsChild node

theorem SameKind.rfl {node : Node} : node.SameKind node :=
  ⟨Eq.refl _, Eq.refl _, fun _ => Eq.refl _⟩

theorem SameKind.trans {node node' node'' : Node} (h : node.SameKind node')
    (h' : node'.SameKind node'') : node.SameKind node'' :=
  ⟨h'.isExpression.trans h.isExpression, h'.needsContainer.trans h.needsContainer,
    fun parent => (h'.accepted parent).trans (h.accepted parent)⟩

/-- Expressions need no container. -/
theorem needsContainer_of_isExpression {node : Node} (h : node.isExpression = true) :
    node.needsContainer = false := by
  cases node with
  | entry | declarator => exact nomatch h
  | _ => rfl

/-- Only nodes of kinds that need a container are refused in a slot. -/
theorem acceptsChild_of_needsContainer {child : Node} (h : child.needsContainer = false)
    (parent : Node) : parent.acceptsChild child = true := by
  cases child with
  | entry | declarator => exact nomatch h
  | _ => rfl

/-- A child is an operand that is there. -/
theorem child?_eq_some {node : Node} {slot : Nat} {child : NodeId} :
    node.child? slot = some child ↔ node.operands[slot]? = some (some child) := by
  rw [child?_eq, Option.join_eq_some_iff]

/-- The children of a node in order. -/
def childIds (node : Node) : List NodeId :=
  node.operands.filterMap id

/-- The children are the operands that are there. -/
theorem mem_childIds {node : Node} {child : NodeId} :
    child ∈ node.childIds ↔ some child ∈ node.operands := by
  simp [childIds]

/-- A child is counted as often as it is an operand. -/
theorem count_childIds (node : Node) (child : NodeId) :
    node.childIds.count child = node.operands.count (some child) := by
  rw [childIds, List.count_filterMap]
  rfl

/-- What is in a slot is a child. -/
theorem mem_childIds_of_child? {node : Node} {slot : Nat} {child : NodeId}
    (h : node.child? slot = some child) : child ∈ node.childIds :=
  mem_childIds.2 (List.mem_of_getElem? (child?_eq_some.1 h))

end Node

namespace Arena

/-- The number of slots that hold a node. -/
def uses (arena : Arena) (id : NodeId) : Nat :=
  (arena.nodes.toList.flatMap Node.childIds).count id

/-- The id of an expression. -/
def IsExpression (arena : Arena) (id : NodeId) : Prop :=
  ∃ node, arena.node? id = some node ∧ node.isExpression = true

/-- The id of a node that needs no container. -/
def Standalone (arena : Arena) (id : NodeId) : Prop :=
  ∃ node, arena.node? id = some node ∧ node.needsContainer = false

/-- The id of a statement. -/
def IsStatement (arena : Arena) (id : NodeId) : Prop :=
  ∃ node, arena.node? id = some node ∧ node.isExpression = false ∧ node.needsContainer = false

/-- The id of a node that has a hint for its name. -/
def HasHint (arena : Arena) (id : NodeId) : Prop :=
  ∃ hint, arena.hint id = some hint ∧ hint ≠ ""

/-- The id of a node that may be used any number of times. -/
def Shareable (arena : Arena) (id : NodeId) : Prop :=
  arena.IsExpression id ∧ arena.HasHint id

/-- An arena has all nodes of another, each of the same kind and with a hint if it had one. -/
structure Grows (arena arena' : Arena) : Prop where
  node : ∀ {id node}, arena.node? id = some node →
    ∃ node', arena'.node? id = some node' ∧ node.SameKind node'
  named : ∀ {id}, arena.HasHint id → arena'.HasHint id

/-- Every child stands where it may, and what cannot be shared is used once at most. -/
structure Sound (arena : Arena) (used : List NodeId) : Prop where
  hints_size : arena.hints.size = arena.nodes.size
  accepts : ∀ {parent node child}, arena.node? parent = some node → child ∈ node.childIds →
    ∃ node', arena.node? child = some node' ∧ node.acceptsChild node' = true
  allocated : ∀ id ∈ used, (arena.node? id).isSome
  linear : ∀ id, ¬ arena.Shareable id → arena.uses id + used.count id ≤ 1

variable {arena arena' arena'' : Arena} {used used' roots : List NodeId} {id : NodeId}

/-! ### Growing arenas -/

/-- An expression may stand anywhere. -/
theorem IsExpression.standalone (h : arena.IsExpression id) : arena.Standalone id := by
  obtain ⟨node, hnode, hexpression⟩ := h
  exact ⟨node, hnode, Node.needsContainer_of_isExpression hexpression⟩

/-- A statement may stand anywhere. -/
theorem IsStatement.standalone (h : arena.IsStatement id) : arena.Standalone id := by
  obtain ⟨node, hnode, _, hcontainer⟩ := h
  exact ⟨node, hnode, hcontainer⟩

namespace Grows

theorem rfl : arena.Grows arena :=
  ⟨fun hnode => ⟨_, hnode, .rfl⟩, id⟩

theorem trans (h : arena.Grows arena') (h' : arena'.Grows arena'') : arena.Grows arena'' where
  node hnode := by
    obtain ⟨node', hnode', hkind⟩ := h.node hnode
    obtain ⟨node'', hnode'', hkind'⟩ := h'.node hnode'
    exact ⟨node'', hnode'', hkind.trans hkind'⟩
  named hid := h'.named (h.named hid)

/-- An expression stays one. -/
theorem isExpression (h : arena.Grows arena') (hid : arena.IsExpression id) :
    arena'.IsExpression id := by
  obtain ⟨node, hnode, hexpression⟩ := hid
  obtain ⟨node', hnode', hkind⟩ := h.node hnode
  exact ⟨node', hnode', hkind.isExpression.trans hexpression⟩

/-- A statement stays one. -/
theorem isStatement (h : arena.Grows arena') (hid : arena.IsStatement id) :
    arena'.IsStatement id := by
  obtain ⟨node, hnode, hexpression, hcontainer⟩ := hid
  obtain ⟨node', hnode', hkind⟩ := h.node hnode
  exact ⟨node', hnode', hkind.isExpression.trans hexpression,
    hkind.needsContainer.trans hcontainer⟩

/-- What may be used any number of times may be so ever after. -/
theorem shareable (h : arena.Grows arena') (hid : arena.Shareable id) : arena'.Shareable id :=
  ⟨h.isExpression hid.1, h.named hid.2⟩

end Grows

/-! ### What the builder holds -/

namespace Sound

/-- What the builder holds may be dropped and put in another order. -/
theorem mono (h : arena.Sound used) (hused : ∀ id, used'.count id ≤ used.count id) :
    arena.Sound used' where
  hints_size := h.hints_size
  accepts := h.accepts
  allocated id hmem :=
    h.allocated id (List.count_pos_iff.1 (Nat.le_trans (List.count_pos_iff.2 hmem) (hused id)))
  linear id hid := Nat.le_trans (Nat.add_le_add_left (hused id) _) (h.linear id hid)

/-- The order in which nodes are held makes no difference. -/
theorem perm (h : arena.Sound used) (hused : used.Perm used') : arena.Sound used' :=
  h.mono fun id => Nat.le_of_eq (hused.count id).symm

/-- A node that can be shared may be held once more. -/
theorem share (h : arena.Sound used) (hid : arena.Shareable id) : arena.Sound (id :: used) where
  hints_size := h.hints_size
  accepts := h.accepts
  allocated other hmem := by
    rcases List.mem_cons.1 hmem with rfl | hmem
    · obtain ⟨node, hnode, _⟩ := hid.1
      rw [hnode, Option.isSome_some]
    · exact h.allocated other hmem
  linear other hother := by
    have hne : id ≠ other := fun heq => hother (heq ▸ hid)
    rw [List.count_cons_of_ne hne]
    exact h.linear other hother

end Sound

/-! ### Allocation -/

/-- A new node uses its children. -/
theorem uses_push (node : Node) (arena : Arena) (id : NodeId) :
    (push node arena).2.uses id = arena.uses id + node.childIds.count id := by
  simp [push, uses]

/-- A new node is there. -/
theorem node?_push_self (node : Node) (arena : Arena) :
    (push node arena).2.node? (push node arena).1 = some node := by
  rw [node?_push, if_pos (Eq.refl _)]

/-- A new node leaves the other ones as they are. -/
theorem node?_push_of_node? {node : Node} (hnode : arena.node? id = some node) (new : Node) :
    (push new arena).2.node? id = some node := by
  have hlt := lt_size_of_node? hnode
  rw [node?_push, if_neg, hnode]
  rintro rfl
  exact Nat.lt_irrefl _ hlt

/-- A node is an older one or the new one. -/
theorem node?_push_cases {node new : Node} (hnode : (push new arena).2.node? id = some node) :
    arena.node? id = some node ∨ id = (push new arena).1 ∧ node = new := by
  rw [node?_push] at hnode
  split at hnode
  · next heq => exact .inr ⟨heq, (Option.some.inj hnode).symm⟩
  · exact .inl hnode

/-- A new node leaves the others as they are. -/
theorem grows_push (node : Node) (arena : Arena) : arena.Grows (push node arena).2 where
  node {_ former} hformer := ⟨former, node?_push_of_node? hformer node, .rfl⟩
  named {id} hid := by rwa [HasHint, hint_push]

/-- A node that is not allocated is not used. -/
theorem Sound.uses_eq_zero (h : arena.Sound used) (hid : arena.node? id = none) :
    arena.uses id = 0 := by
  refine List.count_eq_zero.2 fun hmem => ?_
  obtain ⟨node, hnode, hchild⟩ := List.mem_flatMap.1 hmem
  obtain ⟨parent, hparent⟩ := List.getElem?_of_mem hnode
  have hnode : arena.node? ⟨parent⟩ = some node := by rwa [node?, ← Array.getElem?_toList]
  obtain ⟨node', hnode', _⟩ := h.accepts hnode hchild
  rw [hid] at hnode'
  cases hnode'

/-- A new node takes its children out of what the builder holds, and is held itself. -/
theorem Sound.push {node : Node} (h : arena.Sound (node.childIds ++ used))
    (hchildren : ∀ child ∈ node.childIds,
      ∃ node', arena.node? child = some node' ∧ node.acceptsChild node' = true) :
    (push node arena).2.Sound ((push node arena).1 :: used) where
  hints_size := by simp [Arena.push, h.hints_size]
  accepts {parent holder child} hparent hchild := by
    have hold : ∃ node', arena.node? child = some node' ∧ holder.acceptsChild node' = true := by
      rw [node?_push] at hparent
      split at hparent
      · obtain rfl := Option.some.inj hparent
        exact hchildren child hchild
      · exact h.accepts hparent hchild
    obtain ⟨node', hnode', haccepts⟩ := hold
    refine ⟨node', ?_, haccepts⟩
    have hlt := lt_size_of_node? hnode'
    rw [node?_push, if_neg, hnode']
    rintro rfl
    exact Nat.lt_irrefl _ hlt
  allocated id hmem := by
    rcases List.mem_cons.1 hmem with rfl | hmem
    · rw [node?_push_self, Option.isSome_some]
    · have hformer := h.allocated id (List.mem_append_right _ hmem)
      obtain ⟨former, hformer⟩ := Option.isSome_iff_exists.1 hformer
      obtain ⟨node', hnode', _⟩ := (grows_push node arena).node hformer
      rw [hnode', Option.isSome_some]
  linear id hid := by
    -- What cannot be shared now could not be shared before.
    have hlinear := h.linear id fun hformer => hid ((grows_push node arena).shareable hformer)
    rw [List.count_append] at hlinear
    rw [uses_push, List.count_cons]
    by_cases hnew : (Arena.push node arena).1 = id
    · -- Nothing refers to a node that is new.
      have hnone : arena.node? id = none := by
        rw [← hnew]
        exact Array.getElem?_eq_none (Nat.le_refl _)
      have hunused : (node.childIds ++ used).count id = 0 := by
        refine List.count_eq_zero.2 fun hmem => ?_
        have hsome := h.allocated id hmem
        rw [hnone] at hsome
        cases hsome
      have huses := h.uses_eq_zero hnone
      rw [List.count_append] at hunused
      simp [hnew]
      omega
    · simp [hnew]
      omega

/-! ### Change -/

/-- A change of a node leaves the other nodes as they are. -/
theorem node?_modifyNode (arena : Arena) (id other : NodeId) (change : Node → Node) :
    (arena.modifyNode id change).node? other =
      if id = other then (arena.node? other).map change else arena.node? other := by
  obtain ⟨index⟩ := id
  obtain ⟨index'⟩ := other
  simp [modifyNode, node?, Array.getElem?_modify]

/-- A change of one node adds at most as many uses as it adds to any node. -/
theorem uses_modifyNode_le {change : Node → Node} {other : NodeId} {count : Nat}
    (hcount : ∀ node, arena.node? id = some node →
      (change node).childIds.count other ≤ node.childIds.count other + count) :
    (arena.modifyNode id change).uses other ≤ arena.uses other + count := by
  have hmodify (nodes : List Node) (index : Nat)
      (hcount : ∀ node, nodes[index]? = some node →
        (change node).childIds.count other ≤ node.childIds.count other + count) :
      ((nodes.modify index change).flatMap Node.childIds).count other ≤
        (nodes.flatMap Node.childIds).count other + count := by
    induction nodes generalizing index with
    | nil => simp
    | cons node nodes ih =>
      cases index with
      | zero =>
        -- The first node changes, and no other does.
        have hnode := hcount node rfl
        simp only [List.modify_zero_cons, List.flatMap_cons, List.count_append]
        omega
      | succ index =>
        have hnodes := ih index hcount
        simp only [List.modify_succ_cons, List.flatMap_cons, List.count_append]
        omega
  unfold uses modifyNode
  rw [Array.toList_modify]
  exact hmodify arena.nodes.toList id.index fun node hnode => hcount node (by
    rwa [node?, ← Array.getElem?_toList])

/-- A node may change to one that may stand in the same places. -/
theorem grows_modifyNode {change : Node → Node}
    (hkind : ∀ node, arena.node? id = some node → node.SameKind (change node)) :
    arena.Grows (arena.modifyNode id change) where
  node {other node} hnode := by
    rw [node?_modifyNode]
    split
    · next heq =>
      subst heq
      exact ⟨change node, by rw [hnode, Option.map_some], hkind node hnode⟩
    · exact ⟨node, hnode, .rfl⟩
  named hid := hid

/-- A changed node takes its new children out of what the builder holds. -/
theorem Sound.modifyNode (h : arena.Sound used) {change : Node → Node}
    (hkind : ∀ node, arena.node? id = some node → node.SameKind (change node))
    (hchildren : ∀ node, arena.node? id = some node → ∀ child, child ∈ (change node).childIds →
      ∃ node', arena.node? child = some node' ∧ (change node).acceptsChild node' = true)
    (hused : ∀ node other, (change node).childIds.count other + used'.count other ≤
      node.childIds.count other + used.count other) :
    (arena.modifyNode id change).Sound used' where
  hints_size := by simp [Arena.modifyNode, h.hints_size]
  accepts {parent holder child} hparent hchild := by
    have hformer : ∃ node', arena.node? child = some node' ∧ holder.acceptsChild node' = true := by
      rw [node?_modifyNode] at hparent
      split at hparent
      · next heq =>
        -- The changed node accepts its children by assumption.
        obtain ⟨former, hformer, rfl⟩ := Option.map_eq_some_iff.1 hparent
        exact hchildren former (heq ▸ hformer) child hchild
      · exact h.accepts hparent hchild
    obtain ⟨node', hnode', haccepts⟩ := hformer
    obtain ⟨node'', hnode'', hkind'⟩ := (grows_modifyNode hkind).node hnode'
    exact ⟨node'', hnode'', (hkind'.accepted holder).trans haccepts⟩
  allocated other hmem := by
    -- A leaf has no children to use, so what is held after the change was held before.
    have hcount := hused .this other
    have hpos := List.count_pos_iff.2 hmem
    have hformer := h.allocated other (List.count_pos_iff.1 (by
      rw [show Node.this.childIds = [] from rfl, List.count_nil] at hcount
      omega))
    obtain ⟨former, hformer⟩ := Option.isSome_iff_exists.1 hformer
    obtain ⟨node', hnode', _⟩ := (grows_modifyNode hkind).node hformer
    rw [hnode', Option.isSome_some]
  linear other hother := by
    have hlinear := h.linear other fun hformer =>
      hother ((grows_modifyNode hkind).shareable hformer)
    -- A leaf shows that nothing is held more often than before.
    have hleaf := hused .this other
    rw [show Node.this.childIds = [] from rfl, List.count_nil] at hleaf
    have huses : (arena.modifyNode id change).uses other ≤
        arena.uses other + (used.count other - used'.count other) :=
      uses_modifyNode_le fun node _ => by
        have hnode := hused node other
        omega
    omega

/-! ### Hints -/

/-- A hint is set for one node. -/
theorem hint_setHint (h : arena.hints.size = arena.nodes.size) (hid : (arena.node? id).isSome)
    (hint : String) (other : NodeId) :
    (arena.setHint id hint).hint other = if id = other then some hint else arena.hint other := by
  obtain ⟨node, hnode⟩ := Option.isSome_iff_exists.1 hid
  have hlt := lt_size_of_node? hnode
  obtain ⟨index⟩ := id
  obtain ⟨index'⟩ := other
  simp only [setHint, Arena.hint, Array.getElem?_setIfInBounds, NodeId.mk.injEq]
  split
  · rw [if_pos (by rw [h]; exact hlt), Option.join_some]
  · rfl

/-- A node with a hint may be used any number of times, so a hint takes nothing from an arena. -/
theorem Sound.setHint (h : arena.Sound used) (hid : (arena.node? id).isSome) {hint : String}
    (hhint : hint ≠ "") :
    (arena.setHint id hint).Sound used ∧ arena.Grows (arena.setHint id hint) ∧
      (arena.setHint id hint).HasHint id := by
  have hhints := hint_setHint h.hints_size hid hint
  have hnamed : (arena.setHint id hint).HasHint id :=
    ⟨hint, by rw [hhints, if_pos rfl], hhint⟩
  have hgrows : arena.Grows (arena.setHint id hint) := by
    refine ⟨fun hnode => ⟨_, hnode, .rfl⟩, fun {other} hother => ?_⟩
    by_cases heq : id = other
    · exact heq ▸ hnamed
    · rwa [HasHint, hhints, if_neg heq]
  refine ⟨⟨?_, h.accepts, h.allocated, fun other hother => ?_⟩, hgrows, hnamed⟩
  · rw [Arena.setHint, Array.size_setIfInBounds, h.hints_size]
  · exact h.linear other fun hformer => hother (hgrows.shareable hformer)

/-! ### From sound arenas to arenas that can be hoisted -/

private theorem two_le_count [BEq α] [LawfulBEq α] {entries : List α} {entry : α} {i j : Nat}
    (hi : entries[i]? = some entry) (hj : entries[j]? = some entry) (hne : i ≠ j) :
    2 ≤ entries.count entry := by
  -- On the list, with both positions free: at each element neither, one or both of them are at the
  -- head.
  induction entries generalizing i j with
  | nil => simp at hi
  | cons head entries ih =>
    have hone {k : Nat} (hk : entries[k]? = some entry) : 1 ≤ entries.count entry :=
      List.count_pos_iff.2 (List.mem_of_getElem? hk)
    cases i with
    | zero =>
      cases j with
      | zero => exact absurd rfl hne
      | succ j =>
        rw [Option.some.inj hi, List.count_cons_self]
        exact Nat.succ_le_succ (hone hj)
    | succ i =>
      cases j with
      | zero =>
        rw [Option.some.inj hj, List.count_cons_self]
        exact Nat.succ_le_succ (hone hi)
      | succ j =>
        rw [List.count_cons]
        -- Both lie in the tail, and the head can only add to the count.
        exact Nat.le_add_right_of_le (ih hi hj (by omega))

/-- What one node uses is used. -/
private theorem count_childIds_le {nodes : List Node} {node : Node} {i : Nat}
    (hi : nodes[i]? = some node) :
    node.childIds.count id ≤ (nodes.flatMap Node.childIds).count id := by
  induction nodes generalizing i with
  | nil => simp at hi
  | cons head nodes ih =>
    rw [List.flatMap_cons, List.count_append]
    cases i with
    | zero =>
      rw [Option.some.inj hi]
      omega
    | succ i =>
      have hrest := ih hi
      omega

/-- What two nodes use is used. -/
private theorem count_childIds_add_le {nodes : List Node} {node node' : Node} {i j : Nat}
    (hi : nodes[i]? = some node) (hj : nodes[j]? = some node') (hne : i ≠ j) :
    node.childIds.count id + node'.childIds.count id ≤
      (nodes.flatMap Node.childIds).count id := by
  induction nodes generalizing i j with
  | nil => simp at hi
  | cons head nodes ih =>
    -- The head node pays for one of the two positions if it is at the head, else both are paid by
    -- the tail.
    rw [List.flatMap_cons, List.count_append]
    cases i with
    | zero =>
      cases j with
      | zero => exact absurd rfl hne
      | succ j =>
        have hrest : node'.childIds.count id ≤ (nodes.flatMap Node.childIds).count id :=
          count_childIds_le (i := j) hj
        rw [Option.some.inj hi]
        omega
    | succ i =>
      cases j with
      | zero =>
        have hrest : node.childIds.count id ≤ (nodes.flatMap Node.childIds).count id :=
          count_childIds_le (i := i) hi
        rw [Option.some.inj hj]
        omega
      | succ j =>
        have hrest := ih hi hj (by omega)
        omega

private theorem getElem?_nodes {parent : NodeId} {node : Node} (h : arena.node? parent = some node) :
    arena.nodes.toList[parent.index]? = some node := by
  rwa [Array.getElem?_toList]

private theorem one_le_count {node : Node} {slot : Nat} (h : node.child? slot = some id) :
    1 ≤ node.childIds.count id :=
  List.count_pos_iff.2 (Node.mem_childIds_of_child? h)

/-- What stands in a slot is used. -/
theorem one_le_uses {parent : NodeId} {slot : Nat} (h : arena.child? parent slot = some id) :
    1 ≤ arena.uses id := by
  obtain ⟨node, hnode, hchild⟩ := child?_eq_some.1 h
  exact Nat.le_trans (one_le_count hchild) (count_childIds_le (getElem?_nodes hnode))

/-- What stands in two slots is used twice. -/
theorem two_le_uses_of_slots {parent parent' : NodeId} {slot slot' : Nat}
    (hne : ¬ (parent = parent' ∧ slot = slot')) (h : arena.child? parent slot = some id)
    (h' : arena.child? parent' slot' = some id) : 2 ≤ arena.uses id := by
  obtain ⟨node, hnode, hchild⟩ := child?_eq_some.1 h
  obtain ⟨node', hnode', hchild'⟩ := child?_eq_some.1 h'
  by_cases hparent : parent.index = parent'.index
  · -- Two slots of one node.
    obtain rfl : parent = parent' := congrArg NodeId.mk hparent
    obtain rfl := Option.some.inj (hnode.symm.trans hnode')
    have hslots : slot ≠ slot' := fun heq => hne ⟨rfl, heq⟩
    have htwo := two_le_count (Node.child?_eq_some.1 hchild) (Node.child?_eq_some.1 hchild') hslots
    rw [← Node.count_childIds] at htwo
    exact Nat.le_trans htwo (count_childIds_le (getElem?_nodes hnode))
  · -- Slots of two nodes.
    exact Nat.le_trans (Nat.add_le_add (one_le_count hchild) (one_le_count hchild'))
      (count_childIds_add_le (getElem?_nodes hnode) (getElem?_nodes hnode') hparent)

/-- A node that occurs in two places is used twice. -/
theorem two_le_uses (hshared : arena.Shared roots id) : 2 ≤ arena.uses id + roots.count id := by
  have hroot {position : Nat} (h : roots[position]? = some id) : 1 ≤ roots.count id :=
    List.count_pos_iff.2 (List.mem_of_getElem? h)
  obtain ⟨place, place', hne, hoccurs, hoccurs'⟩ := hshared
  -- A place is an entry of `roots` or a slot, and each counts once.
  cases place with
  | root position =>
    cases place' with
    | root position' =>
      have htwo := two_le_count hoccurs hoccurs' (fun heq => hne (by rw [heq]))
      omega
    | slot parent slot =>
      have hfirst := hroot hoccurs
      have hsecond := one_le_uses hoccurs'.2
      omega
  | slot parent slot =>
    cases place' with
    | root position =>
      have hfirst := one_le_uses hoccurs.2
      have hsecond := hroot hoccurs'
      omega
    | slot parent' slot' =>
      have htwo : 2 ≤ arena.uses id := by
        refine two_le_uses_of_slots ?_ hoccurs.2 hoccurs'.2
        rintro ⟨rfl, rfl⟩
        exact hne rfl
      omega

/-- What cannot be shared is reached through the only node that holds it. -/
theorem Sound.reaches_parent (h : arena.Sound roots) (hid : ¬ arena.Shareable id)
    (hreached : arena.Reaches roots id) {parent : NodeId} {slot : Nat}
    (hchild : arena.child? parent slot = some id) : arena.Reaches roots parent := by
  have hlinear := h.linear id hid
  have hone := one_le_uses hchild
  cases hreached with
  | root hmem =>
    have hroot := List.count_pos_iff.2 hmem
    omega
  | @child parent' _ slot' hparent hchild' =>
    by_cases heq : parent' = parent ∧ slot' = slot
    · exact heq.1 ▸ hparent
    · have htwo := two_le_uses_of_slots heq hchild' hchild
      omega

/-- A sound arena can be hoisted. -/
theorem Sound.hoistable (h : arena.Sound roots)
    (hroots : ∀ id ∈ roots, arena.IsStatement id) :
    arena.Hoistable roots := by
  -- A node in two places is used twice, which only those are that can be shared.
  have hshareable {id : NodeId} (hshared : arena.Shared roots id) : arena.Shareable id := by
    refine Classical.byContradiction fun hnot => ?_
    have htwo := two_le_uses hshared
    have hone := h.linear id hnot
    omega
  refine ⟨fun id hid => ?_, fun {id place node} hoccurs hnode => ?_,
    fun {id node} hshared hnode => ?_, fun {id} hshared hmem => ?_, fun hshared => ?_⟩
  · -- All that is reached is allocated.
    cases hid with
    | root hmem => exact h.allocated id hmem
    | child _ hchild =>
      obtain ⟨node, hnode, hchild⟩ := child?_eq_some.1 hchild
      obtain ⟨node', hnode', _⟩ := h.accepts hnode (Node.mem_childIds_of_child? hchild)
      rw [hnode', Option.isSome_some]
  · -- Every node stands where it may.
    cases place with
    | root position =>
      obtain ⟨node', hnode', _, hstandalone⟩ := hroots id (List.mem_of_getElem? hoccurs)
      rw [hnode] at hnode'
      simp only [Hoist.mayStandIn, Option.some.inj hnode', hstandalone, Bool.not_false]
    | slot parent slot =>
      obtain ⟨holder, hholder, hchild⟩ := child?_eq_some.1 hoccurs.2
      obtain ⟨node', hnode', haccepts⟩ := h.accepts hholder (Node.mem_childIds_of_child? hchild)
      rw [hnode] at hnode'
      simp only [Hoist.mayStandIn, hholder, Option.any_some, Option.some.inj hnode', haccepts]
  · obtain ⟨node', hnode', hexpression⟩ := (hshareable hshared).1
    rw [hnode] at hnode'
    rw [Option.some.inj hnode', hexpression]
  · -- A statement is no expression, so it is not shared.
    obtain ⟨node, hnode, hstatement, _⟩ := hroots id hmem
    obtain ⟨node', hnode', hexpression⟩ := (hshareable hshared).1
    rw [hnode] at hnode'
    rw [← Option.some.inj hnode', hstatement] at hexpression
    cases hexpression
  · exact (hshareable hshared).2

end Arena

end Semblance
