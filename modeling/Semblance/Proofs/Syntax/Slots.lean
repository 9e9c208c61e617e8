import Mathlib.Data.List.Sort
import Semblance.Proofs.Syntax.Skeleton
import Semblance.Syntax.Arena

/-!
# Child slots

The children of a node are listed and read as its operands, and they are replaced by a function that
goes through the kinds of nodes on its own. `Node.Holds` is the table of the slots, with one line for
each, that all of this follows. A slot is a lens into its node: what is put in is what is found there, putting in what
is there already changes nothing, and of two children put in the second one stays. In an arena the
one node around the slot changes, and of this node the one child.

## Key results

- `holds_iff`, `pairwise_children`: the slots in which children are found and the order in which they
  are listed
- `setChild?_eq_some_iff`: a node with a child replaced is known from its skeleton and its children
- `setChild?_eq_self_iff`, `setChild?_setChild?`, `children_setChild?`: the laws of a lens
- `child_slots_lens`: the slots of all nodes, and what becomes of an arena
-/

namespace Semblance

namespace Node

/-- The child slots of each kind of node with the children in them. The bare name of a member, the
    holes of an array and what is left out are no children. -/
inductive Holds : Node → Nat → NodeId → Prop where
  | operand (op : UnaryOp) (operand : NodeId) : Holds (unary op operand) 0 operand
  | left (left right : NodeId) : Holds (or left right) 0 left
  | right (left right : NodeId) : Holds (or left right) 1 right
  | target (target value : NodeId) : Holds (assign target value) 0 target
  | assigned (target value : NodeId) : Holds (assign target value) 1 value
  | callee (callee : NodeId) (args : Array NodeId) : Holds (call callee args) 0 callee
  -- The slots of arguments are counted from the one of the callee.
  | argument (callee : NodeId) {args : Array NodeId} {index : Nat} {child : NodeId}
      (hchild : args[index]? = some child) : Holds (call callee args) (index + 1) child
  | newCallee (callee : NodeId) (args : Array NodeId) : Holds (new callee args) 0 callee
  | newArgument (callee : NodeId) {args : Array NodeId} {index : Nat} {child : NodeId}
      (hchild : args[index]? = some child) : Holds (new callee args) (index + 1) child
  | owner (owner : NodeId) (key : MemberKey) : Holds (member owner key) 0 owner
  | computedKey (owner key : NodeId) : Holds (member owner (.computed key)) 1 key
  | body (params : Array String) (body : NodeId) : Holds (function params body) 0 body
  | objectEntry {entries : Array NodeId} {index : Nat} {child : NodeId}
      (hchild : entries[index]? = some child) : Holds (object entries) index child
  | entryValue (key : EntryKey) (value : NodeId) (kind : EntryKind) :
      Holds (entry key value kind) 0 value
  -- A hole has a number, so that the elements after it keep theirs.
  | element {elements : Array (Option NodeId)} {index : Nat} {child : NodeId}
      (hchild : elements[index]? = some (some child)) : Holds (array elements) index child
  | statement {statements : Array NodeId} {index : Nat} {child : NodeId}
      (hchild : statements[index]? = some child) : Holds (block statements) index child
  | expr (expr : NodeId) : Holds (exprStmt expr) 0 expr
  | returned (value : NodeId) : Holds (ret (some value)) 0 value
  | varDeclarator {declarators : Array NodeId} {index : Nat} {child : NodeId}
      (hchild : declarators[index]? = some child) : Holds (varDecl declarators) index child
  | initializer (name : String) (init : NodeId) : Holds (declarator name (some init)) 0 init

variable {node node' : Node} {slot : Nat} {child : NodeId}

/-! ### Finding children -/

/-- What the table lists is found. -/
theorem Holds.child?_eq (h : node.Holds slot child) : node.child? slot = some child := by
  cases h with
  | owner owner key => cases key <;> rfl
  | _ => simp [child?, operands, *]

/-- What is found is listed in the table. -/
theorem holds_of_child?_eq (h : node.child? slot = some child) : node.Holds slot child := by
  rw [child?, Option.join_eq_some_iff] at h
  fun_cases operands node <;> rcases slot with _ | _ | slot <;>
    simp only [operands, List.getElem?_nil, List.getElem?_cons_zero, List.getElem?_cons_succ,
      List.getElem?_map, Array.getElem?_toList, Option.map_eq_some_iff, Option.some.injEq,
      exists_eq_right, reduceCtorEq] at h
  -- In each slot that is left, the child is known or it is one of a list.
  all_goals first
    | (subst h; constructor)
    | (constructor; exact h)

/-- Children are found in the slots of the table. -/
theorem holds_iff : node.Holds slot child ↔ node.child? slot = some child :=
  ⟨Holds.child?_eq, holds_of_child?_eq⟩

/-- Children are listed in the order of their slots, so no slot is listed twice. -/
theorem pairwise_children (node : Node) :
    node.children.Pairwise fun entry entry' => entry.1 < entry'.1 := by
  have hslots : node.operands.zipIdx.Pairwise fun entry entry' => entry.2 < entry'.2 := by
    rw [← List.pairwise_map (f := Prod.snd) (R := (· < ·)), List.zipIdx_map_snd]
    exact List.pairwise_lt_range'
  refine hslots.filterMap _ fun entry entry' hlt child hchild child' hchild' => ?_
  obtain ⟨_, _, rfl⟩ := Option.map_eq_some_iff.1 hchild
  obtain ⟨_, _, rfl⟩ := Option.map_eq_some_iff.1 hchild'
  exact hlt

example : (array #[some ⟨4⟩, none, some ⟨4⟩]).children = [(0, ⟨4⟩), (2, ⟨4⟩)] := by decide

/-- A listed slot is one of the operands. -/
theorem lt_length_of_mem_children (h : (slot, child) ∈ node.children) :
    slot < node.operands.length := by
  rw [mem_children, child?, Option.join_eq_some_iff] at h
  exact (List.getElem?_eq_some_iff.1 h).1

/-- The listed slots are those in which a child is found. -/
theorem mem_slots : slot ∈ node.children.map (·.1) ↔ (node.child? slot).isSome := by
  simp [Option.isSome_iff_exists, mem_children]

/-! ### Replacing a child -/

/-- A slot that holds a child takes another one. The other slots and what is not a child stay as
    they are. -/
theorem setChild?_eq_some_iff : node.setChild? slot child = some node' ↔
    (node.child? slot).isSome ∧ node'.skeleton = node.skeleton ∧
      ∀ other, node'.child? other = if other = slot then some child else node.child? other := by
  constructor
  · intro h
    refine ⟨?_, skeleton_setChild? h, child?_setChild? h⟩
    rw [← setChild?_isSome node slot child, h, Option.isSome_some]
  · intro ⟨hsome, hskeleton, hchild⟩
    rw [← setChild?_isSome node slot child] at hsome
    obtain ⟨made, hmade⟩ := Option.isSome_iff_exists.1 hsome
    -- Skeleton and children leave no choice.
    rw [hmade, eq_of_child?_eq (hskeleton.trans (skeleton_setChild? hmade).symm)]
    intro other
    rw [hchild, child?_setChild? hmade]

/-- Putting in a slot what it holds changes nothing, and it is the only child for which this is so. -/
theorem setChild?_eq_self_iff :
    node.setChild? slot child = some node ↔ node.child? slot = some child := by
  rw [setChild?_eq_some_iff]
  constructor
  · intro ⟨_, _, hchild⟩
    rw [hchild, if_pos rfl]
  · intro h
    refine ⟨by rw [h, Option.isSome_some], rfl, fun other => ?_⟩
    by_cases hslot : other = slot
    · rw [if_pos hslot, hslot, h]
    · rw [if_neg hslot]

/-- Of two children put in a slot, the second one stays. -/
theorem setChild?_setChild? (node : Node) (slot : Nat) (child child' : NodeId) :
    (node.setChild? slot child).bind (·.setChild? slot child') = node.setChild? slot child' := by
  cases h : node.setChild? slot child with
  | none =>
    have hsome := setChild?_isSome node slot child'
    rw [← setChild?_isSome node slot child, h, Option.isSome_none] at hsome
    rw [Option.bind_none, Option.isNone_iff_eq_none.1 (Option.isSome_eq_false_iff.1 hsome)]
  | some between =>
    obtain ⟨hsome, hskeleton, hchild⟩ := setChild?_eq_some_iff.1 h
    ext made
    simp only [Option.bind_some, setChild?_eq_some_iff, hskeleton, hchild, hsome, if_true,
      Option.isSome_some]
    grind

/-- The list of children changes in one entry. -/
theorem children_setChild? (h : node.setChild? slot child = some node') :
    node'.children =
      node.children.map fun entry => (entry.1, if entry.1 = slot then child else entry.2) := by
  obtain ⟨hsome, _, hchild⟩ := setChild?_eq_some_iff.1 h
  obtain ⟨former, hformer⟩ := Option.isSome_iff_exists.1 hsome
  have hirrefl : Std.Irrefl fun entry entry' : Nat × NodeId => entry.1 < entry'.1 :=
    ⟨fun entry => Nat.lt_irrefl entry.1⟩
  have hasymm : Std.Asymm fun entry entry' : Nat × NodeId => entry.1 < entry'.1 :=
    ⟨fun _ _ => Nat.lt_asymm⟩
  -- Both lists are in the order of the slots, so it is enough that they have the same entries.
  refine node'.pairwise_children.eq_of_mem_iff (List.pairwise_map.2 node.pairwise_children) ?_
  intro (other, found)
  simp only [List.mem_map, Prod.exists, mem_children, hchild, Prod.mk.injEq]
  by_cases hslot : other = slot
  · subst hslot
    simp [hformer]
  · simp [hslot]

end Node

namespace Arena

/-- A child is replaced in one node of the arena, or nothing changes. -/
theorem replaceChild_cases (arena : Arena) (parent : NodeId) (slot : Nat) (child : NodeId) :
    (∃ node node', arena.node? parent = some node ∧ node.setChild? slot child = some node' ∧
      arena.replaceChild parent slot child =
        (true, { arena with nodes := arena.nodes.setIfInBounds parent.index node' })) ∨
    (∀ node, arena.node? parent = some node → node.setChild? slot child = none) ∧
      arena.replaceChild parent slot child = (false, arena) := by
  cases hset : (arena.node? parent).bind (·.setChild? slot child) with
  | none =>
    refine .inr ⟨fun node hnode => ?_, ?_⟩
    · rwa [hnode, Option.bind_some] at hset
    · rw [node?] at hset
      simp only [replaceChild, hset]
  | some node' =>
    obtain ⟨node, hnode, hnode'⟩ := Option.bind_eq_some_iff.1 hset
    refine .inl ⟨node, node', hnode, hnode', ?_⟩
    rw [node?] at hset
    simp only [replaceChild, hset]

/-- **Child slots are lenses.** In every node the slots of the table are those that are listed,
    those in which a child is found, and those in which its own child can be put with no effect.
    They are listed in increasing order, by numbers below that of the operands, and of two children
    put in a slot the second one stays. If a slot of a node of an arena holds a child, then it is
    replaced in the list of the children of this node and nowhere else, and otherwise the whole
    arena stays as it is. -/
theorem child_slots_lens (arena : Arena) (parent child : NodeId) (slot : Nat) :
    (∀ (node : Node) (slot : Nat) (child : NodeId),
      ((slot, child) ∈ node.children ↔ node.Holds slot child) ∧
      ((slot, child) ∈ node.children ↔ node.child? slot = some child) ∧
      ((slot, child) ∈ node.children ↔ node.setChild? slot child = some node) ∧
      ∀ child', (node.setChild? slot child).bind (·.setChild? slot child') =
        node.setChild? slot child') ∧
    (∀ node : Node, (node.children.Pairwise fun entry entry' => entry.1 < entry'.1) ∧
      ∀ entry ∈ node.children, entry.1 < node.operands.length) ∧
    ((∃ node node', arena.node? parent = some node ∧ slot ∈ node.children.map (·.1) ∧
        arena.replaceChild parent slot child =
          (true, { arena with nodes := arena.nodes.setIfInBounds parent.index node' }) ∧
        node'.skeleton = node.skeleton ∧ node'.children =
          node.children.map fun entry => (entry.1, if entry.1 = slot then child else entry.2)) ∨
      (∀ node, arena.node? parent = some node → slot ∉ node.children.map (·.1)) ∧
        arena.replaceChild parent slot child = (false, arena)) := by
  refine ⟨fun node slot child => ⟨?_, Node.mem_children, ?_, node.setChild?_setChild? slot child⟩,
    fun node => ⟨node.pairwise_children, fun _ => Node.lt_length_of_mem_children⟩, ?_⟩
  · rw [Node.mem_children, Node.holds_iff]
  · rw [Node.mem_children, Node.setChild?_eq_self_iff]
  · rcases arena.replaceChild_cases parent slot child with
      ⟨node, node', hnode, hset, hreplace⟩ | ⟨hset, hreplace⟩
    · obtain ⟨hsome, hskeleton, _⟩ := Node.setChild?_eq_some_iff.1 hset
      exact .inl ⟨node, node', hnode, Node.mem_slots.2 hsome, hreplace, hskeleton,
        Node.children_setChild? hset⟩
    · refine .inr ⟨fun node hnode hmem => ?_, hreplace⟩
      have hsome := Node.mem_slots.1 hmem
      rw [← Node.setChild?_isSome node slot child, hset node hnode] at hsome
      cases hsome

end Arena

end Semblance
