import Semblance.Generate.Basic
import Semblance.Proofs.Syntax.Linear

/-!
# Changes of an arena during a generation

A generation allocates nodes and fills containers. A change of an arena is quiet if it does no more
than that and declares nothing: nodes stay what they are, and what is in a block stays there.

## Key results

- `Allocates.quiet`, `quiet_appendStmt`, `quiet_setHint`: quiet changes
- `Quiet.node`: what becomes of a node
-/

namespace Semblance

/-- Whether a node belongs to a declaration of names. -/
def Node.isBinding : Node → Bool
  | .varDecl _ | .declarator _ _ => true
  | _ => false

/-- Whether a node says nothing of what it was made for. -/
def Node.isPlain : Node → Bool
  | .literal _ | .unary _ _ | .or _ _ | .assign _ _ | .member _ _ | .block _ | .exprStmt _ |
    .ret _ => true
  | _ => false

/-- Whether a node may have a hint, and so a declaration of its own. -/
def Node.takesHint : Node → Bool
  | .unary _ _ | .or _ _ | .call _ _ | .new _ _ | .function _ _ | .object _ | .array _ => true
  | _ => false

/-- A plain node is no binding. -/
theorem Node.isBinding_of_isPlain {node : Node} (h : node.isPlain = true) :
    node.isBinding = false := by
  cases node <;> first | rfl | exact nomatch h

/-- A node that takes a hint is no binding. -/
theorem Node.isBinding_of_takesHint {node : Node} (h : node.takesHint = true) :
    node.isBinding = false := by
  cases node <;> first | rfl | exact nomatch h

/-- A node that takes a hint is no leaf. -/
theorem Node.isLeaf_of_takesHint {node : Node} (h : node.takesHint = true) :
    node.isLeaf = false := by
  cases node <;> first | rfl | exact nomatch h

/-- Allocation of plain nodes without hints. -/
inductive Arena.Allocates (arena : Arena) : Arena → Prop
  | none : Allocates arena arena
  | push {arena' : Arena} {node : Node} : Allocates arena arena' → node.isPlain = true →
      Allocates arena (Arena.push node arena').2

/-! ### Allocations -/

namespace Arena

variable {arena arena' arena'' : Arena}

/-- Whatever arena a construction starts from, it allocates nodes only. -/
def AllocatesOnly (build : StateM Arena α) : Prop :=
  ∀ arena, Allocates arena (build arena).2

/-- Allocations may be made one after the other. -/
theorem Allocates.trans (h : arena.Allocates arena') (h' : arena'.Allocates arena'') :
    arena.Allocates arena'' := by
  induction h' with
  | none => exact h
  | push _ hnode ih => exact .push ih hnode

/-- If two parts only allocate, then so does the whole. -/
theorem AllocatesOnly.bind {build : StateM Arena α} {next : α → StateM Arena β}
    (h : AllocatesOnly build) (hnext : ∀ result, AllocatesOnly (next result)) :
    AllocatesOnly (build >>= next) :=
  fun arena => (h arena).trans (hnext _ _)

/-- A plain node is allocated by itself. -/
theorem allocates_push {node : Node} (hnode : node.isPlain = true) :
    AllocatesOnly (push node) :=
  fun _ => .push .none hnode

/-- The undefined value takes two plain nodes. -/
theorem allocates_undefined : AllocatesOnly undefined :=
  .bind (allocates_push rfl) fun _ => allocates_push rfl

/-- A member access takes a plain node, and one more for a key that is no identifier. -/
theorem allocates_member (owner : NodeId) (name : String) : AllocatesOnly (member owner name) := by
  unfold member
  split
  · exact allocates_push rfl
  · exact .bind (allocates_push rfl) fun _ => allocates_push rfl

/-- A chain of allocations only allocates. -/
theorem allocates_foldlM {step : NodeId → α → StateM Arena NodeId}
    (hstep : ∀ node item, AllocatesOnly (step node item)) (items : List α) (node : NodeId) :
    AllocatesOnly (items.foldlM step node) := by
  induction items generalizing node with
  | nil => exact fun _ => .none
  | cons item items ih =>
    rw [List.foldlM_cons]
    exact .bind (hstep node item) ih

/-- An assignment takes two plain nodes. -/
theorem allocates_assignStmt (target value : NodeId) : AllocatesOnly (assignStmt target value) :=
  .bind (allocates_push rfl) fun _ => allocates_push rfl

end Arena

/-! ### Quiet changes of an arena -/

/-- A container is filled, blocks at their end; nothing else of a node changes. -/
inductive Node.Fills : Node → Node → Prop
  | same {node : Node} : Fills node node
  | object {entries entries' : Array NodeId} : Fills (.object entries) (.object entries')
  | array {elements elements' : Array (Option NodeId)} : Fills (.array elements) (.array elements')
  | block {statements statements' : Array NodeId} : statements.toList <+: statements'.toList →
      Fills (.block statements) (.block statements')

/-- A node may be filled in two steps. -/
theorem Node.Fills.trans {node node' node'' : Node} (h : node.Fills node')
    (h' : node'.Fills node'') : node.Fills node'' := by
  cases h with
  | same => exact h'
  | object => cases h' <;> exact .object
  | array => cases h' <;> exact .array
  | block hmore =>
    cases h' with
    | same => exact .block hmore
    | block hmore' => exact .block (hmore.trans hmore')

/-- Whether a node may be filled after it was allocated. -/
def Node.isContainer : Node → Bool
  | .object _ | .array _ | .block _ => true
  | _ => false

/-- A binding is not filled later. -/
theorem Node.isContainer_of_isBinding {node : Node} (h : node.isBinding = true) :
    node.isContainer = false := by
  cases node with
  | varDecl | declarator => rfl
  | _ => exact nomatch h

/-- A leaf is not filled later. -/
theorem Node.isContainer_of_isLeaf {node : Node} (h : node.isLeaf = true) :
    node.isContainer = false := by
  cases node with
  | ident | literal | this => rfl
  | _ => exact nomatch h

/-- A node that is filled stays one that can be filled. -/
theorem Node.Fills.isContainer_eq {node node' : Node} (h : node.Fills node') :
    node'.isContainer = node.isContainer := by
  cases h <;> rfl

/-- A node that is no container stays the same. -/
theorem Node.Fills.eq_of_not_isContainer {node node' : Node} (h : node.Fills node')
    (hkind : node.isContainer = false) : node' = node := by
  cases h with
  | same => rfl
  | object | array | block => exact nomatch hkind

namespace Arena

/-- Leaves have no hints, and every node has a place for one. -/
structure LeavesUnhinted (arena : Arena) : Prop where
  hints_size : arena.hints.size = arena.nodes.size
  hint_eq : ∀ {id node}, arena.node? id = some node → node.isLeaf = true → arena.hint id = none

/-- A change of an arena that adds nodes and fills containers, but declares nothing. -/
structure Quiet (arena arena' : Arena) : Prop where
  node : ∀ {id node}, arena.node? id = some node →
    ∃ node', arena'.node? id = some node' ∧ node.Fills node'
  binding : ∀ {id node}, arena'.node? id = some node → node.isBinding = true →
    arena.node? id = some node
  leaves : arena.LeavesUnhinted → arena'.LeavesUnhinted

variable {arena arena' arena'' : Arena}

/-- Doing nothing is quiet. -/
theorem Quiet.rfl : arena.Quiet arena :=
  ⟨fun hnode => ⟨_, hnode, .same⟩, fun hnode _ => hnode, id⟩

/-- Two quiet changes make a quiet one. -/
theorem Quiet.trans (h : arena.Quiet arena') (h' : arena'.Quiet arena'') : arena.Quiet arena'' where
  node hnode := by
    obtain ⟨node', hnode', hfills⟩ := h.node hnode
    obtain ⟨node'', hnode'', hfills'⟩ := h'.node hnode'
    exact ⟨node'', hnode'', hfills.trans hfills'⟩
  binding hnode hbinding := h.binding (h'.binding hnode hbinding) hbinding
  leaves hleaves := h'.leaves (h.leaves hleaves)

/-- A node that is no container stays the same. -/
theorem Quiet.node?_eq (h : arena.Quiet arena') {id : NodeId} {node : Node}
    (hnode : arena.node? id = some node) (hkind : node.isContainer = false) :
    arena'.node? id = some node := by
  obtain ⟨node', hnode', hfills⟩ := h.node hnode
  rwa [hfills.eq_of_not_isContainer hkind] at hnode'

/-- A new node has no hint at first, so it may be a leaf. -/
theorem leavesUnhinted_push (h : arena.LeavesUnhinted) (node : Node) :
    (push node arena).2.LeavesUnhinted where
  hints_size := by simp [push, h.hints_size]
  hint_eq hnode hleaf := by
    rw [hint_push]
    rcases node?_push_cases hnode with hnode | ⟨rfl, _⟩
    · exact h.hint_eq hnode hleaf
    · -- A new node comes without a hint.
      rw [hint, Array.getElem?_eq_none, Option.join_none]
      exact Nat.le_of_eq h.hints_size

/-- Allocating a node that is no binding is quiet. -/
theorem quiet_push {node : Node} (hnode : node.isBinding = false) :
    arena.Quiet (push node arena).2 where
  node hformer := ⟨_, node?_push_of_node? hformer node, .same⟩
  binding hformer hbinding := by
    refine (node?_push_cases hformer).resolve_right ?_
    rintro ⟨_, rfl⟩
    exact Bool.false_ne_true (hnode.symm.trans hbinding)
  leaves h := leavesUnhinted_push h node

/-- Allocating plain nodes is quiet. -/
theorem Allocates.quiet (h : arena.Allocates arena') : arena.Quiet arena' := by
  induction h with
  | none => exact .rfl
  | push _ hnode ih => exact ih.trans (quiet_push (Node.isBinding_of_isPlain hnode))

/-- A hint for a node that is no leaf. -/
theorem quiet_setHint {id : NodeId} (hint : String)
    (hid : ∀ node, arena.node? id = some node → node.isLeaf = false) :
    arena.Quiet (arena.setHint id hint) where
  node hnode := ⟨_, hnode, .same⟩
  binding hnode _ := hnode
  leaves h := by
    refine ⟨by rw [setHint, Array.size_setIfInBounds]; exact h.hints_size, ?_⟩
    intro other node hnode hleaf
    -- A leaf is none of the nodes that take hints, so its own stays away.
    have hne : id.index ≠ other.index := by
      intro heq
      obtain rfl : id = other := by
        cases id
        cases other
        exact congrArg NodeId.mk heq
      exact Bool.false_ne_true ((hid node hnode).symm.trans hleaf)
    have hhint := h.hint_eq hnode hleaf
    rwa [Arena.hint, setHint, Array.getElem?_setIfInBounds_ne hne]

/-- A change that makes no leaves keeps leaves without hints. -/
theorem leavesUnhinted_modifyNode (h : arena.LeavesUnhinted) {id : NodeId} {change : Node → Node}
    (hchange : ∀ node, arena.node? id = some node → (change node).isLeaf = true →
      node.isLeaf = true) : (arena.modifyNode id change).LeavesUnhinted where
  hints_size := by
    rw [modifyNode, Array.size_modify]
    exact h.hints_size
  hint_eq {other node} hnode hleaf := by
    rw [node?_modifyNode] at hnode
    split at hnode
    · next heq =>
      obtain ⟨former, hformer, rfl⟩ := Option.map_eq_some_iff.1 hnode
      exact h.hint_eq hformer (hchange former (heq ▸ hformer) hleaf)
    · exact h.hint_eq hnode hleaf

/-- A change of a container. -/
theorem quiet_modifyNode {id : NodeId} {change : Node → Node}
    (hchange : ∀ node, arena.node? id = some node → node.Fills (change node)) :
    arena.Quiet (arena.modifyNode id change) where
  node {other node} hnode := by
    rw [node?_modifyNode]
    split
    · next heq => exact ⟨_, by rw [hnode, Option.map_some], hchange node (heq ▸ hnode)⟩
    · exact ⟨node, hnode, .same⟩
  binding {other node} hnode hbinding := by
    rw [node?_modifyNode] at hnode
    split at hnode
    · next heq =>
      obtain ⟨former, hformer, rfl⟩ := Option.map_eq_some_iff.1 hnode
      -- A declaration is no container, so filling leaves it as it is.
      have hfills := hchange former (heq ▸ hformer)
      have hkind := hfills.isContainer_eq.symm.trans (Node.isContainer_of_isBinding hbinding)
      rw [hformer, hfills.eq_of_not_isContainer hkind]
    · exact hnode
  leaves h := leavesUnhinted_modifyNode h fun node hnode hleaf => by
    have hfills := hchange node hnode
    have hkind := hfills.isContainer_eq.symm.trans (Node.isContainer_of_isLeaf hleaf)
    rwa [hfills.eq_of_not_isContainer hkind] at hleaf

/-- One more statement at the end of a block. -/
theorem quiet_appendStmt (block stmt : NodeId) : arena.Quiet (arena.appendStmt block stmt) :=
  quiet_modifyNode fun node _ => by
    split
    · exact .block (by rw [Array.toList_push]; exact List.prefix_append ..)
    · exact .same

end Arena

end Semblance
