import Semblance.Hoist

/-!
# Reachability and sharing

A node occurs as a top-level statement or in a child slot of a node that is reached from the
statements. `Arena.Shared` holds of the nodes that occur in two places, which are the nodes that
hoisting has to move. These notions are read off an arena and a list of statements alone, and they
are used for the graph that goes into hoisting as well as for the program that comes out.

## Key results

- `exists_occurs`: a node that is reached occurs somewhere
- `occurs_unique`: a place holds one node
- `Closed.lt_size`: where no id is dangling, all that is reached is allocated
- `closed_of_children`: no id is dangling where all children are allocated
-/

namespace Semblance.Arena

/-- The child in a slot of the node with an id. -/
def child? (arena : Arena) (parent : NodeId) (slot : Nat) : Option NodeId :=
  (arena.node? parent).bind (·.child? slot)

/-- The ids reached from some statements through child slots. -/
inductive Reaches (arena : Arena) (roots : List NodeId) : NodeId → Prop where
  | root {id : NodeId} : id ∈ roots → Reaches arena roots id
  | child {parent child : NodeId} {slot : Nat} : Reaches arena roots parent →
      arena.child? parent slot = some child → Reaches arena roots child

/-- Every id that is reached is allocated. -/
def Closed (arena : Arena) (roots : List NodeId) : Prop :=
  ∀ id, arena.Reaches roots id → (arena.node? id).isSome

/-- A node occurs in a place: it is the statement in this position, or the child in this slot of a
    node that is reached. -/
def Occurs (arena : Arena) (roots : List NodeId) (id : NodeId) : Occurrence → Prop
  | .root position => roots[position]? = some id
  | .slot parent slot => arena.Reaches roots parent ∧ arena.child? parent slot = some id

/-- A node occurs as the statement in a position. -/
theorem occurs_root {arena : Arena} {roots : List NodeId} {id : NodeId} {position : Nat} :
    arena.Occurs roots id (.root position) ↔ roots[position]? = some id :=
  Iff.rfl

/-- A node occurs as the child in a slot of a node that is reached. -/
theorem occurs_slot {arena : Arena} {roots : List NodeId} {id parent : NodeId} {slot : Nat} :
    arena.Occurs roots id (.slot parent slot) ↔
      arena.Reaches roots parent ∧ arena.child? parent slot = some id :=
  Iff.rfl

/-- A node occurs in two places. -/
def Shared (arena : Arena) (roots : List NodeId) (id : NodeId) : Prop :=
  ∃ place place', place ≠ place' ∧ arena.Occurs roots id place ∧ arena.Occurs roots id place'

/-- The statement `var name = node` with nothing else in it. -/
def Declares (arena : Arena) (decl : NodeId) (name : String) (node : NodeId) : Prop :=
  ∃ declarator, arena.node? decl = some (.varDecl #[declarator]) ∧
    arena.node? declarator = some (.declarator name (some node))

variable {arena : Arena} {roots : List NodeId}

/-- A child is one of a node that is there. -/
theorem child?_eq_some {parent child : NodeId} {slot : Nat} :
    arena.child? parent slot = some child ↔
      ∃ node, arena.node? parent = some node ∧ node.child? slot = some child :=
  Option.bind_eq_some_iff

/-- The children of an id are those of its node. -/
theorem child?_of_node? {parent : NodeId} {node : Node} (h : arena.node? parent = some node)
    (slot : Nat) : arena.child? parent slot = node.child? slot := by
  rw [child?, h, Option.bind_some]

/-- Nodes are counted by the size of the arena. -/
theorem lt_size_of_node? {id : NodeId} {node : Node} (h : arena.node? id = some node) :
    id.index < arena.size :=
  (Array.getElem?_eq_some_iff.1 h).1

/-- If every id that is reached has a node, all these ids are within the arena. -/
theorem Closed.lt_size (hclosed : arena.Closed roots) {id : NodeId} (h : arena.Reaches roots id) :
    id.index < arena.size := by
  obtain ⟨node, hnode⟩ := Option.isSome_iff_exists.1 (hclosed id h)
  exact lt_size_of_node? hnode

/-- Where all children are allocated, so is all that is reached from allocated statements. -/
theorem closed_of_children (hroots : ∀ root ∈ roots, root.index < arena.size)
    (hchildren : ∀ node ∈ arena.nodes, ∀ child ∈ node.children, child.2.index < arena.size) :
    arena.Closed roots := by
  have hsome {id : NodeId} (h : id.index < arena.size) : (arena.node? id).isSome := by
    rw [node?, Array.getElem?_eq_getElem h, Option.isSome_some]
  intro id hid
  cases hid with
  | root hmem => exact hsome (hroots id hmem)
  | child _ hchild =>
    obtain ⟨node, hnode, hchild⟩ := child?_eq_some.1 hchild
    exact hsome (hchildren node (Array.mem_of_getElem? hnode) _ (Node.mem_children.2 hchild))

/-- A node that is found from one that is reached, by following slots, is reached. -/
theorem Reaches.descend {id leaf : NodeId} (h : arena.Reaches roots id) {slots : List Nat}
    (hslots : slots.foldlM arena.child? id = some leaf) : arena.Reaches roots leaf := by
  induction slots generalizing id with
  | nil => rwa [← Option.some.inj hslots]
  | cons slot slots ih =>
    obtain ⟨child, hchild, hslots⟩ := Option.bind_eq_some_iff.1 hslots
    exact ih (h.child hchild) hslots

/-- What occurs is reached. -/
theorem Occurs.reaches {id : NodeId} {place : Occurrence} (h : arena.Occurs roots id place) :
    arena.Reaches roots id := by
  cases place with
  | root position => exact .root (List.mem_of_getElem? h)
  | slot parent slot => exact .child h.1 h.2

/-- What is reached occurs somewhere. -/
theorem exists_occurs {id : NodeId} (h : arena.Reaches roots id) :
    ∃ place, arena.Occurs roots id place := by
  cases h with
  | root hmem =>
    obtain ⟨position, hposition⟩ := List.getElem?_of_mem hmem
    exact ⟨.root position, hposition⟩
  | child hparent hchild => exact ⟨.slot _ _, hparent, hchild⟩

/-- A place holds one node. -/
theorem occurs_unique {id id' : NodeId} {place : Occurrence} (h : arena.Occurs roots id place)
    (h' : arena.Occurs roots id' place) : id = id' := by
  cases place with
  | root position => exact Option.some.inj (h.symm.trans h')
  | slot parent slot => exact Option.some.inj (h.2.symm.trans h'.2)

/-- A node that is not shared occurs in one place only. -/
theorem place_unique_of_not_shared {id : NodeId} {place place' : Occurrence}
    (hshared : ¬ arena.Shared roots id) (h : arena.Occurs roots id place)
    (h' : arena.Occurs roots id place') : place = place' :=
  Decidable.byContradiction fun hne => hshared ⟨place, place', hne, h, h'⟩

end Semblance.Arena
