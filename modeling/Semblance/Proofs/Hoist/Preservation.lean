import Semblance.Proofs.Hoist.Unfolding

/-!
# Hoisting preserves the graph up to named sharing

Hoisting changes how a graph is written down and not what it says. Whatever occurs once stays in its
slot, and whatever occurs more often is given a name: one new statement declares the name, and every
slot refers to it. `Arena.Named` states this without a look at how the walk proceeds. Reading each
reference as the node that its declaration holds gives back the graph that went in, which is
`Named.restores`.

## Key results

- `hoist_named`: hoisting names the shared nodes and changes nothing else
-/

namespace Semblance

/-- The names that occur in a node: of a reference, of parameters, or of a declarator. -/
def Node.names : Node → List String
  | .ident name => [name]
  | .function params _ => params.toList
  | .declarator name _ => [name]
  | _ => []

/-- All names that occur in an arena are in use. -/
def NameSupply.Covers (names : NameSupply) (arena : Arena) : Prop :=
  ∀ id node, arena.node? id = some node → ∀ name ∈ node.names, names.isTaken name = true

/-- Names are covered if they are taken wherever a node has them. -/
theorem NameSupply.covers_of_nodes {names : NameSupply} {arena : Arena}
    (h : ∀ node ∈ arena.nodes, ∀ name ∈ node.names, names.isTaken name = true) :
    names.Covers arena :=
  fun _ node hnode => h node (Array.mem_of_getElem? hnode)

/-- A statement that declares a name for a node. -/
structure Declaration where
  decl : NodeId
  name : String
  node : NodeId

namespace Arena

/-- A slot holds a reference by name. -/
def Refers (arena : Arena) (parent : NodeId) (slot : Nat) (name : String) : Prop :=
  ∃ ident, arena.child? parent slot = some ident ∧ arena.node? ident = some (.ident name)

/-- What an id stands for: a reference to a declared name stands for the declared node, and anything
    else for itself. -/
def resolve (arena : Arena) (declarations : List Declaration) (id : NodeId) : NodeId :=
  match arena.node? id with
  | some (.ident name) => ((declarations.find? (·.name == name)).map (·.node)).getD id
  | _ => id

/-- `hoisted` is the graph below `roots` in `arena` with a declaration for each shared node. -/
structure Named (arena : Arena) (roots : List NodeId) (names : NameSupply) (hoisted : Hoisted)
    (declarations : List Declaration) : Prop where
  roots_eq : hoisted.roots.toList = roots ++ declarations.map (·.decl)
  declares : ∀ declaration ∈ declarations,
    hoisted.arena.Declares declaration.decl declaration.name declaration.node
  /-- The declared nodes are the shared ones, each once. -/
  mem_nodes_iff : ∀ id, id ∈ declarations.map (·.node) ↔ arena.Shared roots id
  nodes_nodup : (declarations.map (·.node)).Nodup
  names_nodup : (declarations.map (·.name)).Nodup
  names_fresh : ∀ declaration ∈ declarations, names.isTaken declaration.name = false
  /-- Kinds, data and the occupied slots of all nodes are kept. -/
  skeleton_eq : ∀ {id node}, arena.node? id = some node →
    ∃ node', hoisted.arena.node? id = some node' ∧ node'.skeleton = node.skeleton
  /-- A slot refers to a declared name if its child was declared by that name. -/
  refers_iff : ∀ {parent slot child}, arena.Reaches roots parent →
    arena.child? parent slot = some child → ∀ declaration ∈ declarations,
    (hoisted.arena.Refers parent slot declaration.name ↔ declaration.node = child)
  /-- A slot whose child is not shared holds its child. -/
  slot_eq : ∀ {parent slot child}, arena.Reaches roots parent →
    arena.child? parent slot = some child → ¬ arena.Shared roots child →
    hoisted.arena.child? parent slot = some child
  unreached : ∀ {id}, id.index < arena.size → ¬ arena.Reaches roots id →
    hoisted.arena.node? id = arena.node? id
  /-- With each reference read as the declared node, every node is what it was. -/
  restores : ∀ {id}, arena.Reaches roots id →
    (hoisted.arena.node? id).map (·.mapChildren (hoisted.arena.resolve declarations)) =
      arena.node? id

end Arena

namespace Hoist

variable {arena : Arena} {roots : List NodeId} {names : NameSupply} {hoist : Hoist}

/-- The declarations that a walk has added. -/
def declarations (hoist : Hoist) : List Declaration :=
  hoist.promotions.toList.map fun promotion =>
    ⟨hoist.roots[promotion.root]?.getD default, promotion.name, promotion.node⟩

/-- The declarations are those of the promotions, with the statements at their positions. -/
theorem mem_declarations {declaration : Declaration} :
    declaration ∈ hoist.declarations ↔ ∃ promotion ∈ hoist.promotions, declaration =
      ⟨hoist.roots[promotion.root]?.getD default, promotion.name, promotion.node⟩ := by
  simp only [declarations, List.mem_map, Array.mem_toList_iff, eq_comm]

namespace Unfolded

/-- What is injective on promotions has no duplicates along them. -/
theorem nodup_map (h : Unfolded arena roots names hoist) (f : Promotion → α)
    (hf : ∀ {promotion promotion'}, promotion ∈ hoist.promotions → promotion' ∈ hoist.promotions →
      f promotion = f promotion' → promotion = promotion') :
    (hoist.promotions.toList.map f).Nodup := by
  rw [List.Nodup, List.pairwise_map, List.pairwise_iff_getElem]
  intro k k' hk hk' hlt heq
  have heq := hf (Array.mem_toList_iff.1 (List.getElem_mem hk))
    (Array.mem_toList_iff.1 (List.getElem_mem hk')) heq
  -- Promotions differ in the positions of their declarations.
  have hroot {k : Nat} (hk : k < hoist.promotions.toList.length) :
      hoist.promotions.toList[k].root = roots.length + k := by
    refine (h.declared ?_).1
    rw [Array.getElem_toList, Array.getElem?_eq_getElem]
  have := hroot hk
  rw [heq, hroot hk'] at this
  omega

/-- The statements are the given ones and then the declarations. -/
theorem roots_eq (h : Unfolded arena roots names hoist) :
    hoist.roots.toList = roots ++ hoist.declarations.map (·.decl) := by
  have hsize := h.roots_size
  refine List.ext_getElem? fun position => ?_
  rw [Array.getElem?_toList, List.getElem?_append]
  split
  · next hlt => exact h.roots_getElem? hlt
  · next hge =>
    rw [declarations, List.map_map, List.getElem?_map, Array.getElem?_toList]
    -- The statements after the given ones are the declarations, in the order of hoisting.
    cases hk : hoist.promotions[position - roots.length]? with
    | none =>
      have := Array.getElem?_eq_none_iff.1 hk
      rw [Array.getElem?_eq_none (by omega), Option.map_none]
    | some promotion =>
      obtain ⟨hroot, decl, hdecl, _⟩ := h.declared hk
      have hposition : promotion.root = position := by omega
      rw [Option.map_some, Function.comp_apply, ← hposition, hdecl, Option.getD_some]

/-- A reference among the reached nodes is one to a name in use. -/
theorem name_ne (h : Unfolded arena roots names hoist) (hnames : names.Covers arena) {id : NodeId}
    {node : Node} (hnode : arena.node? id = some node) {name : String}
    (hident : hoist.arena.node? id = some (.ident name)) {promotion : Promotion}
    (hmem : promotion ∈ hoist.promotions) : promotion.name ≠ name := by
  rintro rfl
  obtain ⟨node', hnode', hskeleton⟩ := h.skeleton_eq hnode
  obtain rfl := Option.some.inj (hident.symm.trans hnode')
  -- So the node was a reference to a name in use, and the new name is not in use.
  obtain rfl := Node.eq_ident_of_skeleton_eq hskeleton.symm
  have htaken := hnames id _ hnode promotion.name (List.mem_cons_self ..)
  rw [h.name_fresh hmem] at htaken
  exact nomatch htaken

/-- A slot has a reference to a name if it had the node that is declared under this name. -/
theorem refers_iff (h : Unfolded arena roots names hoist) (hclosed : arena.Closed roots)
    (hnames : names.Covers arena) {parent child : NodeId} {slot : Nat}
    (hparent : arena.Reaches roots parent) (hchild : arena.child? parent slot = some child)
    {promotion : Promotion} (hmem : promotion ∈ hoist.promotions) :
    hoist.arena.Refers parent slot promotion.name ↔ promotion.node = child := by
  constructor
  · rintro ⟨ident, hident, hnode⟩
    by_cases hshared : arena.Shared roots child
    · -- Names tell declarations apart.
      obtain ⟨promotion', hmem', rfl⟩ := h.shared_iff.1 hshared
      obtain ⟨ident', hident', _, hnode'⟩ := h.slot_links hparent hmem' hchild
      obtain rfl := Option.some.inj (hident.symm.trans hident')
      have hname := Node.ident.inj (Option.some.inj (hnode.symm.trans hnode'))
      rw [h.name_inj hmem hmem' hname]
    · -- A child that is not shared is still there, and it refers to no new name.
      obtain rfl := Option.some.inj (hident.symm.trans (h.slot_eq hparent hchild hshared))
      obtain ⟨former, hformer⟩ := Option.isSome_iff_exists.1 (hclosed _ (.child hparent hchild))
      exact absurd rfl (h.name_ne hnames hformer hnode hmem)
  · rintro rfl
    obtain ⟨ident, hident, _, hnode⟩ := h.slot_links hparent hmem hchild
    exact ⟨ident, hident, hnode⟩

/-- A reference to a declared name stands for the declared node. -/
theorem resolve_reference (h : Unfolded arena roots names hoist) {promotion : Promotion}
    (hmem : promotion ∈ hoist.promotions) {ident : NodeId}
    (hident : hoist.arena.node? ident = some (.ident promotion.name)) :
    hoist.arena.resolve hoist.declarations ident = promotion.node := by
  simp only [Arena.resolve, hident]
  cases hfind : hoist.declarations.find? (·.name == promotion.name) with
  | none =>
    have hnone := List.find?_eq_none.1 hfind _ (mem_declarations.2 ⟨promotion, hmem, rfl⟩)
    exact absurd (beq_self_eq_true promotion.name) hnone
  | some declaration =>
    obtain ⟨promotion', hmem', rfl⟩ := mem_declarations.1 (List.mem_of_find?_eq_some hfind)
    have hname := List.find?_some hfind
    rw [Option.map_some, Option.getD_some, h.name_inj hmem' hmem (eq_of_beq hname)]

/-- A node that is reached stands for itself. -/
theorem resolve_self (h : Unfolded arena roots names hoist) (hnames : names.Covers arena)
    {id : NodeId} {node : Node} (hnode : arena.node? id = some node) :
    hoist.arena.resolve hoist.declarations id = id := by
  unfold Arena.resolve
  split
  · next name hident =>
    rw [List.find?_eq_none.2, Option.map_none, Option.getD_none]
    intro declaration hmem hname
    obtain ⟨promotion, hmem', rfl⟩ := mem_declarations.1 hmem
    exact h.name_ne hnames hnode hident hmem' (eq_of_beq hname)
  · rfl

/-- Putting each declared node back for the references to it gives the node that was there. -/
theorem restores (h : Unfolded arena roots names hoist) (hclosed : arena.Closed roots)
    (hnames : names.Covers arena) {id : NodeId} (hid : arena.Reaches roots id) :
    (hoist.arena.node? id).map (·.mapChildren (hoist.arena.resolve hoist.declarations)) =
      arena.node? id := by
  obtain ⟨node, hnode⟩ := Option.isSome_iff_exists.1 (hclosed id hid)
  obtain ⟨node', hnode', hskeleton⟩ := h.skeleton_eq hnode
  rw [hnode, hnode', Option.map_some, Option.some.injEq]
  -- Nodes with one skeleton are equal if their children are.
  refine Node.eq_of_child?_eq ((Node.skeleton_mapChildren ..).trans hskeleton) fun slot => ?_
  have hslot := Node.child?_isSome_of_skeleton_eq hskeleton slot
  rw [Node.child?_mapChildren]
  cases hchild : node.child? slot with
  | none =>
    rw [hchild, Option.isSome_none, Option.isSome_eq_false_iff, Option.isNone_iff_eq_none] at hslot
    rw [hslot, Option.map_none]
  | some child =>
    rw [← Arena.child?_of_node? hnode] at hchild
    rw [← Arena.child?_of_node? hnode']
    by_cases hshared : arena.Shared roots child
    · obtain ⟨promotion, hmem, rfl⟩ := h.shared_iff.1 hshared
      obtain ⟨ident, hident, _, hreference⟩ := h.slot_links hid hmem hchild
      rw [hident, Option.map_some, h.resolve_reference hmem hreference]
    · obtain ⟨former, hformer⟩ := Option.isSome_iff_exists.1 (hclosed _ (.child hid hchild))
      rw [h.slot_eq hid hchild hshared, Option.map_some, h.resolve_self hnames hformer]

/-- An unfolded graph is the graph with a declaration for each shared node. -/
theorem named (h : Unfolded arena roots names hoist) (hclosed : arena.Closed roots)
    (hnames : names.Covers arena) :
    arena.Named roots names hoist.result hoist.declarations where
  roots_eq := h.roots_eq
  declares declaration hmem := by
    obtain ⟨promotion, hmem', rfl⟩ := mem_declarations.1 hmem
    obtain ⟨k, hk⟩ := Array.getElem?_of_mem hmem'
    obtain ⟨_, decl, hdecl, declarator, _, _, hnode, hnode'⟩ := h.declared hk
    rw [hdecl, Option.getD_some]
    exact ⟨declarator, hnode, hnode'⟩
  mem_nodes_iff id := by
    rw [h.shared_iff, declarations, List.map_map, List.mem_map]
    simp only [Array.mem_toList_iff, Function.comp_apply]
  nodes_nodup := by
    rw [declarations, List.map_map]
    exact h.nodup_map _ h.node_inj
  names_nodup := by
    rw [declarations, List.map_map]
    exact h.nodup_map _ h.name_inj
  names_fresh declaration hmem := by
    obtain ⟨promotion, hmem', rfl⟩ := mem_declarations.1 hmem
    exact h.name_fresh hmem'
  skeleton_eq := h.skeleton_eq
  refers_iff hparent hchild declaration hmem := by
    obtain ⟨promotion, hmem', rfl⟩ := mem_declarations.1 hmem
    exact h.refers_iff hclosed hnames hparent hchild hmem'
  slot_eq := h.slot_eq
  unreached := h.unreached
  restores := h.restores hclosed hnames

end Unfolded

/-- Hoisting names the shared nodes and changes nothing else. -/
theorem hoist_named (hclosed : arena.Closed roots) (hnames : names.Covers arena)
    {hoisted : Hoisted} (h : arena.hoist roots names = .ok hoisted) :
    ∃ declarations, arena.Named roots names hoisted declarations := by
  obtain ⟨hoist, _, rfl, hunfolded, _⟩ := hoist_eq_ok hclosed h
  exact ⟨hoist.declarations, hunfolded.named hclosed hnames⟩

/-- The statement `log(value)` for a value that holds itself. -/
def selfReference : Arena where
  nodes := #[.object #[⟨1⟩], .entry (.bare "self") ⟨0⟩ .value, .ident "log", .call ⟨2⟩ #[⟨0⟩],
    .exprStmt ⟨3⟩]
  hints := #[some "log", none, none, none, none]

/-- No id of the array is dangling. -/
theorem selfReference_closed : selfReference.Closed [⟨4⟩] :=
  Arena.closed_of_children (by decide) (by decide)

/-- The value is hoisted, and it cannot be called `log`. -/
theorem hoist_named_selfReference :
    ∃ hoisted declarations,
      selfReference.hoist [⟨4⟩] (NameSupply.empty.reserve "log") = .ok hoisted ∧
      selfReference.Named [⟨4⟩] (NameSupply.empty.reserve "log") hoisted declarations := by
  have hok : (selfReference.hoist [⟨4⟩] (NameSupply.empty.reserve "log")).isOk = true := by
    decide +kernel
  have hnames : (NameSupply.empty.reserve "log").Covers selfReference :=
    NameSupply.covers_of_nodes (by decide +kernel)
  obtain ⟨hoisted, hhoist⟩ := isOk_iff.1 hok
  obtain ⟨declarations, hnamed⟩ := hoist_named selfReference_closed hnames hhoist
  exact ⟨hoisted, declarations, hhoist, hnamed⟩

end Hoist

end Semblance
