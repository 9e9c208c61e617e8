import Semblance.Proofs.Hoist.Unfolding

/-!
# Where nodes stand after hoisting

After hoisting, each node stands in one place. A node that is not shared stays where it was, a
shared node moves below its declarator, and the new nodes are references in the slots of shared
nodes, the declarations among the statements, and the declarators below them. `Site` lists these
five cases, and the unfolded graph has no other occurrences.

## Key results

- `Unfolded.occurs_iff`: the occurrences in the unfolded graph are its sites
- `Unfolded.place_unique`: no node occurs twice in the unfolded graph
- `Unfolded.reaches`: no node is lost
-/

namespace Semblance.Hoist

/-- The declaration of a hoisted node, with its two nodes. -/
structure Declaring (arena : Arena) (hoist : Hoist) (promotion : Promotion)
    (decl declarator : NodeId) : Prop where
  mem : promotion ∈ hoist.promotions
  root : hoist.roots[promotion.root]? = some decl
  decl_new : arena.size ≤ decl.index
  declarator_new : arena.size ≤ declarator.index
  decl_node : hoist.arena.node? decl = some (.varDecl #[declarator])
  declarator_node :
    hoist.arena.node? declarator = some (.declarator promotion.name (some promotion.node))

/-- The places of the nodes after hoisting. -/
inductive Site (arena : Arena) (roots : List NodeId) (hoist : Hoist) : NodeId → Occurrence → Prop
  | kept {id : NodeId} {place : Occurrence} : arena.Occurs roots id place →
      ¬ arena.Shared roots id → Site arena roots hoist id place
  | reference {parent ident : NodeId} {slot : Nat} {promotion : Promotion} :
      arena.Reaches roots parent → promotion ∈ hoist.promotions →
      arena.child? parent slot = some promotion.node →
      hoist.arena.child? parent slot = some ident → arena.size ≤ ident.index →
      hoist.arena.node? ident = some (.ident promotion.name) →
      Site arena roots hoist ident (.slot parent slot)
  | decl {promotion : Promotion} {decl declarator : NodeId} :
      Declaring arena hoist promotion decl declarator →
      Site arena roots hoist decl (.root promotion.root)
  | declarator {promotion : Promotion} {decl declarator : NodeId} :
      Declaring arena hoist promotion decl declarator →
      Site arena roots hoist declarator (.slot decl 0)
  | hoisted {promotion : Promotion} {decl declarator : NodeId} :
      Declaring arena hoist promotion decl declarator →
      Site arena roots hoist promotion.node (.slot declarator 0)

variable {arena : Arena} {roots : List NodeId} {names : NameSupply} {hoist : Hoist}

namespace Declaring

variable {promotion promotion' : Promotion} {decl decl' declarator declarator' : NodeId}

/-- A declarator declares one node. -/
theorem promotion_eq (hunfolded : Unfolded arena roots names hoist)
    (h : Declaring arena hoist promotion decl declarator)
    (h' : Declaring arena hoist promotion' decl' declarator) : promotion = promotion' := by
  have hnode := Option.some.inj (h.declarator_node.symm.trans h'.declarator_node)
  exact hunfolded.name_inj h.mem h'.mem (Node.declarator.inj hnode).1

/-- A promotion has one declarator. -/
theorem declarator_eq (h : Declaring arena hoist promotion decl declarator)
    (h' : Declaring arena hoist promotion' decl declarator') : declarator = declarator' := by
  have hnode := Option.some.inj (h.decl_node.symm.trans h'.decl_node)
  simpa using hnode

/-- A promotion has one declaration. -/
theorem decl_eq (h : Declaring arena hoist promotion decl declarator)
    (h' : Declaring arena hoist promotion decl' declarator') : decl = decl' :=
  Option.some.inj (h.root.symm.trans h'.root)

/-- A declaration and its declarator are nodes that were put in. -/
theorem declaresAnew (h : Declaring arena hoist promotion decl declarator) :
    arena.DeclaresAnew hoist.arena decl promotion.name promotion.node :=
  ⟨declarator, h.decl_new, h.declarator_new, h.decl_node, h.declarator_node⟩

/-- The children of the two nodes of a declaration. -/
theorem child?_decl (h : Declaring arena hoist promotion decl declarator) (slot : Nat) :
    hoist.arena.child? decl slot = if slot = 0 then some declarator else none := by
  rw [Arena.child?_of_node? h.decl_node]
  cases slot <;> rfl

/-- The one child of the declarator is the node that was hoisted. -/
theorem child?_declarator (h : Declaring arena hoist promotion decl declarator) (slot : Nat) :
    hoist.arena.child? declarator slot = if slot = 0 then some promotion.node else none := by
  rw [Arena.child?_of_node? h.declarator_node]
  cases slot <;> rfl

/-- A hoisted node is reached through its declaration. -/
theorem reaches (h : Declaring arena hoist promotion decl declarator) :
    hoist.arena.Reaches hoist.roots.toList decl ∧
      hoist.arena.Reaches hoist.roots.toList declarator ∧
      hoist.arena.Reaches hoist.roots.toList promotion.node := by
  have hroot : hoist.arena.Reaches hoist.roots.toList decl :=
    .root (Array.mem_toList_iff.2 (Array.mem_of_getElem? h.root))
  have hbelow : hoist.arena.Reaches hoist.roots.toList declarator :=
    .child hroot (by rw [h.child?_decl, if_pos rfl])
  exact ⟨hroot, hbelow, .child hbelow (by rw [h.child?_declarator, if_pos rfl])⟩

end Declaring

namespace Unfolded

/-- Every promotion has a declaration. -/
theorem declaring (h : Unfolded arena roots names hoist) {promotion : Promotion}
    (hmem : promotion ∈ hoist.promotions) :
    ∃ decl declarator, Declaring arena hoist promotion decl declarator := by
  obtain ⟨k, hk⟩ := Array.getElem?_of_mem hmem
  obtain ⟨_, decl, hroot, declarator, hdecl, hdeclarator, hnode, hnode'⟩ := h.declared hk
  exact ⟨decl, declarator, hmem, hroot, hdecl, hdeclarator, hnode, hnode'⟩

/-- The statement at the position of a promotion declares its node. -/
theorem declaresAnew (h : Unfolded arena roots names hoist) {promotion : Promotion} {decl : NodeId}
    (hmem : promotion ∈ hoist.promotions) (hroot : hoist.roots[promotion.root]? = some decl) :
    arena.DeclaresAnew hoist.arena decl promotion.name promotion.node := by
  obtain ⟨_, _, hdecl⟩ := h.declaring hmem
  rw [Option.some.inj (hroot.symm.trans hdecl.root)]
  exact hdecl.declaresAnew

/-! ### Every site is an occurrence -/

/-- A given statement keeps its position. -/
theorem root_getElem? (h : Unfolded arena roots names hoist) {id : NodeId} {position : Nat}
    (hroot : roots[position]? = some id) : hoist.roots[position]? = some id := by
  obtain ⟨hlt, _⟩ := List.getElem?_eq_some_iff.1 hroot
  rw [h.roots_getElem? hlt, hroot]

/-- No node is lost. -/
theorem reaches (h : Unfolded arena roots names hoist) {id : NodeId}
    (hid : arena.Reaches roots id) : hoist.arena.Reaches hoist.roots.toList id := by
  induction hid with
  | root hmem =>
    obtain ⟨position, hposition⟩ := List.getElem?_of_mem hmem
    exact .root (Array.mem_toList_iff.2 (Array.mem_of_getElem? (h.root_getElem? hposition)))
  | @child parent child slot hparent hchild ih =>
    by_cases hshared : arena.Shared roots child
    · -- A shared node has moved below its declarator.
      obtain ⟨promotion, hmem, rfl⟩ := h.shared_iff.1 hshared
      obtain ⟨decl, declarator, hdecl⟩ := h.declaring hmem
      exact hdecl.reaches.2.2
    · exact .child ih (h.slot_eq hparent hchild hshared)

/-- A site is a place in which the node occurs. -/
theorem occurs_of_site (h : Unfolded arena roots names hoist) {id : NodeId} {place : Occurrence}
    (hsite : Site arena roots hoist id place) :
    hoist.arena.Occurs hoist.roots.toList id place := by
  cases hsite with
  | kept hoccurs hshared =>
    cases place with
    | root position => exact (Array.getElem?_toList).trans (h.root_getElem? hoccurs)
    | slot parent slot => exact ⟨h.reaches hoccurs.1, h.slot_eq hoccurs.1 hoccurs.2 hshared⟩
  | reference hparent _ _ hident => exact ⟨h.reaches hparent, hident⟩
  | decl hdecl => exact (Array.getElem?_toList).trans hdecl.root
  | declarator hdecl =>
    exact ⟨hdecl.reaches.1, by rw [hdecl.child?_decl, if_pos rfl]⟩
  | hoisted hdecl =>
    exact ⟨hdecl.reaches.2.1, by rw [hdecl.child?_declarator, if_pos rfl]⟩

/-! ### Every occurrence is a site -/

/-- Below a node of the graph stand unshared children and references. -/
theorem site_of_reached (h : Unfolded arena roots names hoist) (hclosed : arena.Closed roots)
    {parent child : NodeId} {slot : Nat} (hparent : arena.Reaches roots parent)
    (hchild : hoist.arena.child? parent slot = some child) :
    Site arena roots hoist child (.slot parent slot) := by
  have hsome := h.child?_isSome (hclosed.lt_size hparent) slot
  rw [hchild, Option.isSome_some] at hsome
  obtain ⟨former, hformer⟩ := Option.isSome_iff_exists.1 hsome.symm
  by_cases hshared : arena.Shared roots former
  · obtain ⟨promotion, hmem, rfl⟩ := h.shared_iff.1 hshared
    obtain ⟨ident, hident, hge, hnode⟩ := h.slot_links hparent hmem hformer
    obtain rfl := Option.some.inj (hchild.symm.trans hident)
    exact .reference hparent hmem hformer hident hge hnode
  · obtain rfl := Option.some.inj (hchild.symm.trans (h.slot_eq hparent hformer hshared))
    exact .kept ⟨hparent, hformer⟩ hshared

/-- Below a node with a site stand nodes with sites. -/
theorem site_below (h : Unfolded arena roots names hoist) (hclosed : arena.Closed roots)
    {parent child : NodeId} {slot : Nat} {place : Occurrence}
    (hsite : Site arena roots hoist parent place)
    (hchild : hoist.arena.child? parent slot = some child) :
    Site arena roots hoist child (.slot parent slot) := by
  cases hsite with
  | kept hoccurs _ => exact h.site_of_reached hclosed hoccurs.reaches hchild
  | reference _ _ _ _ _ hnode =>
    -- A reference has no children.
    rw [Arena.child?_of_node? hnode] at hchild
    exact nomatch hchild
  | decl hdecl =>
    rw [hdecl.child?_decl, Option.ite_none_right_eq_some] at hchild
    obtain ⟨rfl, hchild⟩ := hchild
    exact Option.some.inj hchild ▸ .declarator hdecl
  | declarator hdecl =>
    rw [hdecl.child?_declarator, Option.ite_none_right_eq_some] at hchild
    obtain ⟨rfl, hchild⟩ := hchild
    exact Option.some.inj hchild ▸ .hoisted hdecl
  | hoisted hdecl => exact h.site_of_reached hclosed (h.node_reached hdecl.mem) hchild

/-- The statements are sites of themselves. -/
theorem site_of_root (h : Unfolded arena roots names hoist) {id : NodeId} {position : Nat}
    (hroot : hoist.roots[position]? = some id) :
    Site arena roots hoist id (.root position) := by
  by_cases hlt : position < roots.length
  · rw [h.roots_getElem? hlt] at hroot
    exact .kept hroot (h.root_not_shared (List.mem_of_getElem? hroot))
  · -- The statements after the given ones are declarations.
    have hsize := h.roots_size
    have hposition := (Array.getElem?_eq_some_iff.1 hroot).1
    have hk : hoist.promotions[position - roots.length]? = some _ :=
      Array.getElem?_eq_getElem (by omega)
    obtain ⟨decl, declarator, hdecl⟩ := h.declaring (Array.mem_of_getElem? hk)
    have heq : hoist.promotions[position - roots.length].root = position := by
      have := (h.declared hk).1
      omega
    have hsite : Site arena roots hoist decl _ := .decl hdecl
    rw [heq] at hsite
    rw [← heq] at hroot
    rwa [Option.some.inj (hroot.symm.trans hdecl.root)]

/-- Whatever is reached has a site: it is a given node in the place that was kept, a reference in
    the slot it was put in, or a part of a declaration. -/
theorem exists_site (h : Unfolded arena roots names hoist) (hclosed : arena.Closed roots)
    {id : NodeId} (hid : hoist.arena.Reaches hoist.roots.toList id) :
    ∃ place, Site arena roots hoist id place := by
  induction hid with
  | root hmem =>
    obtain ⟨position, hposition⟩ := Array.getElem?_of_mem (Array.mem_toList_iff.1 hmem)
    exact ⟨_, h.site_of_root hposition⟩
  | child _ hchild ih =>
    obtain ⟨place, hsite⟩ := ih
    exact ⟨_, h.site_below hclosed hsite hchild⟩

/-- The occurrences in the unfolded graph are its sites. -/
theorem occurs_iff (h : Unfolded arena roots names hoist) (hclosed : arena.Closed roots)
    {id : NodeId} {place : Occurrence} :
    hoist.arena.Occurs hoist.roots.toList id place ↔ Site arena roots hoist id place := by
  refine ⟨fun hoccurs => ?_, h.occurs_of_site⟩
  cases place with
  | root position => exact h.site_of_root ((Array.getElem?_toList).symm.trans hoccurs)
  | slot parent slot =>
    obtain ⟨place, hsite⟩ := h.exists_site hclosed hoccurs.1
    exact h.site_below hclosed hsite hoccurs.2

/-! ### No node has two sites -/

/-- A node of the graph that went in is where it was, or below its declarator. -/
theorem site_of_old (h : Unfolded arena roots names hoist) {id : NodeId} {place : Occurrence}
    (hsite : Site arena roots hoist id place) (hlt : id.index < arena.size) :
    (arena.Occurs roots id place ∧ ¬ arena.Shared roots id) ∨
      (arena.Shared roots id ∧ ∃ promotion decl declarator,
        Declaring arena hoist promotion decl declarator ∧ promotion.node = id ∧
        place = .slot declarator 0) := by
  cases hsite with
  | kept hoccurs hshared => exact .inl ⟨hoccurs, hshared⟩
  | reference _ _ _ _ hge _ => exact absurd hlt (Nat.not_lt.2 hge)
  | decl hdecl => exact absurd hlt (Nat.not_lt.2 hdecl.decl_new)
  | declarator hdecl => exact absurd hlt (Nat.not_lt.2 hdecl.declarator_new)
  | hoisted hdecl =>
    exact .inr ⟨h.shared_iff.2 ⟨_, hdecl.mem, rfl⟩, _, _, _, hdecl, rfl, rfl⟩

/-- A new node is a reference, a declaration or a declarator. -/
theorem site_of_new (h : Unfolded arena roots names hoist) (hclosed : arena.Closed roots)
    {id : NodeId} {place : Occurrence} (hsite : Site arena roots hoist id place)
    (hge : arena.size ≤ id.index) :
    (∃ parent slot name, place = .slot parent slot ∧ arena.Reaches roots parent ∧
      hoist.arena.child? parent slot = some id ∧ hoist.arena.node? id = some (.ident name)) ∨
    (∃ promotion declarator, place = .root promotion.root ∧
      Declaring arena hoist promotion id declarator) ∨
    ∃ promotion decl, place = .slot decl 0 ∧ Declaring arena hoist promotion decl id := by
  cases hsite with
  | kept hoccurs _ => exact absurd (hclosed.lt_size hoccurs.reaches) (Nat.not_lt.2 hge)
  | reference hparent _ _ hident _ hnode =>
    exact .inl ⟨_, _, _, rfl, hparent, hident, hnode⟩
  | decl hdecl => exact .inr (.inl ⟨_, _, rfl, hdecl⟩)
  | declarator hdecl => exact .inr (.inr ⟨_, _, rfl, hdecl⟩)
  | hoisted hdecl =>
    exact absurd (hclosed.lt_size (h.node_reached hdecl.mem)) (Nat.not_lt.2 hge)

/-- A node has one site, since each of the kinds of sites is kept for one place of the node. -/
theorem site_unique (h : Unfolded arena roots names hoist) (hclosed : arena.Closed roots)
    {id : NodeId} {place place' : Occurrence} (hsite : Site arena roots hoist id place)
    (hsite' : Site arena roots hoist id place') : place = place' := by
  by_cases hlt : id.index < arena.size
  · -- An older node is shared or it is not, whichever of its places is looked at.
    rcases h.site_of_old hsite hlt with ⟨hoccurs, hunshared⟩ |
      ⟨hshared, promotion, decl, declarator, hdecl, hnode, rfl⟩ <;>
      rcases h.site_of_old hsite' hlt with ⟨hoccurs', hunshared'⟩ |
        ⟨hshared', promotion', decl', declarator', hdecl', hnode', rfl⟩
    · exact Arena.place_unique_of_not_shared hunshared hoccurs hoccurs'
    · exact absurd hshared' hunshared
    · exact absurd hshared hunshared'
    · obtain rfl := h.node_inj hdecl.mem hdecl'.mem (hnode.trans hnode'.symm)
      obtain rfl := hdecl.decl_eq hdecl'
      rw [hdecl.declarator_eq hdecl']
  · -- The kind of a new node tells which of the three it is.
    have hge := Nat.not_lt.1 hlt
    rcases h.site_of_new hclosed hsite hge with ⟨parent, slot, name, rfl, hparent, hident, hnode⟩ |
      ⟨promotion, declarator, rfl, hdecl⟩ | ⟨promotion, decl, rfl, hdecl⟩ <;>
      rcases h.site_of_new hclosed hsite' hge with
        ⟨parent', slot', name', rfl, hparent', hident', hnode'⟩ |
        ⟨promotion', declarator', rfl, hdecl'⟩ | ⟨promotion', decl', rfl, hdecl'⟩
    · obtain ⟨rfl, rfl⟩ := h.ident_unique hparent hparent' hident hident' hge
      rfl
    · exact nomatch hnode.symm.trans hdecl'.decl_node
    · exact nomatch hnode.symm.trans hdecl'.declarator_node
    · exact nomatch hnode'.symm.trans hdecl.decl_node
    · obtain rfl := hdecl.declarator_eq hdecl'
      rw [hdecl.promotion_eq h hdecl']
    · exact nomatch hdecl.decl_node.symm.trans hdecl'.declarator_node
    · exact nomatch hnode'.symm.trans hdecl.declarator_node
    · exact nomatch hdecl.declarator_node.symm.trans hdecl'.decl_node
    · obtain rfl := hdecl.promotion_eq h hdecl'
      rw [hdecl.decl_eq hdecl']

/-- No node occurs twice in the unfolded graph. -/
theorem place_unique (h : Unfolded arena roots names hoist) (hclosed : arena.Closed roots)
    {id : NodeId} {place place' : Occurrence}
    (hoccurs : hoist.arena.Occurs hoist.roots.toList id place)
    (hoccurs' : hoist.arena.Occurs hoist.roots.toList id place') : place = place' :=
  h.site_unique hclosed ((h.occurs_iff hclosed).1 hoccurs) ((h.occurs_iff hclosed).1 hoccurs')

end Unfolded

end Semblance.Hoist
