import Semblance.Proofs.Hoist.Step

/-!
# The arena during a walk

A walk changes the arena it started from in two ways only: child slots of nodes that are reached
come to hold references to hoisted nodes, and new nodes are allocated for references and
declarations. `Rewrites` says this of any state of a walk, together with the list of statements, the
supply of names and the list of references, which change along with the arena.

## Key results

- `Rewrites.start`: a walk starts from the arena itself
- `Rewrites.linked`: putting in a reference keeps the relation
- `Rewrites.promoted`: so does hoisting a node
- `links_linked`, `links_promoted`: which slots hold references after such a step
-/

namespace Semblance

/-- In `out` a slot holds a reference by name that `arena` does not have. -/
def Arena.Links (arena out : Arena) (parent : NodeId) (slot : Nat) (name : String) : Prop :=
  ∃ ident, out.child? parent slot = some ident ∧ arena.size ≤ ident.index ∧
    out.node? ident = some (.ident name)

/-- In `out` there is a declaration `var name = node` of two nodes that `arena` does not have. -/
def Arena.DeclaresAnew (arena out : Arena) (decl : NodeId) (name : String) (node : NodeId) : Prop :=
  ∃ declarator, arena.size ≤ decl.index ∧ arena.size ≤ declarator.index ∧
    out.node? decl = some (.varDecl #[declarator]) ∧
    out.node? declarator = some (.declarator name (some node))

namespace Hoist

/-- What a walk from `roots` in `arena` has done to arena, statements and names so far. -/
structure Rewrites (arena : Arena) (roots : List NodeId) (names : NameSupply) (hoist : Hoist) :
    Prop where
  size_le : arena.size ≤ hoist.arena.size
  hint_eq : ∀ id, hoist.arena.hint id = arena.hint id
  skeleton_eq : ∀ {id node}, arena.node? id = some node →
    ∃ node', hoist.arena.node? id = some node' ∧ node'.skeleton = node.skeleton
  /-- What is not reached stays as it is. -/
  unreached : ∀ {id}, id.index < arena.size → ¬ arena.Reaches roots id →
    hoist.arena.node? id = arena.node? id
  /-- A slot holds its child, or a reference to its child where that was hoisted. -/
  slot : ∀ {parent slot child}, arena.Reaches roots parent →
    arena.child? parent slot = some child → hoist.arena.child? parent slot = some child ∨
      ∃ promotion ∈ hoist.promotions, promotion.node = child ∧
        arena.Links hoist.arena parent slot promotion.name
  /-- No reference is in two slots. -/
  ident_unique : ∀ {parent slot parent' slot' ident}, arena.Reaches roots parent →
    arena.Reaches roots parent' → hoist.arena.child? parent slot = some ident →
    hoist.arena.child? parent' slot' = some ident → arena.size ≤ ident.index →
    parent = parent' ∧ slot = slot'
  roots_size : hoist.roots.size = roots.length + hoist.promotions.size
  roots_getElem? : ∀ {position}, position < roots.length →
    hoist.roots[position]? = roots[position]?
  /-- Each hoisted node has a declaration, in the order of hoisting. -/
  declared : ∀ {k promotion}, hoist.promotions[k]? = some promotion →
    promotion.root = roots.length + k ∧ ∃ decl, hoist.roots[promotion.root]? = some decl ∧
      arena.DeclaresAnew hoist.arena decl promotion.name promotion.node
  node_reached : ∀ {promotion}, promotion ∈ hoist.promotions → arena.Reaches roots promotion.node
  node_inj : ∀ {promotion promotion'}, promotion ∈ hoist.promotions →
    promotion' ∈ hoist.promotions → promotion.node = promotion'.node → promotion = promotion'
  name_inj : ∀ {promotion promotion'}, promotion ∈ hoist.promotions →
    promotion' ∈ hoist.promotions → promotion.name = promotion'.name → promotion = promotion'
  name_fresh : ∀ {promotion}, promotion ∈ hoist.promotions → names.isTaken promotion.name = false
  /-- The name of a hoisted node comes from its hint. -/
  name_drawn : ∀ {promotion}, promotion ∈ hoist.promotions →
    ∃ supply rest : NameSupply,
      supply.fresh? (arena.hint promotion.node) = some (promotion.name, rest)
  names_iff : ∀ name, hoist.names.isTaken name = true ↔
    names.isTaken name = true ∨ ∃ promotion ∈ hoist.promotions, promotion.name = name
  references_iff : ∀ parent root, (parent, root) ∈ hoist.references ↔
    arena.Reaches roots parent ∧ ∃ slot, ∃ promotion ∈ hoist.promotions, promotion.root = root ∧
      arena.child? parent slot = some promotion.node ∧
      arena.Links hoist.arena parent slot promotion.name

variable {arena : Arena} {roots : List NodeId} {names : NameSupply} {hoist hoist' : Hoist}

/-- A walk starts from the arena itself. -/
theorem Rewrites.start (hclosed : arena.Closed roots) :
    Rewrites arena roots names { arena, roots := roots.toArray, names } where
  size_le := Nat.le_refl _
  hint_eq _ := rfl
  skeleton_eq {_ node} hnode := ⟨node, hnode, rfl⟩
  unreached _ _ := rfl
  slot _ hchild := .inl hchild
  ident_unique hparent _ hchild _ hge :=
    absurd (hclosed.lt_size (.child hparent hchild)) (Nat.not_lt.2 hge)
  roots_size := by simp
  roots_getElem? _ := by simp
  declared h := by simp at h
  node_reached h := by simp at h
  node_inj h := by simp at h
  name_inj h := by simp at h
  name_fresh h := by simp at h
  name_drawn h := by simp at h
  names_iff _ := by simp
  references_iff _ _ := by simp

namespace Rewrites

/-- Slots are occupied as they were. -/
theorem child?_isSome (h : Rewrites arena roots names hoist) {parent : NodeId}
    (hparent : parent.index < arena.size) (slot : Nat) :
    (hoist.arena.child? parent slot).isSome = (arena.child? parent slot).isSome := by
  have hnode : arena.node? parent = some arena.nodes[parent.index] :=
    Array.getElem?_eq_getElem hparent
  obtain ⟨node', hnode', hskeleton⟩ := h.skeleton_eq hnode
  rw [Arena.child?_of_node? hnode', Arena.child?_of_node? hnode]
  exact Node.child?_isSome_of_skeleton_eq hskeleton slot

/-- What a slot of a reached node holds is allocated. -/
theorem child_lt (h : Rewrites arena roots names hoist) (hclosed : arena.Closed roots)
    {parent child : NodeId} {slot : Nat} (hparent : arena.Reaches roots parent)
    (hchild : hoist.arena.child? parent slot = some child) :
    child.index < hoist.arena.size := by
  have hsome := h.child?_isSome (hclosed.lt_size hparent) slot
  rw [hchild, Option.isSome_some] at hsome
  obtain ⟨former, hformer⟩ := Option.isSome_iff_exists.1 hsome.symm
  -- It is the child of the start, or a reference.
  rcases h.slot hparent hformer with hsame | ⟨promotion, _, _, ident, hident, _, hnode⟩
  · obtain rfl := Option.some.inj (hchild.symm.trans hsame)
    exact Nat.lt_of_lt_of_le (hclosed.lt_size (.child hparent hformer)) h.size_le
  · obtain rfl := Option.some.inj (hchild.symm.trans hident)
    exact Arena.lt_size_of_node? hnode

/-- A slot with a reference in it holds no child of the arena that the walk started from. -/
theorem not_links (hclosed : arena.Closed roots) {parent child : NodeId} {slot : Nat}
    {name : String} (hparent : arena.Reaches roots parent)
    (hchild : arena.child? parent slot = some child)
    (hsame : hoist.arena.child? parent slot = some child) :
    ¬ arena.Links hoist.arena parent slot name := by
  rintro ⟨ident, hident, hge, _⟩
  obtain rfl := Option.some.inj (hsame.symm.trans hident)
  exact Nat.not_lt.2 hge (hclosed.lt_size (.child hparent hchild))

/-- A declaration stays while older nodes beyond the arena stay. -/
theorem declaresAnew_of_frame (hframe : ∀ id, arena.size ≤ id.index →
      id.index < hoist.arena.size → hoist'.arena.node? id = hoist.arena.node? id)
    {decl node : NodeId} {name : String}
    (hdecl : arena.DeclaresAnew hoist.arena decl name node) :
    arena.DeclaresAnew hoist'.arena decl name node := by
  obtain ⟨declarator, hge, hge', hnode, hnode'⟩ := hdecl
  refine ⟨declarator, hge, hge', ?_, ?_⟩
  · rw [hframe _ hge (Arena.lt_size_of_node? hnode), hnode]
  · rw [hframe _ hge' (Arena.lt_size_of_node? hnode'), hnode']

/-- References in slots that stay are references as before. -/
theorem links_of_frame (h : Rewrites arena roots names hoist) (hclosed : arena.Closed roots)
    (hframe : ∀ id, arena.size ≤ id.index →
      id.index < hoist.arena.size → hoist'.arena.node? id = hoist.arena.node? id)
    {parent : NodeId} {slot : Nat} {name : String} (hparent : arena.Reaches roots parent)
    (hchild : hoist'.arena.child? parent slot = hoist.arena.child? parent slot) :
    arena.Links hoist'.arena parent slot name ↔ arena.Links hoist.arena parent slot name := by
  refine exists_congr fun ident => ?_
  rw [hchild]
  refine and_congr_right fun hident => and_congr_right fun hge => ?_
  rw [hframe ident hge (h.child_lt hclosed hparent hident)]

end Rewrites

/-! ### Putting in a reference -/

section Linked

variable {promotion : Promotion} {parent : NodeId} {slot : Nat}

/-- The slot has the reference, which is the new node. -/
theorem Linked.child?_self (hlink : hoist.Linked promotion parent slot hoist') :
    hoist'.arena.child? parent slot = some ⟨hoist.arena.size⟩ := by
  obtain ⟨node, node', _, hset, hnode'⟩ := hlink.changed
  rw [Arena.child?_of_node? hnode', Node.child?_setChild? hset, if_pos rfl]

/-- Other slots of the nodes that were there are left alone. -/
theorem Linked.child?_of_ne (hlink : hoist.Linked promotion parent slot hoist') {other : NodeId}
    {slot' : Nat} (hlt : other.index < hoist.arena.size) (hne : ¬ (other = parent ∧ slot' = slot)) :
    hoist'.arena.child? other slot' = hoist.arena.child? other slot' := by
  by_cases hother : other = parent
  · subst hother
    obtain ⟨node, node', hnode, hset, hnode'⟩ := hlink.changed
    rw [Arena.child?_of_node? hnode', Arena.child?_of_node? hnode, Node.child?_setChild? hset,
      if_neg fun hslot => hne ⟨rfl, hslot⟩]
  · rw [Arena.child?, hlink.other other hother hlt, Arena.child?]

/-- The slot is linked to the name, since the reference was put in after the start. -/
theorem Linked.links_self (hlink : hoist.Linked promotion parent slot hoist')
    (hle : arena.size ≤ hoist.arena.size) :
    arena.Links hoist'.arena parent slot promotion.name :=
  ⟨⟨hoist.arena.size⟩, hlink.child?_self, hle, hlink.ident⟩

/-- Only nodes that are reached are linked, so the nodes of references and declarations stay. -/
theorem Linked.frame (hlink : hoist.Linked promotion parent slot hoist')
    (hclosed : arena.Closed roots) (hparent : arena.Reaches roots parent) (id : NodeId)
    (hge : arena.size ≤ id.index) (hlt : id.index < hoist.arena.size) :
    hoist'.arena.node? id = hoist.arena.node? id := by
  refine hlink.other id ?_ hlt
  rintro rfl
  exact Nat.not_lt.2 hge (hclosed.lt_size hparent)

/-- Other slots hold references as before. -/
theorem links_linked (h : Rewrites arena roots names hoist) (hclosed : arena.Closed roots)
    (hlink : hoist.Linked promotion parent slot hoist') (hparent : arena.Reaches roots parent)
    {other : NodeId} {slot' : Nat} {name : String} (hother : arena.Reaches roots other)
    (hne : ¬ (other = parent ∧ slot' = slot)) :
    arena.Links hoist'.arena other slot' name ↔ arena.Links hoist.arena other slot' name :=
  h.links_of_frame hclosed (hlink.frame hclosed hparent) hother
    (hlink.child?_of_ne (Nat.lt_of_lt_of_le (hclosed.lt_size hother) h.size_le) hne)

/-- Putting in a reference keeps the relation. -/
theorem Rewrites.linked (h : Rewrites arena roots names hoist) (hclosed : arena.Closed roots)
    (hlink : hoist.Linked promotion parent slot hoist') (hmem : promotion ∈ hoist.promotions)
    (hparent : arena.Reaches roots parent)
    (hchild : arena.child? parent slot = some promotion.node) :
    Rewrites arena roots names hoist' := by
  have hframe := hlink.frame hclosed hparent
  have hlt {id : NodeId} (hid : id.index < arena.size) : id.index < hoist.arena.size :=
    Nat.lt_of_lt_of_le hid h.size_le
  -- The new reference is in no other slot, since it was not allocated before.
  have hnew {other : NodeId} {slot' : Nat} (hother : arena.Reaches roots other)
      (hhere : hoist'.arena.child? other slot' = some ⟨hoist.arena.size⟩) :
      other = parent ∧ slot' = slot := by
    refine Decidable.byContradiction fun hne => ?_
    rw [hlink.child?_of_ne (hlt (hclosed.lt_size hother)) hne] at hhere
    exact Nat.lt_irrefl _ (h.child_lt hclosed hother hhere)
  constructor
  case size_le =>
    have := h.size_le
    rw [hlink.size_eq]
    omega
  case hint_eq =>
    intro id
    rw [hlink.hint_eq, h.hint_eq]
  case skeleton_eq =>
    intro id node hnode
    obtain ⟨node', hnode', hskeleton⟩ := h.skeleton_eq hnode
    by_cases hid : id = parent
    · -- Replacing a child keeps the skeleton.
      subst hid
      obtain ⟨former, after, hformer, hset, hafter⟩ := hlink.changed
      obtain rfl := Option.some.inj (hformer.symm.trans hnode')
      exact ⟨after, hafter, (Node.skeleton_setChild? hset).trans hskeleton⟩
    · exact ⟨node', by rw [hlink.other id hid (Arena.lt_size_of_node? hnode'), hnode'], hskeleton⟩
  case unreached =>
    intro id hid hunreached
    rw [hlink.other id _ (hlt hid), h.unreached hid hunreached]
    rintro rfl
    exact hunreached hparent
  case slot =>
    intro other slot' child hother hformer
    rw [hlink.promotions_eq]
    by_cases hhere : other = parent ∧ slot' = slot
    · -- The slot that was linked.
      obtain ⟨rfl, rfl⟩ := hhere
      obtain rfl := Option.some.inj (hchild.symm.trans hformer)
      exact .inr ⟨promotion, hmem, rfl, hlink.links_self h.size_le⟩
    · rw [hlink.child?_of_ne (hlt (hclosed.lt_size hother)) hhere]
      refine (h.slot hother hformer).imp id ?_
      rintro ⟨promotion', hmem', hnode, hlinks⟩
      exact ⟨promotion', hmem', hnode, (links_linked h hclosed hlink hparent hother hhere).2 hlinks⟩
  case ident_unique =>
    intro other slot₁ other' slot₂ ident hother hother' hident hident' hge
    by_cases hfresh : ident = ⟨hoist.arena.size⟩
    · -- The new reference is in the linked slot only.
      subst hfresh
      obtain ⟨rfl, rfl⟩ := hnew hother hident
      obtain ⟨rfl, rfl⟩ := hnew hother' hident'
      exact ⟨rfl, rfl⟩
    · have hold {other : NodeId} {slot' : Nat} (hother : arena.Reaches roots other)
          (hhere : hoist'.arena.child? other slot' = some ident) :
          hoist.arena.child? other slot' = some ident := by
        rw [← hlink.child?_of_ne (hlt (hclosed.lt_size hother)), hhere]
        rintro ⟨rfl, rfl⟩
        exact hfresh (Option.some.inj (hhere.symm.trans hlink.child?_self))
      exact h.ident_unique hother hother' (hold hother hident) (hold hother' hident') hge
  case roots_size => rw [hlink.roots_eq, hlink.promotions_eq, h.roots_size]
  case roots_getElem? =>
    intro position hposition
    rw [hlink.roots_eq, h.roots_getElem? hposition]
  case declared =>
    intro k promotion' hk
    rw [hlink.promotions_eq] at hk
    obtain ⟨hroot, decl, hdecl, hnodes⟩ := h.declared hk
    exact ⟨hroot, decl, by rw [hlink.roots_eq, hdecl], declaresAnew_of_frame hframe hnodes⟩
  case references_iff =>
    intro other root
    rw [hlink.references_eq, Array.mem_push, h.references_iff, hlink.promotions_eq]
    constructor
    · -- A reference is noted that was noted before, or the new one.
      rintro (⟨hother, slot', promotion', hmem', hroot, hformer, hlinks⟩ | hpushed)
      · refine ⟨hother, slot', promotion', hmem', hroot, hformer, ?_⟩
        by_cases hhere : other = parent ∧ slot' = slot
        · obtain ⟨rfl, rfl⟩ := hhere
          rw [← h.node_inj hmem hmem' (Option.some.inj (hchild.symm.trans hformer))]
          exact hlink.links_self h.size_le
        · exact (links_linked h hclosed hlink hparent hother hhere).2 hlinks
      · obtain ⟨rfl, rfl⟩ := Prod.mk.inj hpushed
        exact ⟨hparent, slot, promotion, hmem, rfl, hchild, hlink.links_self h.size_le⟩
    · -- A slot with a reference in it was linked before, or just now.
      rintro ⟨hother, slot', promotion', hmem', hroot, hformer, hlinks⟩
      by_cases hhere : other = parent ∧ slot' = slot
      · obtain ⟨rfl, rfl⟩ := hhere
        rw [h.node_inj hmem hmem' (Option.some.inj (hchild.symm.trans hformer)), hroot]
        exact .inr rfl
      · exact .inl ⟨hother, slot', promotion', hmem', hroot, hformer,
          (links_linked h hclosed hlink hparent hother hhere).1 hlinks⟩
  all_goals rw [hlink.promotions_eq]
  case node_reached => exact h.node_reached
  case node_inj => exact h.node_inj
  case name_inj => exact h.name_inj
  case name_fresh => exact h.name_fresh
  case name_drawn => exact h.name_drawn
  case names_iff => rw [hlink.names_eq]; exact h.names_iff

end Linked

/-! ### Hoisting a node -/

section Promoted

variable {promotion : Promotion} {id : NodeId} {node : Node} {first : Occurrence}

/-- All older nodes stay. -/
theorem node?_promote (hstep : hoist.promote id node first = .ok (promotion, hoist'))
    {other : NodeId} (hlt : other.index < hoist.arena.size) :
    hoist'.arena.node? other = hoist.arena.node? other := by
  obtain ⟨_, _, name, names', _, _, rfl⟩ := promote_eq_ok.1 hstep
  exact Arena.node?_of_lt_varDecl hlt

/-- A declaration leaves the slots of all nodes that were there alone. -/
theorem child?_promote (hstep : hoist.promote id node first = .ok (promotion, hoist'))
    {other : NodeId} (hlt : other.index < hoist.arena.size) (slot : Nat) :
    hoist'.arena.child? other slot = hoist.arena.child? other slot := by
  rw [Arena.child?, node?_promote hstep hlt, Arena.child?]

/-- All slots hold references as before. -/
theorem links_promoted (h : Rewrites arena roots names hoist) (hclosed : arena.Closed roots)
    (hstep : hoist.promote id node first = .ok (promotion, hoist')) {parent : NodeId} {slot : Nat}
    {name : String} (hparent : arena.Reaches roots parent) :
    arena.Links hoist'.arena parent slot name ↔ arena.Links hoist.arena parent slot name :=
  h.links_of_frame hclosed (fun _ _ hlt => node?_promote hstep hlt) hparent
    (child?_promote hstep (Nat.lt_of_lt_of_le (hclosed.lt_size hparent) h.size_le) slot)

/-- Hoisting a node keeps the relation. -/
theorem Rewrites.promoted (h : Rewrites arena roots names hoist) (hclosed : arena.Closed roots)
    (hstep : hoist.promote id node first = .ok (promotion, hoist'))
    (hreached : arena.Reaches roots id)
    (hnew : ∀ promotion ∈ hoist.promotions, promotion.node ≠ id) :
    Rewrites arena roots names hoist' := by
  have hlinks {parent : NodeId} (hparent : arena.Reaches roots parent) (slot : Nat)
      (name : String) : arena.Links hoist'.arena parent slot name ↔
        arena.Links hoist.arena parent slot name :=
    links_promoted h hclosed hstep hparent
  have hold {other : NodeId} (hlt : other.index < arena.size) :=
    node?_promote hstep (Nat.lt_of_lt_of_le hlt h.size_le)
  have hchild {parent : NodeId} (hparent : arena.Reaches roots parent) (slot : Nat) :=
    child?_promote hstep (Nat.lt_of_lt_of_le (hclosed.lt_size hparent) h.size_le) slot
  have hframe (other : NodeId) (_ : arena.size ≤ other.index)
      (hlt : other.index < hoist.arena.size) := node?_promote hstep hlt
  obtain ⟨_, _, name, names', hdrawn, hpromotion, hhoist'⟩ := promote_eq_ok.1 hstep
  have hpromotions : hoist'.promotions = hoist.promotions.push promotion := by rw [hhoist']
  have hroots : hoist'.roots = hoist.roots.push ⟨hoist.arena.size + 1⟩ := by rw [hhoist']
  have hfree : hoist.names.isTaken name = false := NameSupply.isTaken_fresh hdrawn
  have hnode : promotion.node = id := by rw [hpromotion]
  have hname : promotion.name = name := by rw [hpromotion]
  -- The new name differs from those in use at the start and from those of earlier declarations.
  have hname_new : ∀ promotion' ∈ hoist.promotions, promotion'.name ≠ name := by
    rintro promotion' hmem rfl
    exact Bool.eq_false_iff.1 hfree ((h.names_iff _).2 (.inr ⟨promotion', hmem, rfl⟩))
  constructor
  case size_le =>
    have := h.size_le
    rw [hhoist', Arena.size_varDecl]
    omega
  case hint_eq =>
    intro other
    rw [hhoist', Arena.hint_varDecl, h.hint_eq]
  case skeleton_eq =>
    intro other former hformer
    rw [hold (Arena.lt_size_of_node? hformer)]
    exact h.skeleton_eq hformer
  case unreached =>
    intro other hlt hunreached
    rw [hold hlt, h.unreached hlt hunreached]
  case slot =>
    intro parent slot child hparent hformer
    rw [hchild hparent, hpromotions]
    refine (h.slot hparent hformer).imp (fun hsame => hsame) ?_
    rintro ⟨promotion', hmem, hnode', hlinks'⟩
    exact ⟨promotion', Array.mem_push.2 (.inl hmem), hnode', (hlinks hparent _ _).2 hlinks'⟩
  case ident_unique =>
    intro parent slot parent' slot' ident hparent hparent' hident hident' hge
    rw [hchild hparent] at hident
    rw [hchild hparent'] at hident'
    exact h.ident_unique hparent hparent' hident hident' hge
  case roots_size =>
    have := h.roots_size
    rw [hroots, hpromotions, Array.size_push, Array.size_push]
    omega
  case roots_getElem? =>
    intro position hposition
    have := h.roots_size
    rw [hroots, Array.getElem?_push, if_neg (by omega), h.roots_getElem? hposition]
  case declared =>
    intro k promotion' hk
    rw [hpromotions, Array.getElem?_push] at hk
    split at hk
    · next hlast =>
      -- The new declaration is the last statement, made of the two newest nodes.
      obtain rfl := Option.some.inj hk
      have hroot : promotion.root = hoist.roots.size := by rw [hpromotion]
      refine ⟨by rw [hroot, h.roots_size, hlast], ⟨hoist.arena.size + 1⟩, ?_, ?_⟩
      · rw [hroots, hroot, Array.getElem?_push, if_pos rfl]
      · have := h.size_le
        refine ⟨⟨hoist.arena.size⟩, Nat.le_succ_of_le this, this, ?_, ?_⟩
        · rw [hhoist', Arena.node?_varDecl, if_pos rfl]
        · rw [hhoist', hname, hnode, Arena.node?_varDecl, if_neg (by simp), if_pos rfl]
    · -- Earlier declarations stay where they are.
      obtain ⟨hroot, decl, hdecl, hnodes⟩ := h.declared hk
      refine ⟨hroot, decl, ?_, declaresAnew_of_frame hframe hnodes⟩
      have hlt := (Array.getElem?_eq_some_iff.1 hdecl).1
      rw [hroots, Array.getElem?_push, if_neg (by omega), hdecl]
  case names_iff =>
    intro other
    have hnames : hoist'.names = names' := by rw [hhoist']
    rw [hnames, NameSupply.fresh_isTaken_iff hdrawn, h.names_iff, hpromotions]
    simp only [Array.mem_push, or_and_right, exists_or, exists_eq_left, hname]
    rw [or_comm, or_assoc, @eq_comm _ other]
  case references_iff =>
    intro parent root
    have hreferences : hoist'.references = hoist.references := by rw [hhoist']
    rw [hreferences, h.references_iff, hpromotions]
    refine and_congr_right fun hparent => exists_congr fun slot => ?_
    constructor
    · rintro ⟨promotion', hmem, hroot, hformer, hlinks'⟩
      have hmem' : promotion' ∈ hoist.promotions.push promotion := Array.mem_push.2 (.inl hmem)
      exact ⟨promotion', hmem', hroot, hformer, (hlinks hparent _ _).2 hlinks'⟩
    · rintro ⟨promotion', hmem, hroot, hformer, hlinks'⟩
      rw [hlinks hparent] at hlinks'
      rcases Array.mem_push.1 hmem with hmem | rfl
      · exact ⟨promotion', hmem, hroot, hformer, hlinks'⟩
      · -- No slot refers to the new declaration yet.
        obtain ⟨promotion'', hmem', hnode'', _⟩ := (h.slot hparent hformer).resolve_left
          fun hsame => not_links hclosed hparent hformer hsame hlinks'
        exact absurd (hnode''.trans hnode) (hnew promotion'' hmem')
  all_goals simp only [hpromotions, Array.mem_push]
  case node_reached =>
    rintro promotion' (hmem | rfl)
    · exact h.node_reached hmem
    · rw [hnode]
      exact hreached
  case node_inj =>
    rintro promotion₁ promotion₂ (hmem₁ | rfl) (hmem₂ | rfl) heq
    · exact h.node_inj hmem₁ hmem₂ heq
    · exact absurd (heq.trans hnode) (hnew _ hmem₁)
    · exact absurd (heq.symm.trans hnode) (hnew _ hmem₂)
    · rfl
  case name_inj =>
    rintro promotion₁ promotion₂ (hmem₁ | rfl) (hmem₂ | rfl) heq
    · exact h.name_inj hmem₁ hmem₂ heq
    · exact absurd (heq.trans hname) (hname_new _ hmem₁)
    · exact absurd (heq.symm.trans hname) (hname_new _ hmem₂)
    · rfl
  case name_fresh =>
    rintro promotion' (hmem | rfl)
    · exact h.name_fresh hmem
    · rw [hname]
      refine Bool.eq_false_iff.2 fun htaken => ?_
      exact Bool.eq_false_iff.1 hfree ((h.names_iff _).2 (.inl htaken))
  case name_drawn =>
    rintro promotion' (hmem | rfl)
    · exact h.name_drawn hmem
    · rw [hnode, hname, ← h.hint_eq]
      exact ⟨hoist.names, names', hdrawn⟩

end Promoted

/-- Meeting a node changes none of this. -/
theorem Rewrites.meet (h : Rewrites arena roots names hoist) (id : NodeId) (place : Occurrence) :
    Rewrites arena roots names (hoist.meet id place) :=
  { h with }

end Hoist

end Semblance
