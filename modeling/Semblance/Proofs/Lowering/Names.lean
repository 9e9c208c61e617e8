import Semblance.Proofs.Lowering.Forest

/-!
# Names in a lowered program

Lowering keeps the declarators of a graph, and it adds one for each hoisted node under a name that
was free. So names tell declarators apart after lowering if they did so before, and each reference
that was put in has its declarator.

## Key results

- `lower_declares_cases`: a declarator of a lowered program is an old one, or its name is new
- `lower_declares_unique`: names tell declarators apart
- `lower_reference_declares`: new references are declared
-/

namespace Semblance

/-- A declarator stands in a program under a name. -/
def Program.Declares (program : Program) (declarator : NodeId) (name : String) : Prop :=
  program.arena.Reaches program.body declarator ∧
    ∃ init, program.arena.node? declarator = some (.declarator name init)

/-- A declarator without an initializer stands in a program under a name. -/
def Program.DeclaresBare (program : Program) (declarator : NodeId) (name : String) : Prop :=
  program.arena.Reaches program.body declarator ∧
    program.arena.node? declarator = some (.declarator name none)

variable {arena : Arena} {roots : List NodeId} {names : NameSupply} {lowering : Lowering}
  {hoist : Hoist} {id declarator declarator' leaf : NodeId} {name : String} {init : Option NodeId}

/-- The order of the statements makes no difference to what is reached from them. -/
theorem reaches_program_body (arena : Arena) {roots : Array NodeId} (deps : Array (Array Nat)) :
    arena.Reaches (Program.ofOrder arena roots
      (Schedule.ofDeps roots.size deps).order.toList).body id ↔ arena.Reaches roots.toList id := by
  have hperm := program_body_perm arena roots deps
  exact ⟨fun hid => hid.mono fun _ hmem => .root (hperm.mem_iff.1 hmem),
    fun hid => hid.mono fun _ hmem => .root (hperm.mem_iff.2 hmem)⟩

namespace Hoist.Unfolded

/-- A declarator is an old one, or that of a hoisted node. -/
theorem declarator_cases (h : Unfolded arena roots names hoist) (hclosed : arena.Closed roots)
    (hid : hoist.arena.Reaches hoist.roots.toList declarator)
    (hnode : hoist.arena.node? declarator = some (.declarator name init)) :
    (∃ init', arena.node? declarator = some (.declarator name init')) ∨
      ∃ promotion decl, Declaring arena hoist promotion decl declarator ∧
        promotion.name = name := by
  -- A given declarator is rewritten in its initializer only.
  have hold (hreached : arena.Reaches roots declarator) :
      ∃ init', arena.node? declarator = some (.declarator name init') := by
    obtain ⟨former, hformer⟩ := Option.isSome_iff_exists.1 (hclosed _ hreached)
    obtain ⟨node, hnode', hskeleton⟩ := h.skeleton_eq hformer
    obtain rfl := Option.some.inj (hnode.symm.trans hnode')
    obtain ⟨init', rfl⟩ := Node.eq_declarator_of_skeleton_eq hskeleton.symm
    exact ⟨init', hformer⟩
  obtain ⟨place, hsite⟩ := h.exists_site hclosed hid
  cases hsite with
  | kept hoccurs _ => exact .inl (hold hoccurs.reaches)
  | reference _ _ _ _ _ hident => exact nomatch hnode.symm.trans hident
  | decl hdecl => exact nomatch hnode.symm.trans hdecl.decl_node
  | declarator hdecl =>
    have heq := Option.some.inj (hnode.symm.trans hdecl.declarator_node)
    exact .inr ⟨_, _, hdecl, (Node.declarator.inj heq).1.symm⟩
  | hoisted hdecl => exact .inl (hold (h.node_reached hdecl.mem))

/-- A new reference is one to a hoisted node. -/
theorem promotion_of_ident (h : Unfolded arena roots names hoist) (hclosed : arena.Closed roots)
    (hleaf : hoist.arena.Reaches hoist.roots.toList leaf) (hnew : arena.size ≤ leaf.index)
    (hnode : hoist.arena.node? leaf = some (.ident name)) :
    ∃ promotion ∈ hoist.promotions, promotion.name = name := by
  obtain ⟨place, hsite⟩ := h.exists_site hclosed hleaf
  cases hsite with
  | kept hoccurs _ => exact absurd (hclosed.lt_size hoccurs.reaches) (Nat.not_lt.2 hnew)
  | reference _ hmem _ _ _ hident =>
    exact ⟨_, hmem, Node.ident.inj (Option.some.inj (hident.symm.trans hnode))⟩
  | decl hdecl => exact nomatch hnode.symm.trans hdecl.decl_node
  | declarator hdecl => exact nomatch hnode.symm.trans hdecl.declarator_node
  | hoisted hdecl =>
    exact absurd (hclosed.lt_size (h.node_reached hdecl.mem)) (Nat.not_lt.2 hnew)

end Hoist.Unfolded

/-- What is old stands in a lowered program if it stood in the graph. -/
theorem lower_reaches_iff (hclosed : arena.Closed roots) (h : arena.lower roots names = .ok lowering)
    (hold : id.index < arena.size) :
    lowering.program.arena.Reaches lowering.program.body id ↔ arena.Reaches roots id := by
  obtain ⟨hoist, _, hunfolded, _, rfl⟩ := lower_eq_ok hclosed h
  refine (reaches_program_body ..).trans ⟨fun hid => ?_, hunfolded.reaches⟩
  obtain ⟨place, hsite⟩ := hunfolded.exists_site hclosed hid
  rcases hunfolded.site_of_old hsite hold with ⟨hoccurs, _⟩ | ⟨⟨_, _, _, hoccurs, _⟩, _⟩
  · exact hoccurs.reaches
  · exact hoccurs.reaches

/-- The statements of a graph are statements of the lowered program. -/
theorem lower_mem_body (hclosed : arena.Closed roots) (h : arena.lower roots names = .ok lowering)
    (hroot : id ∈ roots) : id ∈ lowering.program.body := by
  obtain ⟨hoist, _, hunfolded, _, rfl⟩ := lower_eq_ok hclosed h
  obtain ⟨position, hposition⟩ := List.getElem?_of_mem hroot
  exact (mem_program_body ..).2 ⟨position, hunfolded.root_getElem? hposition⟩

/-- Old nodes keep their kind and their data. -/
theorem lower_skeleton_eq (hclosed : arena.Closed roots)
    (h : arena.lower roots names = .ok lowering) {node : Node} (hnode : arena.node? id = some node) :
    ∃ node', lowering.program.arena.node? id = some node' ∧ node'.skeleton = node.skeleton := by
  obtain ⟨hoist, _, hunfolded, _, rfl⟩ := lower_eq_ok hclosed h
  exact hunfolded.skeleton_eq hnode

/-- What stands in a lowered program stood in the graph, or it belongs to a declaration that lowering
    has added, or it is a reference to one. -/
theorem lower_node?_cases (hclosed : arena.Closed roots)
    (h : arena.lower roots names = .ok lowering) {node : Node}
    (hid : lowering.program.arena.Reaches lowering.program.body id)
    (hnode : lowering.program.arena.node? id = some node) :
    (arena.Reaches roots id ∧ ∃ former, arena.node? id = some former ∧
      node.skeleton = former.skeleton) ∨
      arena.size ≤ id.index ∧ ((∃ name, node = .ident name) ∨
        (∃ declarators, node = .varDecl declarators) ∨
          ∃ name init, node = .declarator name (some init)) := by
  rcases Nat.lt_or_ge id.index arena.size with hold | hnew
  · have hreached := (lower_reaches_iff hclosed h hold).1 hid
    obtain ⟨former, hformer⟩ := Option.isSome_iff_exists.1 (hclosed id hreached)
    obtain ⟨node', hnode', hskeleton⟩ := lower_skeleton_eq hclosed h hformer
    obtain rfl := Option.some.inj (hnode.symm.trans hnode')
    exact .inl ⟨hreached, former, hformer, hskeleton⟩
  · obtain ⟨hoist, _, hunfolded, _, rfl⟩ := lower_eq_ok hclosed h
    -- A new node is a reference or a part of a declaration.
    obtain ⟨place, hsite⟩ := hunfolded.exists_site hclosed ((reaches_program_body ..).1 hid)
    refine .inr ⟨hnew, ?_⟩
    rcases hunfolded.site_of_new hclosed hsite hnew with ⟨_, _, name, _, _, _, hident⟩ |
      ⟨_, _, _, hdecl⟩ | ⟨_, _, _, hdecl⟩
    · exact .inl ⟨name, Option.some.inj (hnode.symm.trans hident)⟩
    · exact .inr (.inl ⟨_, Option.some.inj (hnode.symm.trans hdecl.decl_node)⟩)
    · exact .inr (.inr ⟨_, _, Option.some.inj (hnode.symm.trans hdecl.declarator_node)⟩)

/-- Lowering keeps the declarators without initializers, and it adds none. -/
theorem lower_declaresBare_iff (hclosed : arena.Closed roots)
    (h : arena.lower roots names = .ok lowering) :
    lowering.program.DeclaresBare declarator name ↔
      arena.Reaches roots declarator ∧ arena.node? declarator = some (.declarator name none) := by
  constructor
  · rintro ⟨hid, hnode⟩
    rcases lower_node?_cases hclosed h hid hnode with
      ⟨hreached, former, hformer, hskeleton⟩ | ⟨_, ⟨_, heq⟩ | ⟨_, heq⟩ | ⟨_, _, heq⟩⟩
    · rw [Node.eq_bare_of_skeleton_eq hskeleton.symm] at hformer
      exact ⟨hreached, hformer⟩
    all_goals exact nomatch heq
  · rintro ⟨hreached, hnode⟩
    obtain ⟨node', hnode', hskeleton⟩ := lower_skeleton_eq hclosed h hnode
    obtain rfl := Node.eq_bare_of_skeleton_eq hskeleton
    exact ⟨(lower_reaches_iff hclosed h (Arena.lt_size_of_node? hnode)).2 hreached, hnode'⟩

/-- A child that is not shared stays in its slot. -/
theorem lower_child?_eq (hclosed : arena.Closed roots) (h : arena.lower roots names = .ok lowering)
    {parent child : NodeId} {slot : Nat} (hparent : arena.Reaches roots parent)
    (hchild : arena.child? parent slot = some child) (hshared : ¬ arena.Shared roots child) :
    lowering.program.arena.child? parent slot = some child := by
  obtain ⟨hoist, _, hunfolded, _, rfl⟩ := lower_eq_ok hclosed h
  exact hunfolded.slot_eq hparent hchild hshared

/-- A reference to its declaration takes the place of a shared child. -/
theorem lower_child?_of_shared (hclosed : arena.Closed roots)
    (h : arena.lower roots names = .ok lowering) {parent child : NodeId} {slot : Nat}
    (hparent : arena.Reaches roots parent) (hchild : arena.child? parent slot = some child)
    (hshared : arena.Shared roots child) :
    ∃ decl ∈ lowering.program.body, ∃ name, lowering.program.arena.Declares decl name child ∧
      ∃ reference, lowering.program.arena.child? parent slot = some reference ∧
        lowering.program.arena.node? reference = some (.ident name) := by
  obtain ⟨hoist, _, hunfolded, _, rfl⟩ := lower_eq_ok hclosed h
  obtain ⟨promotion, hmem, rfl⟩ := hunfolded.shared_iff.1 hshared
  obtain ⟨reference, hreference, _, hident⟩ := hunfolded.slot_links hparent hmem hchild
  obtain ⟨decl, declarator, hdecl⟩ := hunfolded.declaring hmem
  exact ⟨decl, (mem_program_body ..).2 ⟨_, hdecl.root⟩, promotion.name,
    ⟨declarator, hdecl.decl_node, hdecl.declarator_node⟩, reference, hreference, hident⟩

/-- A node without shared children is not changed. -/
theorem lower_node?_eq (hclosed : arena.Closed roots) (h : arena.lower roots names = .ok lowering)
    (hid : arena.Reaches roots id) {node : Node} (hnode : arena.node? id = some node)
    (hchildren : ∀ slot child, node.child? slot = some child → ¬ arena.Shared roots child) :
    lowering.program.arena.node? id = some node := by
  obtain ⟨node', hnode', hskeleton⟩ := lower_skeleton_eq hclosed h hnode
  refine hnode'.trans (congrArg some (Node.eq_of_child?_eq hskeleton fun slot => ?_))
  have hslot := Node.child?_isSome_of_skeleton_eq hskeleton slot
  cases hchild : node.child? slot with
  | none => simpa [hchild] using hslot
  | some child =>
    have hkept := lower_child?_eq hclosed h hid ((Arena.child?_of_node? hnode slot).trans hchild)
      (hchildren slot child hchild)
    exact (Arena.child?_of_node? hnode' slot).symm.trans hkept

/-- A declarator of a lowered program is an old one, or its name is new. -/
theorem lower_declares_cases (hclosed : arena.Closed roots)
    (h : arena.lower roots names = .ok lowering)
    (hdeclares : lowering.program.Declares declarator name) :
    (∃ init, arena.node? declarator = some (.declarator name init)) ∨
      names.isTaken name = false := by
  obtain ⟨hoist, _, hunfolded, _, rfl⟩ := lower_eq_ok hclosed h
  obtain ⟨hid, init, hnode⟩ := hdeclares
  rcases hunfolded.declarator_cases hclosed ((reaches_program_body ..).1 hid) hnode with
    hold | ⟨promotion, decl, hdecl, rfl⟩
  · exact .inl hold
  · exact .inr (hunfolded.name_fresh hdecl.mem)

/-- A declarator of a lowered program is an old one, or it holds a hoisted node, and its name follows
    the hint of that node. -/
theorem lower_declares_hinted (hclosed : arena.Closed roots)
    (h : arena.lower roots names = .ok lowering)
    (hdeclares : lowering.program.Declares declarator name) :
    (∃ init, arena.node? declarator = some (.declarator name init)) ∨
      ∃ id hint, lowering.program.arena.child? declarator 0 = some id ∧
        arena.hint id = some hint ∧ NameSupply.Follows name hint := by
  obtain ⟨hoist, _, hunfolded, _, rfl⟩ := lower_eq_ok hclosed h
  obtain ⟨hid, init, hnode⟩ := hdeclares
  rcases hunfolded.declarator_cases hclosed ((reaches_program_body ..).1 hid) hnode with
    hold | ⟨promotion, decl, hdecl, rfl⟩
  · exact .inl hold
  · obtain ⟨supply, rest, hdrawn⟩ := hunfolded.name_drawn hdecl.mem
    obtain ⟨hint, hhint, hfollows⟩ := NameSupply.fresh_follows hdrawn
    exact .inr ⟨promotion.node, hint, Arena.child?_of_node? hdecl.declarator_node 0, hhint, hfollows⟩

/-- A declarator of a lowered program is an old one, or its name follows a hint. -/
theorem lower_declares_follows (hclosed : arena.Closed roots)
    (h : arena.lower roots names = .ok lowering)
    (hdeclares : lowering.program.Declares declarator name) :
    (∃ init, arena.node? declarator = some (.declarator name init)) ∨
      ∃ id hint, arena.hint id = some hint ∧ NameSupply.Follows name hint :=
  (lower_declares_hinted hclosed h hdeclares).imp_right fun ⟨id, hint, _, hnamed⟩ =>
    ⟨id, hint, hnamed⟩

/-- Names tell the declarators of a lowered program apart, if they did so before and were all in
    use. -/
theorem lower_declares_unique (hclosed : arena.Closed roots)
    (h : arena.lower roots names = .ok lowering)
    (htaken : ∀ {id name init}, arena.node? id = some (.declarator name init) →
      names.isTaken name = true)
    (hunique : ∀ {id id' name init init'}, arena.node? id = some (.declarator name init) →
      arena.node? id' = some (.declarator name init') → id = id')
    (hdeclares : lowering.program.Declares declarator name)
    (hdeclares' : lowering.program.Declares declarator' name) : declarator = declarator' := by
  obtain ⟨hoist, _, hunfolded, _, rfl⟩ := lower_eq_ok hclosed h
  obtain ⟨hid, init, hnode⟩ := hdeclares
  obtain ⟨hid', init', hnode'⟩ := hdeclares'
  -- The name of a hoisted node is not the name of an old declarator.
  have hne {id : NodeId} {init : Option NodeId} {promotion : Promotion}
      (hold : arena.node? id = some (.declarator promotion.name init))
      (hmem : promotion ∈ hoist.promotions) : False := by
    have hfresh := hunfolded.name_fresh hmem
    rw [htaken hold] at hfresh
    exact nomatch hfresh
  rcases hunfolded.declarator_cases hclosed ((reaches_program_body ..).1 hid) hnode with
    ⟨_, hold⟩ | ⟨promotion, decl, hdecl, rfl⟩ <;>
    rcases hunfolded.declarator_cases hclosed ((reaches_program_body ..).1 hid') hnode' with
      ⟨_, hold'⟩ | ⟨promotion', decl', hdecl', hname⟩
  · exact hunique hold hold'
  · exact (hne (hname ▸ hold) hdecl'.mem).elim
  · exact (hne hold' hdecl.mem).elim
  · obtain rfl := hunfolded.name_inj hdecl.mem hdecl'.mem hname.symm
    obtain rfl := hdecl.decl_eq hdecl'
    exact hdecl.declarator_eq hdecl'

/-- The declarators of a graph stand in the lowered program. -/
theorem lower_declares_of_reaches (hclosed : arena.Closed roots)
    (h : arena.lower roots names = .ok lowering) (hid : arena.Reaches roots declarator)
    (hnode : arena.node? declarator = some (.declarator name init)) :
    lowering.program.Declares declarator name := by
  obtain ⟨hoist, _, hunfolded, _, rfl⟩ := lower_eq_ok hclosed h
  obtain ⟨node, hnode', hskeleton⟩ := hunfolded.skeleton_eq hnode
  obtain ⟨init', rfl⟩ := Node.eq_declarator_of_skeleton_eq hskeleton
  exact ⟨(reaches_program_body ..).2 (hunfolded.reaches hid), init', hnode'⟩

/-- References of a graph stay what they are. -/
theorem lower_ident (hclosed : arena.Closed roots) (h : arena.lower roots names = .ok lowering)
    (hleaf : arena.node? leaf = some (.ident name)) :
    lowering.program.arena.node? leaf = some (.ident name) := by
  obtain ⟨hoist, _, hunfolded, _, rfl⟩ := lower_eq_ok hclosed h
  obtain ⟨node, hnode, hskeleton⟩ := hunfolded.skeleton_eq hleaf
  obtain rfl := Node.eq_ident_of_skeleton_eq hskeleton
  exact hnode

/-- New references are declared. -/
theorem lower_reference_declares (hclosed : arena.Closed roots)
    (h : arena.lower roots names = .ok lowering)
    (hleaf : lowering.program.arena.Reaches lowering.program.body leaf)
    (hnew : arena.size ≤ leaf.index)
    (hnode : lowering.program.arena.node? leaf = some (.ident name)) :
    ∃ declarator, lowering.program.Declares declarator name := by
  obtain ⟨hoist, _, hunfolded, _, rfl⟩ := lower_eq_ok hclosed h
  obtain ⟨promotion, hmem, rfl⟩ :=
    hunfolded.promotion_of_ident hclosed ((reaches_program_body ..).1 hleaf) hnew hnode
  obtain ⟨decl, declarator, hdecl⟩ := hunfolded.declaring hmem
  exact ⟨declarator, (reaches_program_body ..).2 hdecl.reaches.2.1, _,
    hdecl.declarator_node⟩

end Semblance
