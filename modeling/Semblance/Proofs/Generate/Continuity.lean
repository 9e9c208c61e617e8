import Semblance.Proofs.Generate.Completeness

/-!
# What a generation leaves as it is

Whatever a generation does, nodes stay what they are: containers get filled and declarations get
longer, and all other nodes do not change. Hints come with the nodes that have them, or with chains
of alternatives once these are complete. A builder goes on to know what it knows, and leaves that it
makes are new.

`Builder.Extends` says this of two builders, whatever containers are being filled, so it holds of a
generation in two parts if it holds of both.

## Key results

- `Arena.Stays.node?_eq`: a node that is no container and no declaration stays the same
- `Extends.trans`: a generation in two parts
- `extends_remember`, `extends_declareScope`: what it takes to note something
-/

namespace Semblance

namespace Arena

/-- Nodes stay what they are, and only chains of alternatives get a hint later. -/
structure Stays (arena arena' : Arena) : Prop where
  size : arena.size ≤ arena'.size
  node : ∀ {id node}, arena.node? id = some node → ∃ node', arena'.node? id = some node' ∧
    (node.Fills node' ∨ node.isBinding = true ∧ node'.isBinding = true)
  hint : ∀ {id node}, arena.node? id = some node → (∀ left right, node ≠ .or left right) →
    arena'.hint id = arena.hint id
  /-- Places for hints are made together with the nodes. -/
  hints_size : arena'.hints.size = arena'.nodes.size → arena.hints.size = arena.nodes.size

variable {arena arena' arena'' : Arena} {id : NodeId} {node : Node}

/-- Nodes stay what they are where nothing happens. -/
theorem Stays.rfl : arena.Stays arena :=
  ⟨Nat.le_refl _, fun hnode => ⟨_, hnode, .inl .same⟩, fun _ _ => Eq.refl _, id⟩

/-- Nodes that stay what they are twice do so over both changes. -/
theorem Stays.trans (h : arena.Stays arena') (h' : arena'.Stays arena'') : arena.Stays arena'' where
  size := Nat.le_trans h.size h'.size
  node {id node} hnode := by
    obtain ⟨node', hnode', hchange⟩ := h.node hnode
    obtain ⟨node'', hnode'', hchange'⟩ := h'.node hnode'
    refine ⟨node'', hnode'', ?_⟩
    rcases hchange with hfills | ⟨hbinding, hbinding'⟩
    · rcases hchange' with hfills' | ⟨hbinding', hbinding''⟩
      · exact .inl (hfills.trans hfills')
      · -- What is a declaration now was the same one before.
        have hsame : node' = node := hfills.eq_of_not_isContainer
          (hfills.isContainer_eq ▸ Node.isContainer_of_isBinding hbinding')
        exact .inr ⟨hsame ▸ hbinding', hbinding''⟩
    · rcases hchange' with hfills' | ⟨_, hbinding''⟩
      · have hsame := hfills'.eq_of_not_isContainer (Node.isContainer_of_isBinding hbinding')
        exact .inr ⟨hbinding, hsame ▸ hbinding'⟩
      · exact .inr ⟨hbinding, hbinding''⟩
  hint {id node} hnode hother := by
    obtain ⟨node', hnode', hchange⟩ := h.node hnode
    have hother' : ∀ left right, node' ≠ .or left right := by
      rintro left right rfl
      rcases hchange with hfills | ⟨_, hbinding⟩
      · exact hother left right (hfills.eq_of_not_isContainer (hfills.isContainer_eq ▸ Eq.refl _)).symm
      · cases hbinding
    rw [h'.hint hnode' hother', h.hint hnode hother]
  hints_size hsize := h.hints_size (h'.hints_size hsize)

/-- A node that is no container and no declaration stays the same. -/
theorem Stays.node?_eq (h : arena.Stays arena') (hnode : arena.node? id = some node)
    (hkind : node.isContainer = false) (hbinding : node.isBinding = false) :
    arena'.node? id = some node := by
  obtain ⟨node', hnode', hfills | ⟨hbinding', _⟩⟩ := h.node hnode
  · rwa [hfills.eq_of_not_isContainer hkind] at hnode'
  · cases hbinding.symm.trans hbinding'

/-- A node that is no container and no declaration, and so stays as it is. -/
def IsFixed (arena : Arena) (id : NodeId) : Prop :=
  ∃ node, arena.node? id = some node ∧ node.isContainer = false ∧ node.isBinding = false

/-- A node that stays as it is goes on to do so. -/
theorem Stays.isFixed (h : arena.Stays arena') (hid : arena.IsFixed id) : arena'.IsFixed id := by
  obtain ⟨node, hnode, hkind, hbinding⟩ := hid
  exact ⟨node, h.node?_eq hnode hkind hbinding, hkind, hbinding⟩

/-- A declaration stays one. -/
theorem Stays.isBinding (h : arena.Stays arena') (hnode : arena.node? id = some node)
    (hbinding : node.isBinding = true) :
    ∃ node', arena'.node? id = some node' ∧ node'.isBinding = true := by
  obtain ⟨node', hnode', hfills | ⟨_, hbinding'⟩⟩ := h.node hnode
  · exact ⟨node', hnode', hfills.eq_of_not_isContainer (Node.isContainer_of_isBinding hbinding) ▸
      hbinding⟩
  · exact ⟨node', hnode', hbinding'⟩

/-- An allocation leaves all nodes alone. -/
theorem stays_push (node : Node) (arena : Arena) : arena.Stays (push node arena).2 where
  size := by simp [size_push]
  node hformer := ⟨_, node?_push_of_node? hformer node, .inl .same⟩
  hint _ _ := hint_push node arena _
  hints_size hsize := by simpa [push] using hsize

/-- A hint for one node is none for another. -/
theorem hint_setHint_of_ne {hint : String} {other : NodeId} (hne : id ≠ other) :
    (arena.setHint id hint).hint other = arena.hint other := by
  have hindex : id.index ≠ other.index := fun heq => hne (congrArg NodeId.mk heq)
  rw [Arena.hint, setHint, Array.getElem?_setIfInBounds_ne hindex, Arena.hint]

/-- An allocation with a hint leaves all other nodes and their hints alone. -/
theorem stays_pushHinted (node : Node) (hint : String) (arena : Arena) :
    arena.Stays (pushHinted node hint arena).2 where
  size := (stays_push node arena).size
  node := (stays_push node arena).node
  hint {other former} hformer _ := by
    have hne : (push node arena).1 ≠ other := by
      rintro rfl
      exact Nat.lt_irrefl _ (lt_size_of_node? hformer)
    exact (hint_setHint_of_ne hne).trans (hint_push node arena other)
  hints_size hsize := by
    have hset : ((push node arena).2.setHint (push node arena).1 hint).hints.size =
      (push node arena).2.nodes.size := hsize
    rw [setHint, Array.size_setIfInBounds] at hset
    exact (stays_push node arena).hints_size hset

/-- Any number of allocations leave the nodes what they are. -/
theorem Allocates.stays (h : arena.Allocates arena') : arena.Stays arena' := by
  induction h with
  | none => exact .rfl
  | push _ _ ih => exact ih.trans (stays_push _ _)

/-- A chain of alternatives gets a hint. -/
theorem stays_setHint {left right : NodeId} (hid : arena.node? id = some (.or left right))
    (hint : String) : arena.Stays (arena.setHint id hint) where
  size := Nat.le_refl _
  node hnode := ⟨_, hnode, .inl .same⟩
  hint {other node} hnode hother := by
    refine hint_setHint_of_ne ?_
    rintro rfl
    exact hother left right (Option.some.inj (hnode.symm.trans hid))
  hints_size hsize := by rwa [setHint, Array.size_setIfInBounds] at hsize

/-- A change is allowed for if it fills a container or makes a declaration longer. -/
theorem stays_modifyNode {change : Node → Node} (hchange : ∀ node, arena.node? id = some node →
    node.Fills (change node) ∨ node.isBinding = true ∧ (change node).isBinding = true) :
    arena.Stays (arena.modifyNode id change) where
  size := by simp [size, modifyNode]
  node {other node} hnode := by
    rw [node?_modifyNode, hnode]
    split
    · next heq =>
      subst heq
      exact ⟨_, Eq.refl _, hchange node hnode⟩
    · exact ⟨_, Eq.refl _, .inl .same⟩
  hint _ _ := Eq.refl _
  hints_size hsize := by rwa [modifyNode, Array.size_modify] at hsize

/-- An object gets an entry more. -/
theorem stays_appendEntry (object entry : NodeId) :
    arena.Stays (arena.appendEntry object entry) :=
  stays_modifyNode fun node _ => .inl (by cases node <;> first | exact .object | exact .same)

/-- A block gets a statement more. -/
theorem stays_appendStmt (block stmt : NodeId) : arena.Stays (arena.appendStmt block stmt) :=
  stays_modifyNode fun node _ => by
    cases node with
    | block => exact .inl (.block (by rw [Array.toList_push]; exact List.prefix_append ..))
    | _ => exact .inl .same

/-- A declaration gets a declarator more. -/
theorem stays_appendDeclarator (decl declarator : NodeId) :
    arena.Stays (arena.appendDeclarator decl declarator) :=
  stays_modifyNode fun node _ => by
    cases node with
    | varDecl => exact .inr ⟨Eq.refl _, Eq.refl _⟩
    | _ => exact .inl .same

/-- A member access stays one, with its owner and its name. -/
theorem Stays.isMember {owner : NodeId} {name : String} (h : arena.Stays arena')
    (hmember : arena.IsMember id owner name) : arena'.IsMember id owner name := by
  cases hmember with
  | named hname hnode => exact .named hname (h.node?_eq hnode (Eq.refl _) (Eq.refl _))
  | computed hname hnode hkey =>
    exact .computed hname (h.node?_eq hnode (Eq.refl _) (Eq.refl _))
      (h.node?_eq hkey (Eq.refl _) (Eq.refl _))

/-- An assignment stays one, with both of its sides. -/
theorem Stays.assigns {stmt target value : NodeId} (h : arena.Stays arena')
    (hassigns : arena.Assigns stmt target value) : arena'.Assigns stmt target value := by
  obtain ⟨expr, hstmt, hexpr⟩ := hassigns
  exact ⟨expr, h.node?_eq hstmt (Eq.refl _) (Eq.refl _), h.node?_eq hexpr (Eq.refl _) (Eq.refl _)⟩

end Arena

namespace Builder

/-- A later builder knows what another knows, and its new leaves are new nodes. -/
structure Extends (graph : ShapeGraph) (builder builder' : Builder) : Prop where
  arena : builder.arena.Stays builder'.arena
  /-- A function is remembered once. -/
  function : ∀ {id fn node}, graph.shape? id = some (.function fn) →
    builder.nodes[id.index]? = some node → builder'.nodes[id.index]? = some node
  remembers : ∀ {index : Nat}, (builder.nodes[index]?).isSome → (builder'.nodes[index]?).isSome
  patched : ∀ {index : Nat}, builder.patched.contains index = true →
    builder'.patched.contains index = true
  globalName : ∀ {name}, builder.globalName = some name → builder'.globalName = some name
  placeholders : ∀ {index : Nat} {name}, builder.placeholders[index]? = some name →
    builder'.placeholders[index]? = some name
  visits : ∀ visit ∈ builder.visits, visit ∈ builder'.visits
  origins : ∀ leaf ∈ builder.origins, leaf ∈ builder'.origins
  fresh : ∀ {leaf origin}, (leaf, origin) ∈ builder'.origins → (leaf, origin) ∈ builder.origins ∨
    builder.arena.size ≤ leaf.index ∧ leaf.index < builder'.arena.size
  declared : ∀ {decl}, builder'.placeholderDecl = some decl → builder.placeholderDecl = some decl ∨
    ∃ node, builder'.arena.node? decl = some node ∧ node.isBinding = true

variable {graph : ShapeGraph} {builder builder' builder'' : Builder} {id : ShapeId} {node : NodeId}

/-- A generation in two parts knows in the end what was known at the start. -/
theorem Extends.trans (h : builder.Extends graph builder') (h' : builder'.Extends graph builder'') :
    builder.Extends graph builder'' where
  arena := h.arena.trans h'.arena
  function hid hnode := h'.function hid (h.function hid hnode)
  remembers hnode := h'.remembers (h.remembers hnode)
  patched hmem := h'.patched (h.patched hmem)
  globalName hname := h'.globalName (h.globalName hname)
  placeholders hname := h'.placeholders (h.placeholders hname)
  visits visit hmem := h'.visits visit (h.visits visit hmem)
  origins leaf hmem := h'.origins leaf (h.origins leaf hmem)
  fresh hmem := by
    rcases h'.fresh hmem with hformer | ⟨hsize, hlt⟩
    · -- The node that was new in the first part is still in the arena.
      exact (h.fresh hformer).imp_right fun ⟨hsize, hlt⟩ =>
        ⟨hsize, Nat.lt_of_lt_of_le hlt h'.arena.size⟩
    · exact .inr ⟨Nat.le_trans h.arena.size hsize, hlt⟩
  declared hdecl := by
    rcases h'.declared hdecl with hformer | hbinding
    · exact (h.declared hformer).imp_right fun ⟨_, hnode, hbinding⟩ =>
        h'.arena.isBinding hnode hbinding
    · exact .inr hbinding

/-- Only the arena changes, and what is of no account here. -/
theorem extends_of_arena (harena : builder.arena.Stays builder'.arena)
    (hnodes : builder'.nodes = builder.nodes) (hpatched : builder'.patched = builder.patched)
    (hname : builder'.globalName = builder.globalName)
    (hplaceholders : builder'.placeholders = builder.placeholders)
    (hvisits : builder'.visits = builder.visits) (horigins : builder'.origins = builder.origins)
    (hdecl : builder'.placeholderDecl = builder.placeholderDecl) :
    builder.Extends graph builder' where
  arena := harena
  function _ hnode := hnodes ▸ hnode
  remembers hnode := hnodes ▸ hnode
  patched hmem := hpatched ▸ hmem
  globalName hglobal := hname ▸ hglobal
  placeholders hother := hplaceholders ▸ hother
  visits _ hmem := hvisits ▸ hmem
  origins _ hmem := horigins ▸ hmem
  fresh hmem := .inl (horigins ▸ hmem)
  declared hformer := .inl (hdecl ▸ hformer)

/-- A builder knows what it knows. -/
theorem Extends.rfl : builder.Extends graph builder :=
  extends_of_arena .rfl (Eq.refl _) (Eq.refl _) (Eq.refl _) (Eq.refl _) (Eq.refl _) (Eq.refl _)
    (Eq.refl _)

/-- Only the arena changes. -/
theorem extends_arena {arena : Arena} (h : builder.arena.Stays arena) :
    builder.Extends graph { builder with arena } :=
  extends_of_arena h (Eq.refl _) (Eq.refl _) (Eq.refl _) (Eq.refl _) (Eq.refl _) (Eq.refl _)
    (Eq.refl _)

/-- A leaf is made, with a note of what for. -/
theorem extends_leaf (origin : Origin) : builder.Extends graph (builder.leaf origin) where
  arena := Arena.stays_push _ _
  function _ hnode := hnode
  remembers hnode := hnode
  patched hmem := hmem
  globalName hname := hname
  placeholders hname := hname
  visits _ hmem := hmem
  origins _ hmem := Array.mem_push_of_mem _ hmem
  fresh hmem := (Array.mem_push.1 hmem).imp_right fun heq => by
    rw [(Prod.mk.inj heq).1]
    exact ⟨Nat.le_refl _, Arena.lt_size_of_node? (Arena.node?_push_self _ _)⟩
  declared := .inl

/-- A shape is remembered. If it is a function it was not remembered before. -/
theorem extends_remember
    (hnone : ∀ fn, graph.shape? id = some (.function fn) → builder.nodes[id.index]? = none) :
    builder.Extends graph { builder with nodes := builder.nodes.insert id.index node } where
  arena := .rfl
  function {other fn former} hother hformer := by
    by_cases heq : id = other
    · -- A function is remembered once, so it was not there.
      subst heq
      cases (hnone fn hother).symm.trans hformer
    · rw [Std.TreeMap.getElem?_insert, if_neg, hformer]
      exact fun hindex => heq (congrArg ShapeId.mk (Std.LawfulEqCmp.eq_of_compare hindex))
  remembers hnode := by
    rw [Std.TreeMap.getElem?_insert]
    split
    · exact Eq.refl _
    · exact hnode
  patched hmem := hmem
  globalName hname := hname
  placeholders hname := hname
  visits _ hmem := hmem
  origins _ hmem := hmem
  fresh := .inl
  declared := .inl

/-- A builtin is marked. -/
theorem extends_mark :
    builder.Extends graph { builder with patched := builder.patched.insert id.index } where
  arena := .rfl
  function _ hnode := hnode
  remembers hnode := hnode
  patched hmem := by
    rw [Std.TreeSet.contains_insert, hmem, Bool.or_true]
  globalName hname := hname
  placeholders hname := hname
  visits _ hmem := hmem
  origins _ hmem := hmem
  fresh := .inl
  declared := .inl

/-- An answer is noted. -/
theorem extends_note (visit : ShapeId × Except Fault NodeId) :
    builder.Extends graph { builder with visits := builder.visits.push visit } where
  arena := .rfl
  function _ hnode := hnode
  remembers hnode := hnode
  patched hmem := hmem
  globalName hname := hname
  placeholders hname := hname
  visits _ hmem := Array.mem_push_of_mem _ hmem
  origins _ hmem := hmem
  fresh := .inl
  declared := .inl

/-- The binding for the global scope is declared. -/
theorem extends_declareScope (hnone : builder.globalName = none) (name : String)
    (names : NameSupply) : builder.Extends graph (builder.declareScope name names) where
  arena := ((Arena.stays_push _ _).trans (Arena.stays_push _ _)).trans (Arena.stays_push _ _)
  function _ hnode := hnode
  remembers hnode := hnode
  patched hmem := hmem
  globalName hname := nomatch hnone.symm.trans hname
  placeholders hname := hname
  visits _ hmem := hmem
  origins _ hmem := hmem
  fresh := .inl
  declared := .inl

/-- A further placeholder makes their declaration longer, or it makes a new one. -/
theorem stays_placeholderDeclWith (builder : Builder) (name : String) :
    builder.arena.Stays (builder.placeholderDeclWith name).2 := by
  cases hdecl : builder.placeholderDecl with
  | none =>
    rw [placeholderDeclWith_none hdecl]
    exact (Arena.stays_push _ _).trans (Arena.stays_push _ _)
  | some decl =>
    rw [placeholderDeclWith_some hdecl]
    exact (Arena.stays_push _ _).trans (Arena.stays_appendDeclarator _ _)

/-- A placeholder is declared. -/
theorem extends_declarePlaceholder (hnone : builder.placeholders[id.index]? = none) (name : String)
    (names : NameSupply) : builder.Extends graph (builder.declarePlaceholder id name names) where
  arena := stays_placeholderDeclWith builder name
  function _ hnode := hnode
  remembers hnode := hnode
  patched hmem := hmem
  globalName hname := hname
  placeholders hother := getElem?_insert_of_some hnone hother name
  visits _ hmem := hmem
  origins _ hmem := hmem
  fresh := .inl
  declared {decl} hdecl := by
    obtain rfl : (builder.placeholderDeclWith name).1 = decl := Option.some.inj hdecl
    show _ ∨ ∃ node, (builder.placeholderDeclWith name).2.node? _ = some node ∧ _
    cases hformer : builder.placeholderDecl with
    | none =>
      rw [placeholderDeclWith_none hformer]
      exact .inr ⟨_, Arena.node?_push_self _ _, Eq.refl _⟩
    | some former =>
      rw [placeholderDeclWith_some hformer]
      exact .inl (Eq.refl _)

end Builder

end Semblance
