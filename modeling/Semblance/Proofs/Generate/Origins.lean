import Semblance.Proofs.Generate.Steps
import Semblance.Proofs.Name.Fresh

/-!
# What the nodes of a generation are for

Every node that a generation allocates is there for a purpose, and the purpose is known ever after:
names and receivers stand for a binding, for a value of the platform, for a global binding or for a
part of a function; entries hold the nodes of the shapes that they are bound to; and declarators
have a name that was drawn for them. What is made within the body of a function stays within it,
since only nodes of certain kinds have hints, and only those can be shared.

## Key results

- `Made.step`, `Step.gains`: purposes stay, and new nodes have one
- `below_step`: what is within a body stays within it
- `traced_of_steps`: the purposes of all nodes after any generation
-/

namespace Semblance

/-- A name for a binding other than that of the global scope. -/
def ShapeGraph.BindingName (graph : ShapeGraph) (name : String) : Prop :=
  ∃ hint, graph.BindingHint hint ∧ NameSupply.Follows name hint

/-- What the supply gives for the hint of a binding is a name for a binding. -/
theorem ShapeGraph.bindingName_of_fresh {graph : ShapeGraph} {names names' : NameSupply}
    {hint name : String} (h : graph.BindingHint hint)
    (hfresh : names.fresh? (some hint) = some (name, names')) : graph.BindingName name := by
  obtain ⟨base, hbase, hfollows⟩ := NameSupply.fresh_follows hfresh
  obtain rfl := Option.some.inj hbase
  exact ⟨hint, h, hfollows⟩

private theorem join_getElem?_map_some (ids : List NodeId) (slot : Nat) :
    (ids.map some)[slot]?.join = ids[slot]? := by
  rw [List.getElem?_map]
  cases ids[slot]? <;> rfl

private theorem getElem?_of_prefix {ids ids' : List NodeId} {slot : Nat} {child : NodeId}
    (h : ids <+: ids') (hslot : ids[slot]? = some child) : ids'[slot]? = some child := by
  obtain ⟨rest, rfl⟩ := h
  rw [List.getElem?_append_left (List.getElem?_eq_some_iff.1 hslot).1, hslot]

/-- The slots of a block are the places of its statements. -/
theorem Node.child?_block (statements : Array NodeId) (slot : Nat) :
    (block statements).child? slot = statements.toList[slot]? :=
  join_getElem?_map_some statements.toList slot

/-- The slots of a declaration are the places of its declarators. -/
theorem Node.child?_varDecl (declarators : Array NodeId) (slot : Nat) :
    (varDecl declarators).child? slot = declarators.toList[slot]? :=
  join_getElem?_map_some declarators.toList slot

/-- Whether a node may have a hint is a matter of its kind, which stays when it is filled. -/
theorem Node.Fills.takesHint_eq {node node' : Node} (h : node.Fills node') :
    node'.takesHint = node.takesHint := by
  cases h <;> rfl

namespace Arena

variable {arena arena' arena'' : Arena} {made : NodeId → Node → Prop}

/-! ### Nodes that come and nodes that stay -/

/-- Plain nodes need no purpose, and a container serves its purpose however filled it is. -/
structure Purposes (made : NodeId → Node → Prop) : Prop where
  plain : ∀ {id node}, Node.isPlain node = true → made id node
  fills : ∀ {id node node'}, made id node → node.Fills node' → made id node'

/-- Every node was there before, if less filled, or it was made for a purpose. -/
def Gains (made : NodeId → Node → Prop) (arena arena' : Arena) : Prop :=
  ∀ ⦃id node⦄, arena'.node? id = some node →
    (∃ former, arena.node? id = some former ∧ former.Fills node) ∨ made id node

theorem Gains.rfl : arena.Gains made arena :=
  fun _ node hnode => .inl ⟨node, hnode, .same⟩

/-- A node that was made for a purpose and filled afterwards was made for this purpose. -/
theorem Gains.trans (hmade : Purposes made) (h : Gains made arena arena')
    (h' : Gains made arena' arena'') : Gains made arena arena'' := by
  intro id node hnode
  rcases h' hnode with ⟨former, hformer, hfill⟩ | hnew
  · rcases h hformer with ⟨first, hfirst, hfill'⟩ | hnew
    · exact .inl ⟨first, hfirst, hfill'.trans hfill⟩
    · exact .inr (hmade.fills hnew hfill)
  · exact .inr hnew

/-- One node is new, and it was made for a purpose. -/
theorem gains_push {node : Node} (hmade : made (push node arena).1 node) :
    arena.Gains made (push node arena).2 := by
  intro id other hnode
  rcases node?_push_cases hnode with hold | ⟨rfl, rfl⟩
  · exact .inl ⟨other, hold, .same⟩
  · exact .inr hmade

/-- A node is filled, or it gets a purpose. -/
theorem gains_modifyNode {id : NodeId} {change : Node → Node}
    (hchange : ∀ node, arena.node? id = some node →
      node.Fills (change node) ∨ made id (change node)) :
    arena.Gains made (arena.modifyNode id change) := by
  intro other node hnode
  rw [node?_modifyNode] at hnode
  split at hnode
  · next heq =>
    subst heq
    obtain ⟨former, hformer, rfl⟩ := Option.map_eq_some_iff.1 hnode
    exact (hchange former hformer).imp_left fun hfill => ⟨former, hformer, hfill⟩
  · exact .inl ⟨node, hnode, .same⟩

/-- A block is filled. -/
theorem gains_appendStmt (block stmt : NodeId) :
    arena.Gains made (arena.appendStmt block stmt) :=
  gains_modifyNode fun node _ => by
    split
    · exact .inl (.block (by rw [Array.toList_push]; exact List.prefix_append ..))
    · exact .inl .same

/-- The new nodes are plain, so they need no purpose. -/
theorem Allocates.gains (hmade : Purposes made) (h : arena.Allocates arena') :
    arena.Gains made arena' := by
  induction h with
  | none => exact .rfl
  | push _ hnode ih => exact ih.trans hmade (gains_push (hmade.plain hnode))

/-- Plain nodes are built without hints. -/
theorem Allocates.hint_eq (h : arena.Allocates arena') (id : NodeId) :
    arena'.hint id = arena.hint id := by
  induction h with
  | none => rfl
  | push _ _ ih => rw [hint_push, ih]

/-- A hint was there before, or it was just set. -/
theorem hint_setHint_cases {id other : NodeId} {hint hint' : String}
    (h : (arena.setHint id hint).hint other = some hint') :
    arena.hint other = some hint' ∨ (other = id ∧ hint' = hint) := by
  rw [Arena.hint, setHint, Array.getElem?_setIfInBounds] at h
  by_cases heq : id.index = other.index
  · by_cases hlt : id.index < arena.hints.size
    · simp only [heq, heq ▸ hlt, if_true, Option.join_some, Option.some.injEq] at h
      exact .inr ⟨congrArg NodeId.mk heq.symm, h.symm⟩
    · simp [heq, heq ▸ hlt] at h
  · rw [if_neg heq] at h
    exact .inl h

/-- An assignment needs no purpose, and the block it is put into is filled. -/
theorem gains_assignIn (hmade : Purposes made) (arena : Arena) (block target value : NodeId) :
    arena.Gains made ((assignStmt target value arena).2.appendStmt block
      (assignStmt target value arena).1) :=
  ((allocates_assignStmt target value arena).gains hmade).trans hmade (gains_appendStmt ..)

/-! ### What is below a node -/

/-- A node is below another one, and no node on the way may have a hint. -/
inductive Below (arena : Arena) (top : NodeId) : NodeId → Prop where
  | self {node : Node} : arena.node? top = some node → node.takesHint = false → Below arena top top
  | child {parent child : NodeId} {slot : Nat} {node : Node} : Below arena top parent →
      arena.child? parent slot = some child → arena.node? child = some node →
      node.takesHint = false → Below arena top child

/-- What is below a node is a node without a hint. -/
theorem Below.node {top id : NodeId} (h : arena.Below top id) :
    ∃ node, arena.node? id = some node ∧ node.takesHint = false := by
  cases h with
  | self hnode htakes => exact ⟨_, hnode, htakes⟩
  | child _ _ hnode htakes => exact ⟨_, hnode, htakes⟩

/-- A node that something is below of is a node without a hint. -/
theorem Below.top_node {top id : NodeId} (h : arena.Below top id) :
    ∃ node, arena.node? top = some node ∧ node.takesHint = false := by
  induction h with
  | self hnode htakes => exact ⟨_, hnode, htakes⟩
  | child _ _ _ _ ih => exact ih

/-- A member access has its owner as the object. -/
theorem node?_member (owner : NodeId) (name : String) (arena : Arena) :
    ∃ key, (member owner name arena).2.node? (member owner name arena).1 =
      some (.member owner key) := by
  unfold member
  split
  · exact ⟨_, node?_push_self ..⟩
  · exact ⟨_, node?_push_self ..⟩

end Arena

namespace Builder

variable {settings : Settings} {graph : ShapeGraph} {builder builder' : Builder} {id : NodeId}
  {node node' : Node}

/-! ### Purposes -/

/-- What a node is there for. -/
inductive Made (settings : Settings) (graph : ShapeGraph) (builder : Builder) (id : NodeId) :
    Node → Prop where
  | plain {node : Node} : node.isPlain = true → Made settings graph builder id node
  | hinted {node : Node} : node.takesHint = true → Made settings graph builder id node
  | varDecl (declarators : Array NodeId) : Made settings graph builder id (.varDecl declarators)
  | reference {referent : Referent} (name : String) : (id, referent) ∈ builder.references →
      Made settings graph builder id (.ident name)
  | leaf {origin : Origin} : (id, origin) ∈ builder.origins →
      Made settings graph builder id origin.node
  /-- The value of the binding for the global scope. -/
  | scope {declarator : NodeId} {name : String} : builder.globalName = some name →
      builder.arena.node? declarator = some (.declarator name (some id)) →
      Made settings graph builder id .this
  | scopeDeclarator {name : String} (scope : NodeId) : builder.globalName = some name →
      NameSupply.Follows name settings.globalName →
      Made settings graph builder id (.declarator name (some scope))
  | placeholder {name : String} : graph.BindingName name →
      Made settings graph builder id (.declarator name none)
  | entry {key : EntryKey} {value : NodeId} {kind : EntryKind} {shape : ShapeId} :
      graph.Binds kind key.name shape →
      (∀ fn, graph.shape? shape = some (.function fn) →
        builder.nodes[shape.index]? = some value) →
      Made settings graph builder id (.entry key value kind)

/-- The purposes of a generation are such that plain nodes need none and filling serves them. -/
theorem purposes_made (settings : Settings) (graph : ShapeGraph) (builder : Builder) :
    Arena.Purposes (Made settings graph builder) where
  plain := .plain
  fills h hfills := by
    cases hfills with
    | same => exact h
    | object | array => exact .hinted rfl
    | block => exact .plain rfl

/-! ### What a purpose says -/

/-- A receiver is one of a function, or it is the value of the binding for the global scope. -/
theorem Made.this_cases (h : Made settings graph builder id .this) :
    (∃ function, (id, Origin.receiver function) ∈ builder.origins) ∨
      ∃ declarator name, builder.globalName = some name ∧
        builder.arena.node? declarator = some (.declarator name (some id)) := by
  generalize hnode : Node.this = node at h
  cases h with
  | plain hplain | hinted htakes => subst hnode; contradiction
  | @leaf origin hmem =>
    cases origin with
    | receiver function => exact .inl ⟨function, hmem⟩
    | _ => exact nomatch hnode
  | scope hname hdeclarator => exact .inr ⟨_, _, hname, hdeclarator⟩
  | _ => exact nomatch hnode

/-- An identifier refers to a binding, or it has an origin. -/
theorem Made.ident_cases {name : String} (h : Made settings graph builder id (.ident name)) :
    (∃ referent, (id, referent) ∈ builder.references) ∨
      ∃ origin, (id, origin) ∈ builder.origins ∧ origin.node = .ident name := by
  generalize hnode : Node.ident name = node at h
  cases h with
  | plain hplain | hinted htakes => subst hnode; contradiction
  | leaf hmem => exact .inr ⟨_, hmem, rfl⟩
  | reference _ hmem => exact .inl ⟨_, hmem⟩
  | _ => exact nomatch hnode

/-- An entry is one that the graph has, and if it holds a function, it holds the node of the
    function. -/
theorem Made.entry_cases {key : EntryKey} {value : NodeId} {kind : EntryKind}
    (h : Made settings graph builder id (.entry key value kind)) :
    ∃ shape, graph.Binds kind key.name shape ∧ ∀ fn, graph.shape? shape = some (.function fn) →
      builder.nodes[shape.index]? = some value := by
  generalize hnode : Node.entry key value kind = node at h
  cases h with
  | plain hplain | hinted htakes => subst hnode; contradiction
  | @leaf origin => cases origin <;> exact nomatch hnode
  | entry hbinds hvalue =>
    cases hnode
    exact ⟨_, hbinds, hvalue⟩
  | _ => exact nomatch hnode

/-- A declarator without an initializer is a placeholder, and one with an initializer is the binding
    for the global scope. -/
theorem Made.declarator_cases {name : String} {init : Option NodeId}
    (h : Made settings graph builder id (.declarator name init)) :
    (init = none ∧ graph.BindingName name) ∨
      (builder.globalName = some name ∧ NameSupply.Follows name settings.globalName) := by
  generalize hnode : Node.declarator name init = node at h
  cases h with
  | plain hplain | hinted htakes => subst hnode; contradiction
  | @leaf origin => cases origin <;> exact nomatch hnode
  | scopeDeclarator scope hname hfollows =>
    cases hnode
    exact .inr ⟨hname, hfollows⟩
  | placeholder hbinding =>
    cases hnode
    exact .inl ⟨rfl, hbinding⟩
  | _ => exact nomatch hnode

/-! ### Purposes in a step -/

/-- References are never taken back. -/
theorem Step.references_subset (h : builder.Step settings graph builder')
    {reference : NodeId × Referent} (hmem : reference ∈ builder.references) :
    reference ∈ builder'.references := by
  cases h with
  | refer => exact Array.mem_push_of_mem _ hmem
  | _ => exact hmem

/-- Origins are never taken back. -/
theorem Step.origins_subset (h : builder.Step settings graph builder') {leaf : NodeId × Origin}
    (hmem : leaf ∈ builder.origins) : leaf ∈ builder'.origins := by
  cases h with
  | platform | global | copyParam | writeToReceiver => exact Array.mem_push_of_mem _ hmem
  | _ => exact hmem

/-- Purposes stay. -/
theorem Made.step (h : Made settings graph builder id node)
    (hstep : builder.Step settings graph builder') : Made settings graph builder' id node := by
  have hglobal {name : String} (hname : builder.globalName = some name) :
      builder'.globalName = some name :=
    @Step.nameOf?_eq _ _ _ _ hstep .scope _ hname
  cases h with
  | plain hplain => exact .plain hplain
  | hinted htakes => exact .hinted htakes
  | varDecl declarators => exact .varDecl declarators
  | reference name hmem => exact .reference name (hstep.references_subset hmem)
  | leaf hmem => exact .leaf (hstep.origins_subset hmem)
  | scope hname hdeclarator => exact .scope (hglobal hname) (hstep.node?_eq hdeclarator rfl nofun)
  | scopeDeclarator scope hname hfollows => exact .scopeDeclarator scope (hglobal hname) hfollows
  | placeholder hbinding => exact .placeholder hbinding
  | entry hbinds hvalue => exact .entry hbinds fun fn hfn => hstep.nodes_eq hfn (hvalue fn hfn)

/-- New nodes of a step have a purpose. -/
theorem Step.gains (h : builder.Step settings graph builder') :
    builder.arena.Gains (Made settings graph builder') builder'.arena := by
  have hmade := purposes_made settings graph builder'
  cases h with
  | allocate hallocates => exact hallocates.gains hmade
  | allocateHinted htakes _ _ => exact Arena.gains_push (.hinted htakes)
  | hint _ _ => exact .rfl
  | platform _ => exact Arena.gains_push (.leaf Array.mem_push_self)
  | global _ => exact Arena.gains_push (.leaf Array.mem_push_self)
  | entry hbinds hvalue =>
    -- However it is written, the key has the name.
    exact Arena.gains_push (.entry (by split <;> exact hbinds) hvalue)
  | appendEntry object entry =>
    refine Arena.gains_modifyNode fun node _ => .inl ?_
    split
    · exact .object
    · exact .same
  | appendStmt block stmt => exact Arena.gains_appendStmt block stmt
  | setElements slots harray =>
    refine Arena.gains_modifyNode fun node hnode => .inl ?_
    rw [← Option.some.inj (harray.symm.trans hnode)]
    exact .array
  | emit _ | remember _ | note _ _ _ => exact .rfl
  | copyParam target _ _ _ _ =>
    exact (Arena.gains_push (.leaf Array.mem_push_self)).trans hmade (Arena.gains_assignIn hmade ..)
  | @writeToReceiver id _ body name value _ _ =>
    have hleaf : builder.arena.Gains (Made settings graph (builder.writeToReceiver id name body value))
        (builder.leaf (.receiver id)).arena :=
      Arena.gains_push (.leaf Array.mem_push_self)
    have hmember := Arena.allocates_member (Arena.push Node.this builder.arena).1 name
    exact (hleaf.trans hmade ((hmember _).gains hmade)).trans hmade (Arena.gains_assignIn hmade ..)
  | @declareScope name names _ hfresh =>
    have hnode : (builder.declareScope name names).arena.node? (builder.scopeDeclarator name).1 =
        some (.declarator name (some (Arena.this builder.arena).1)) :=
      Arena.node?_push_of_node? (Arena.node?_push_self ..) _
    have hscope : builder.arena.Gains (Made settings graph (builder.declareScope name names))
        (Arena.this builder.arena).2 :=
      Arena.gains_push (.scope rfl hnode)
    obtain ⟨base, hbase, hfollows⟩ := NameSupply.fresh_follows hfresh
    obtain rfl := Option.some.inj hbase
    exact (hscope.trans hmade (Arena.gains_push (.scopeDeclarator _ rfl hfollows))).trans hmade
      (Arena.gains_push (.varDecl _))
  | @declarePlaceholder shape parameter label name names hnone _ hfresh =>
    have hbinding := @ShapeGraph.bindingName_of_fresh graph _ _ _ _ (.parameter ..) hfresh
    have hdeclarator : builder.arena.Gains
        (Made settings graph (builder.declarePlaceholder shape name names))
        (Arena.push (.declarator name none) builder.arena).2 :=
      Arena.gains_push (.placeholder hbinding)
    rw [arena_declarePlaceholder]
    cases hdecl : builder.placeholderDecl with
    | none =>
      rw [placeholderDeclWith_none hdecl]
      exact hdeclarator.trans hmade (Arena.gains_push (.varDecl _))
    | some decl =>
      rw [placeholderDeclWith_some hdecl]
      refine hdeclarator.trans hmade (Arena.gains_modifyNode fun node _ => ?_)
      split
      · exact .inr (.varDecl _)
      · exact .inl .same
  | refer hname => exact Arena.gains_push (.reference _ Array.mem_push_self)

/-! ### What stays below -/

/-- A child keeps its slot, unless its parent may have a hint. -/
theorem Step.child?_eq (h : builder.Step settings graph builder') {parent child : NodeId}
    {slot : Nat} (hnode : builder.arena.node? parent = some node) (htakes : node.takesHint = false)
    (hchild : builder.arena.child? parent slot = some child) :
    builder'.arena.child? parent slot = some child := by
  rw [Arena.child?_of_node? hnode] at hchild
  obtain ⟨node', hnode', hfills | ⟨_, declarators, declarator, _, rfl, rfl, _⟩⟩ :=
    h.node?_of_node? hnode <;> rw [Arena.child?_of_node? hnode']
  · cases hfills with
    | same => exact hchild
    | object | array => exact nomatch htakes
    | block hmore =>
      rw [Node.child?_block] at hchild ⊢
      exact getElem?_of_prefix hmore hchild
  · rw [Node.child?_varDecl] at hchild ⊢
    rw [Array.toList_push]
    exact getElem?_of_prefix (List.prefix_append ..) hchild

/-- A step changes neither what nodes there are nor which of them may have a hint. -/
theorem Step.takesHint_eq (h : builder.Step settings graph builder')
    (hnode : builder.arena.node? id = some node) :
    ∃ node', builder'.arena.node? id = some node' ∧ node'.takesHint = node.takesHint := by
  obtain ⟨node', hnode', hfills | ⟨_, _, _, _, rfl, rfl, _⟩⟩ := h.node?_of_node? hnode
  · exact ⟨node', hnode', hfills.takesHint_eq⟩
  · exact ⟨_, hnode', rfl⟩

/-- What is below a node stays below it. -/
theorem below_step {top : NodeId} (h : builder.arena.Below top id)
    (hstep : builder.Step settings graph builder') : builder'.arena.Below top id := by
  induction h with
  | self hnode htakes =>
    obtain ⟨_, hnode', heq⟩ := hstep.takesHint_eq hnode
    exact .self hnode' (heq.trans htakes)
  | child hparent hchild hnode htakes ih =>
    obtain ⟨_, hparent, htakes'⟩ := hparent.node
    obtain ⟨_, hnode', heq⟩ := hstep.takesHint_eq hnode
    exact .child ih (hstep.child?_eq hparent htakes' hchild) hnode' (heq.trans htakes)

/-- The leaf stands in the body of the function that was made for a shape. -/
def InBody (builder : Builder) (graph : ShapeGraph) (function : ShapeId) (leaf : NodeId) : Prop :=
  ∃ fn body, graph.shape? function = some (.function fn) ∧ builder.HasBody function fn body ∧
    builder.arena.Below body leaf

/-- What stands in the body of a function stays there. -/
theorem inBody_step {function : ShapeId} {leaf : NodeId} (h : builder.InBody graph function leaf)
    (hstep : builder.Step settings graph builder') : builder'.InBody graph function leaf := by
  obtain ⟨fn, body, hfn, hbody, hbelow⟩ := h
  exact ⟨fn, body, hfn, hasBody_of_steps (.single hstep) hfn hbody, below_step hbelow hstep⟩

end Builder

/-! ### Names and receivers -/

namespace Origin

/-- The function of which a leaf stands for a part. -/
def function? : Origin → Option ShapeId
  | receiver function | formal function _ => some function
  | platform _ | global _ => none

/-- A dotted name is one of the platform, a formal parameter is a used one, and a global binding is a
    property of the global scope. -/
def Sensible (graph : ShapeGraph) : Origin → Prop
  | platform path => graph.PlatformName path
  | formal function index => ∃ fn shape, graph.shape? function = some (.function fn) ∧
      fn.accessor = none ∧ index ≠ 0 ∧ (index, shape) ∈ fn.usedParams
  | global name => ∃ binding ∈ graph.globals, binding.1 = name
  | receiver _ => True

/-- Leaves are no containers. -/
theorem isContainer_node (origin : Origin) : origin.node.isContainer = false := by
  cases origin <;> rfl

/-- Leaves have no hints. -/
theorem takesHint_node (origin : Origin) : origin.node.takesHint = false := by
  cases origin <;> rfl

end Origin

namespace Builder

variable {settings : Settings} {graph : ShapeGraph} {names : NameSupply} {builder builder' : Builder}
  {id : ShapeId} {fn : FunctionShape} {body leaf : NodeId} {origin : Origin}

/-- Both sides of an assignment that is appended to a block stand below the block. -/
theorem below_assignIn {block target value operand : NodeId} {statements : Array NodeId}
    {node : Node} (hblock : builder.arena.node? block = some (.block statements))
    (hoperand : operand = target ∨ operand = value)
    (hnode : builder.arena.node? operand = some node) (hkind : node.isContainer = false)
    (htakes : node.takesHint = false) :
    (builder.assignIn block target value).arena.node? operand = some node ∧
      (builder.assignIn block target value).arena.Below block operand := by
  let stmt := (Arena.assignStmt target value builder.arena).1
  have hquiet : (Arena.assignStmt target value builder.arena).2.Quiet
      (builder.assignIn block target value).arena := Arena.quiet_appendStmt block stmt
  have hformer : (Arena.assignStmt target value builder.arena).2.node? block =
      some (.block statements) :=
    Arena.node?_push_of_node? (Arena.node?_push_of_node? hblock _) _
  have hblock' : (builder.assignIn block target value).arena.node? block =
      some (.block (statements.push stmt)) := by
    refine (Arena.node?_modifyNode ..).trans ?_
    rw [if_pos rfl, hformer]
    rfl
  have hstmt := hquiet.node?_eq (Arena.node?_push_self ..) rfl
  have hassign := hquiet.node?_eq
    (Arena.node?_push_of_node? (Arena.node?_push_self (.assign target value) builder.arena) _) rfl
  -- The way down goes from the block to its last statement and then to the assignment.
  have hlast : (builder.assignIn block target value).arena.child? block statements.size =
      some stmt := by
    rw [Arena.child?_of_node? hblock', Node.child?_block, Array.getElem?_toList,
      Array.getElem?_push_size]
  have hbelow := (Arena.Below.self hblock' rfl).child hlast hstmt rfl
  have hbelow := hbelow.child ((Arena.child?_of_node? hstmt 0).trans rfl) hassign rfl
  have hnode' := (quiet_assignIn builder block target value).arena.node?_eq hnode hkind
  rcases hoperand with rfl | rfl
  · exact ⟨hnode', hbelow.child ((Arena.child?_of_node? hassign 0).trans rfl) hnode' htakes⟩
  · exact ⟨hnode', hbelow.child ((Arena.child?_of_node? hassign 1).trans rfl) hnode' htakes⟩

/-- What a parameter is copied from stands in the body. -/
theorem below_copyParam (h : builder.HasBody id fn body) (origin : Origin) (target : NodeId) :
    let leaf := (Arena.push origin.node builder.arena).1
    (builder.copyParam origin body target).arena.node? leaf = some origin.node ∧
      (builder.copyParam origin body target).arena.Below body leaf := by
  obtain ⟨_, _, _, statements, hblock⟩ := h
  have hblock' : (builder.leaf origin).arena.node? body = some (.block statements) :=
    Arena.node?_push_of_node? hblock _
  exact below_assignIn hblock' (.inr rfl) (Arena.node?_push_self ..) origin.isContainer_node
    origin.takesHint_node

/-- The receiver of a written property stands in the body, below the member access that is assigned
    to. -/
theorem below_writeToReceiver (h : builder.HasBody id fn body) (name : String) (value : NodeId) :
    let leaf := (Arena.push Node.this builder.arena).1
    (builder.writeToReceiver id name body value).arena.node? leaf = some .this ∧
      (builder.writeToReceiver id name body value).arena.Below body leaf := by
  obtain ⟨_, _, _, statements, hblock⟩ := h
  have hmember := Arena.allocates_member (Arena.push Node.this builder.arena).1 name
    (builder.leaf (.receiver id)).arena
  -- The block is still there when the member access is, and the receiver is below this.
  obtain ⟨block, hblock', hfills⟩ := hmember.quiet.node (Arena.node?_push_of_node? hblock _)
  obtain ⟨statements', rfl⟩ : ∃ statements', block = .block statements' := by
    cases hfills <;> exact ⟨_, rfl⟩
  obtain ⟨key, htarget⟩ := Arena.node?_member (Arena.push Node.this builder.arena).1 name
    (builder.leaf (.receiver id)).arena
  obtain ⟨htarget', hbelow⟩ : (builder.writeToReceiver id name body value).arena.node? _ = _ ∧ _ :=
    below_assignIn hblock' (.inl rfl) htarget rfl rfl
  have hquiet : (Arena.member (Arena.push Node.this builder.arena).1 name
      (builder.leaf (.receiver id)).arena).2.Quiet
        (builder.writeToReceiver id name body value).arena :=
    (Arena.allocates_assignStmt ..).quiet.trans (Arena.quiet_appendStmt ..)
  have hreceiver := hquiet.node?_eq (hmember.quiet.node?_eq
    (Arena.node?_push_self .this builder.arena) rfl) rfl
  refine ⟨hreceiver, hbelow.child ((Arena.child?_of_node? htarget' 0).trans ?_) hreceiver rfl⟩
  cases key <;> rfl

/-- What there is to know of a leaf with an origin. -/
structure Founded (graph : ShapeGraph) (builder : Builder) (leaf : NodeId) (origin : Origin) :
    Prop where
  node : builder.arena.node? leaf = some origin.node
  sensible : origin.Sensible graph
  inBody : ∀ {function}, origin.function? = some function → builder.InBody graph function leaf

/-- What is known of a leaf stays true. -/
theorem Founded.step (h : Founded graph builder leaf origin)
    (hstep : builder.Step settings graph builder') : Founded graph builder' leaf origin where
  node := hstep.node?_eq h.node origin.isContainer_node (by cases origin <;> exact nofun)
  sensible := h.sensible
  inBody hfunction := inBody_step (h.inBody hfunction) hstep

/-- A new leaf with an origin is founded. -/
theorem Step.founded (h : builder.Step settings graph builder')
    (hmem : (leaf, origin) ∈ builder'.origins) :
    (leaf, origin) ∈ builder.origins ∨ Founded graph builder' leaf origin := by
  have hstep := h
  have hpush {new : NodeId × Origin} (hmem : (leaf, origin) ∈ builder.origins.push new) :
      (leaf, origin) ∈ builder.origins ∨ leaf = new.1 ∧ origin = new.2 :=
    (Array.mem_push.1 hmem).imp_right fun heq => ⟨congrArg Prod.fst heq, congrArg Prod.snd heq⟩
  cases h with
  | platform hname =>
    refine (hpush hmem).imp_right ?_
    rintro ⟨rfl, rfl⟩
    exact ⟨Arena.node?_push_self .., hname, nofun⟩
  | global hbinding =>
    refine (hpush hmem).imp_right ?_
    rintro ⟨rfl, rfl⟩
    exact ⟨Arena.node?_push_self .., ⟨_, hbinding, rfl⟩, nofun⟩
  | @copyParam id shape fn body index target hid haccessor hused hbody =>
    refine (hpush hmem).imp_right ?_
    rintro ⟨rfl, rfl⟩
    obtain ⟨hnode, hbelow⟩ := below_copyParam hbody _ target
    refine ⟨hnode, ?_, fun hfunction => ?_⟩
    · dsimp only
      split
      · trivial
      · next hne => exact ⟨fn, shape, hid, haccessor, hne, hused⟩
    · obtain rfl : id = _ := by
        -- A receiver and a formal parameter are parts of the same function.
        split at hfunction <;> exact Option.some.inj hfunction
      exact ⟨fn, body, hid, hasBody_of_steps (.single hstep) hid hbody, hbelow⟩
  | @writeToReceiver id fn body name value hid hbody =>
    refine (hpush hmem).imp_right ?_
    rintro ⟨rfl, rfl⟩
    obtain ⟨hnode, hbelow⟩ := below_writeToReceiver hbody name value
    refine ⟨hnode, trivial, fun hfunction => ?_⟩
    obtain rfl := Option.some.inj hfunction
    exact ⟨fn, body, hid, hasBody_of_steps (.single hstep) hid hbody, hbelow⟩
  | _ => exact .inl hmem

/-! ### Hints -/

/-- The hint of a node is that of a binding, and the node is of a kind that may have one. -/
def Hints (graph : ShapeGraph) (builder : Builder) (node : NodeId) (hint : String) : Prop :=
  graph.BindingHint hint ∧ ∃ former, builder.arena.node? node = some former ∧
    former.takesHint = true

/-- A hint that is new is that of a binding, on a node that may have it. -/
theorem Step.hint_cases (h : builder.Step settings graph builder') {node : NodeId} {hint : String}
    (hhint : builder'.arena.hint node = some hint) :
    builder.arena.hint node = some hint ∨ Hints graph builder' node hint := by
  -- No part of an assignment gets a hint.
  have hassign (arena : Arena) (block target value : NodeId) :
      ((Arena.assignStmt target value arena).2.appendStmt block
        (Arena.assignStmt target value arena).1).hint node = arena.hint node :=
    (Arena.allocates_assignStmt target value arena).hint_eq node
  cases h with
  | allocate hallocates => exact .inl ((hallocates.hint_eq node).symm.trans hhint)
  | @allocateHinted new hint' htakes hbinding _ =>
    rcases Arena.hint_setHint_cases hhint with hold | ⟨rfl, rfl⟩
    · exact .inl ((Arena.hint_push ..).symm.trans hold)
    · exact .inr ⟨hbinding, new, Arena.node?_push_self .., htakes⟩
  | hint hnode hbinding =>
    rcases Arena.hint_setHint_cases hhint with hold | ⟨rfl, rfl⟩
    · exact .inl hold
    · exact .inr ⟨hbinding, _, hnode, rfl⟩
  | platform | global | entry | refer => exact .inl ((Arena.hint_push ..).symm.trans hhint)
  | copyParam =>
    exact .inl ((Arena.hint_push ..).symm.trans ((hassign ..).symm.trans hhint))
  | @writeToReceiver id _ _ name =>
    have hmember := (Arena.allocates_member (Arena.push Node.this builder.arena).1 name
      (builder.leaf (.receiver id)).arena).hint_eq node
    exact .inl ((Arena.hint_push ..).symm.trans (hmember.symm.trans ((hassign ..).symm.trans hhint)))
  | declareScope =>
    rw [Builder.declareScope, scopeDecl, Arena.hint_push, scopeDeclarator, Arena.hint_push, Arena.this,
      Arena.hint_push] at hhint
    exact .inl hhint
  | @declarePlaceholder _ _ _ name =>
    have hpush := Arena.hint_push (.declarator name none) builder.arena node
    rw [arena_declarePlaceholder] at hhint
    cases hdecl : builder.placeholderDecl with
    | none =>
      rw [placeholderDeclWith_none hdecl, Arena.hint_push, hpush] at hhint
      exact .inl hhint
    | some decl =>
      rw [placeholderDeclWith_some hdecl] at hhint
      exact .inl (hpush.symm.trans hhint)
  | _ => exact .inl hhint

/-- A hint stays one of a binding. -/
theorem Hints.step {node : NodeId} {hint : String} (h : Hints graph builder node hint)
    (hstep : builder.Step settings graph builder') : Hints graph builder' node hint := by
  obtain ⟨hbinding, former, hformer, htakes⟩ := h
  obtain ⟨later, hlater, heq⟩ := hstep.takesHint_eq hformer
  exact ⟨hbinding, later, hlater, heq.trans htakes⟩

/-! ### Generations -/

/-- What a builder has made is known, and so is what for. -/
structure Traced (settings : Settings) (graph : ShapeGraph) (builder : Builder) : Prop where
  made : ∀ {id node}, builder.arena.node? id = some node → Made settings graph builder id node
  hint : ∀ {id hint}, builder.arena.hint id = some hint → Hints graph builder id hint
  founded : ∀ {leaf origin}, (leaf, origin) ∈ builder.origins →
    Founded graph builder leaf origin
  /-- The function of a shape has its formal parameters. -/
  function : ∀ {id fn node}, graph.shape? id = some (.function fn) →
    builder.nodes[id.index]? = some node →
    ∃ body, builder.arena.node? node = some (.function fn.formals body)

/-- At the start there is nothing to trace. -/
theorem Traced.start (names : NameSupply) : Traced settings graph (.start names) where
  made hnode := nomatch hnode
  hint hhint := nomatch hhint
  founded hmem := by simp [Builder.start] at hmem
  function _ hnode := by simp [Builder.start] at hnode

/-- What a step makes is traced, and what was traced stays so. -/
theorem Traced.step (h : Traced settings graph builder)
    (hstep : builder.Step settings graph builder') : Traced settings graph builder' where
  made hnode := by
    rcases hstep.gains hnode with ⟨former, hformer, hfills⟩ | hnew
    · exact (purposes_made ..).fills ((h.made hformer).step hstep) hfills
    · exact hnew
  hint hhint := (hstep.hint_cases hhint).elim (fun hold => (h.hint hold).step hstep) id
  founded hmem := (hstep.founded hmem).elim (fun hold => (h.founded hold).step hstep) id
  function {id fn node} hid hnode := by
    by_cases hformer : builder.nodes[id.index]? = some node
    · obtain ⟨body, hfunction⟩ := h.function hid hformer
      exact ⟨body, hstep.node?_eq hfunction rfl nofun⟩
    · -- The function was remembered just now.
      cases hstep with
      | @remember other _ hremember =>
        rw [Std.TreeMap.getElem?_insert] at hnode
        split at hnode
        · next heq =>
          obtain rfl : other = id := congrArg ShapeId.mk (Std.LawfulEqCmp.eq_of_compare heq)
          obtain rfl := Option.some.inj hnode
          exact (hremember fn hid).2
        · exact absurd hnode hformer
      | _ => exact absurd hnode hformer

/-- Whatever is generated, it is known what for. -/
theorem traced_of_steps (h : Steps settings graph (.start names) builder) :
    Traced settings graph builder := by
  induction h with
  | refl => exact .start names
  | tail _ hstep ih => exact ih.step hstep

end Builder

end Semblance
