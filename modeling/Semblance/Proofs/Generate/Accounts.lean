import Semblance.Proofs.Generate.Continuity
import Semblance.Proofs.Generate.Origins

/-!
# Accounts of generations

Statements are emitted in the middle of generating other values, so a generation is accounted for as
a whole: `Emission` says what a top-level statement is there for, and `Builder.Accounts` says that a
generation emitted one statement for each of a list of emissions, in this order. Among them are the
properties of a function value if the generation has made the function, once each, and the
properties that were added to a builtin if the generation has marked it. A function or a builtin that
is still being worked on is exempt from this.

Answers for shapes without a node of their own are accounted for as well: each denotes the value by
what was declared for it.

## Key results

- `Leads.unique`: a member chain has one root and one list of names
- `Accounts.trans`: a generation in two parts
- `accounts_emitAssign`: a statement that is emitted
- `Accounts.made`, `Accounts.marked`: what is no longer exempt when it is done
-/

namespace Semblance

/-! ### Member chains -/

namespace Arena

/-- A chain of members with these names leads from a root to a node. -/
inductive Leads (arena : Arena) (root : NodeId) : List String → NodeId → Prop
  | root : Leads arena root [] root
  | member {names : List String} {owner node : NodeId} {name : String} :
      Leads arena root names owner → arena.IsMember node owner name →
      Leads arena root (names ++ [name]) node

/-- A node is the member chain of a dotted name. -/
def IsPath (arena : Arena) (path : String) (root node : NodeId) : Prop :=
  arena.node? root = some (.ident (dotComponents path).1) ∧
    arena.Leads root (dotComponents path).2 node

variable {arena arena' : Arena} {root root' owner owner' node : NodeId} {names names' : List String}
  {name name' path : String}

/-- A member access has one owner and one name. -/
theorem IsMember.unique (h : arena.IsMember node owner name) (h' : arena.IsMember node owner' name') :
    owner = owner' ∧ name = name' := by
  cases h with
  | named _ hnode =>
    cases h' with
    | named _ hnode' =>
      cases hnode.symm.trans hnode'
      exact ⟨rfl, rfl⟩
    | computed _ hnode' _ => cases hnode.symm.trans hnode'
  | computed _ hnode hkey =>
    cases h' with
    | named _ hnode' => cases hnode.symm.trans hnode'
    | computed _ hnode' hkey' =>
      cases hnode.symm.trans hnode'
      cases hkey.symm.trans hkey'
      exact ⟨rfl, rfl⟩

/-- An identifier is no member access. -/
theorem not_isMember_of_ident (hnode : arena.node? node = some (.ident name)) :
    ¬ arena.IsMember node owner name' := by
  intro hmember
  obtain ⟨key, hnode'⟩ := hmember.exists_key
  cases hnode.symm.trans hnode'

/-- A chain ends at the first identifier, so it has one root and one list of names. -/
theorem Leads.unique (hroot : arena.node? root = some (.ident name))
    (hroot' : arena.node? root' = some (.ident name')) (h : arena.Leads root names node)
    (h' : arena.Leads root' names' node) : root = root' ∧ names = names' := by
  induction h generalizing names' with
  | root =>
    cases h' with
    | root => exact ⟨rfl, rfl⟩
    | member _ hmember => exact absurd hmember (not_isMember_of_ident hroot)
  | member _ hmember ih =>
    cases h' with
    | root => exact absurd hmember (not_isMember_of_ident hroot')
    | member hleads' hmember' =>
      obtain ⟨rfl, rfl⟩ := hmember.unique hmember'
      obtain ⟨rfl, rfl⟩ := ih hleads'
      exact ⟨rfl, rfl⟩

/-- A chain stays as it is. -/
theorem Stays.leads (h : arena.Stays arena') (hleads : arena.Leads root names node) :
    arena'.Leads root names node := by
  induction hleads with
  | root => exact .root
  | member _ hmember ih => exact .member ih (h.isMember hmember)

/-- The member chain of a dotted name stays one. -/
theorem Stays.isPath (h : arena.Stays arena') (hpath : arena.IsPath path root node) :
    arena'.IsPath path root node :=
  ⟨h.node?_eq hpath.1 (Eq.refl _) (Eq.refl _), h.leads hpath.2⟩

/-- The end of a chain is an identifier or a member. -/
theorem IsPath.cases (h : arena.IsPath path root node) :
    (∃ name, arena.node? node = some (.ident name)) ∨
      ∃ owner key, arena.node? node = some (.member owner key) := by
  obtain ⟨hroot, hleads⟩ := h
  generalize (dotComponents path).2 = names at hleads
  cases hleads with
  | root => exact .inl ⟨_, hroot⟩
  | member _ hmember =>
    obtain ⟨key, hnode⟩ := hmember.exists_key
    exact .inr ⟨_, key, hnode⟩

/-- A chain is made longer by accessing members of its end. -/
theorem leads_foldlM_member {arena₀ : Arena} (h : arena₀.Leads root names owner)
    (more : List String) : (more.foldlM member owner arena₀).2.Leads root (names ++ more)
      (more.foldlM member owner arena₀).1 := by
  induction more generalizing arena₀ names owner with
  | nil => rwa [List.append_nil]
  | cons first more ih =>
    have hstays := ((allocates_member owner first) arena₀).stays
    rw [List.append_cons]
    exact ih (.member (hstays.leads h) (isMember_member owner first arena₀))

/-- Later nodes have no hints yet. -/
theorem hint_of_le (hnode : arena.size ≤ node.index) (hsize : arena.hints.size = arena.nodes.size) :
    arena.hint node = none := by
  rw [hint, Array.getElem?_eq_none (hsize ▸ hnode), Option.join_none]

/-- A node that is allocated without a hint has none. -/
theorem hint_push_self (new : Node)
    (hsize : (push new arena).2.hints.size = (push new arena).2.nodes.size) :
    (push new arena).2.hint (push new arena).1 = none := by
  rw [hint_push]
  exact hint_of_le (Nat.le_refl _) ((stays_push new arena).hints_size hsize)

/-- What is allocated without hints has none. -/
theorem Allocates.hint_new (h : arena.Allocates arena') (hnode : arena.size ≤ node.index)
    (hsize : arena'.hints.size = arena'.nodes.size) : arena'.hint node = .none := by
  rw [h.hint_eq]
  exact hint_of_le hnode (h.stays.hints_size hsize)

/-- A member access is a new node. -/
theorem le_member (owner : NodeId) (name : String) (arena : Arena) :
    arena.size ≤ (member owner name arena).1.index := by
  unfold member
  split
  · exact Nat.le_refl _
  · exact (stays_push _ arena).size

/-- A chain of members ends in a new node if its root is new. -/
theorem le_foldlM_member {size : Nat} {more : List String} {owner : NodeId} {arena : Arena}
    (hsize : size ≤ arena.size) (howner : size ≤ owner.index) :
    size ≤ (more.foldlM member owner arena).1.index := by
  induction more generalizing owner arena with
  | nil => exact howner
  | cons first more ih =>
    have hstays := (allocates_member owner first arena).stays
    exact ih (Nat.le_trans hsize hstays.size) (Nat.le_trans hsize (le_member owner first arena))

/-- A dotted name is built as a member chain from a new leaf. -/
theorem isPath_path (path : String) (arena : Arena) :
    (Arena.path path arena).2.IsPath path ⟨arena.size⟩ (Arena.path path arena).1 := by
  obtain ⟨rooted, hrooted⟩ : ∃ rooted, rooted = (push (.ident (dotComponents path).1) arena).2 :=
    ⟨_, rfl⟩
  have hroot : rooted.node? ⟨arena.size⟩ = some (.ident (dotComponents path).1) := by
    rw [hrooted]
    exact node?_push_self _ arena
  have hstays := (allocates_foldlM allocates_member (dotComponents path).2 ⟨arena.size⟩ rooted).stays
  have hleads := leads_foldlM_member (show rooted.Leads ⟨arena.size⟩ [] ⟨arena.size⟩ from .root)
    (dotComponents path).2
  rw [hrooted] at hstays hleads hroot
  exact ⟨hstays.node?_eq hroot rfl rfl, hleads⟩

/-- A member chain ends in a node without a hint. -/
theorem hint_path (path : String) (arena : Arena)
    (hsize : (Arena.path path arena).2.hints.size = (Arena.path path arena).2.nodes.size) :
    (Arena.path path arena).2.hint (Arena.path path arena).1 = none := by
  have hpushed := stays_push (.ident (dotComponents path).1) arena
  have hchain := allocates_foldlM allocates_member (dotComponents path).2 ⟨arena.size⟩
    (push (.ident (dotComponents path).1) arena).2
  refine (hchain.hint_eq _).trans ((hint_push _ arena _).trans (hint_of_le ?_ ?_))
  · exact le_foldlM_member hpushed.size (Nat.le_refl _)
  · exact hpushed.hints_size (hchain.stays.hints_size hsize)

end Arena

/-! ### Values without a node of their own -/

namespace Builder

/-- A node stands for a value by what was declared for it: it is the undefined value, null, a
    reference to the global scope or to the placeholder of a parameter, or the member chain of a
    builtin. A union of one member is denoted as that member. -/
inductive Denotes (graph : ShapeGraph) (builder : Builder) : ShapeId → NodeId → Prop
  | undefined {id : ShapeId} {node zero : NodeId} :
      graph.shape? id = some (.primitive .undefined) ∨ graph.shape? id = some (.union []) →
      builder.arena.node? node = some (.unary .void zero) →
      builder.arena.node? zero = some (.literal (.int 0)) → Denotes graph builder id node
  | null {id : ShapeId} {node : NodeId} : graph.shape? id = some (.primitive .null) →
      builder.arena.node? node = some (.literal .null) → Denotes graph builder id node
  | scope {id : ShapeId} {node : NodeId} {properties : Properties} {name : String} :
      graph.shape? id = some (.global properties) → builder.globalName = some name →
      builder.arena.node? node = some (.ident name) → Denotes graph builder id node
  | placeholder {id : ShapeId} {node : NodeId} {use : Parameter} {name : String} :
      graph.shape? id = some (.parameter use) → builder.placeholders[id.index]? = some name →
      builder.arena.node? node = some (.ident name) → Denotes graph builder id node
  | builtin {id : ShapeId} {root node : NodeId} {fullName : String} {properties : Properties}
      {constructible : Bool} :
      graph.shape? id = some (.builtin fullName properties constructible) →
      builder.arena.IsPath fullName root node → Denotes graph builder id node
  | only {id only : ShapeId} {node : NodeId} : graph.shape? id = some (.union [only]) →
      Denotes graph builder only node → Denotes graph builder id node

/-- An answer is accounted for: the shape has a node of its own, or the answer denotes the value and
    has no hint, so that no other reference shares it. (The arena is to have places for the
    hints.) -/
inductive Answers (graph : ShapeGraph) (builder : Builder) : ShapeId → NodeId → Prop
  | remembered {id : ShapeId} (node : NodeId) : (builder.nodes[id.index]?).isSome →
      Answers graph builder id node
  | own {id : ShapeId} {shape : Shape} (node : NodeId) : graph.shape? id = some shape →
      shape.hasOwnNode = true → Answers graph builder id node
  | denoted {id : ShapeId} {node : NodeId} : builder.Denotes graph id node →
      (builder.arena.hints.size = builder.arena.nodes.size → builder.arena.hint node = none) →
      Answers graph builder id node
  | only {id only : ShapeId} {node : NodeId} : graph.shape? id = some (.union [only]) →
      Answers graph builder only node → Answers graph builder id node

variable {settings : Settings} {graph : ShapeGraph} {builder builder' builder'' : Builder}
  {id : ShapeId} {node stmt : NodeId} {exempt : List ShapeId}

/-- What denotes a value is no container and no chain of alternatives. -/
theorem Denotes.exists_node (h : builder.Denotes graph id node) :
    ∃ former, builder.arena.node? node = some former ∧ former.isContainer = false ∧
      ∀ left right, former ≠ .or left right := by
  induction h with
  | undefined _ hnode _ | null _ hnode | scope _ _ hnode | placeholder _ _ hnode =>
    exact ⟨_, hnode, rfl, nofun⟩
  | builtin _ hpath =>
    obtain ⟨_, hnode⟩ | ⟨_, _, hnode⟩ := hpath.cases <;> exact ⟨_, hnode, rfl, nofun⟩
  | only _ _ ih => exact ih

/-- What denotes a value does so for good. -/
theorem Denotes.mono (h : builder.Denotes graph id node) (hextends : builder.Extends graph builder') :
    builder'.Denotes graph id node := by
  have hstays := hextends.arena
  induction h with
  | undefined hid hnode hzero =>
    exact .undefined hid (hstays.node?_eq hnode rfl rfl) (hstays.node?_eq hzero rfl rfl)
  | null hid hnode => exact .null hid (hstays.node?_eq hnode rfl rfl)
  | scope hid hname hnode =>
    exact .scope hid (hextends.globalName hname) (hstays.node?_eq hnode rfl rfl)
  | placeholder hid hname hnode =>
    exact .placeholder hid (hextends.placeholders hname) (hstays.node?_eq hnode rfl rfl)
  | builtin hid hpath => exact .builtin hid (hstays.isPath hpath)
  | only hid _ ih => exact .only hid ih

/-- What is accounted for is so for good. -/
theorem Answers.mono (h : builder.Answers graph id node) (hextends : builder.Extends graph builder') :
    builder'.Answers graph id node := by
  induction h with
  | remembered node hnode => exact .remembered node (hextends.remembers hnode)
  | own node hid hown => exact .own node hid hown
  | denoted hdenotes hhint =>
    obtain ⟨_, hnode, _, hother⟩ := hdenotes.exists_node
    exact .denoted (hdenotes.mono hextends) fun hsize =>
      (hextends.arena.hint hnode hother).trans (hhint (hextends.arena.hints_size hsize))
  | only hid _ ih => exact .only hid ih

end Builder

/-! ### Emissions -/

/-- What a top-level statement is there for, the declaration of the placeholders apart. -/
inductive Emission where
  /-- Declare the binding for the global scope. -/
  | scope
  /-- Write a property of a function value, or one that was added to a builtin. -/
  | property (owner : ShapeId) (written : String × ShapeId)
  /-- Give a global binding its value. -/
  | binding (name : String) (value : ShapeId)
deriving DecidableEq, Repr

/-- The property that is written, if it is one of this owner. -/
def Emission.property? (owner : ShapeId) : Emission → Option (String × ShapeId)
  | property other written => if other = owner then some written else none
  | _ => none

namespace ShapeGraph

/-- The properties that were added to a builtin. -/
def additions (graph : ShapeGraph) (fullName : String) (properties : Properties) :
    List (String × ShapeId) :=
  properties.toList.filter fun binding => !Gen.isOwnMember graph fullName binding

/-- The properties of a function value or of a builtin that are written out at the top level. -/
def written (settings : Settings) (graph : ShapeGraph) (id : ShapeId) : List (String × ShapeId) :=
  match graph.shape? id with
  | some (.function fn) => graph.statics settings fn
  | some (.builtin fullName properties _) => graph.additions fullName properties
  | _ => []

variable {settings : Settings} {graph : ShapeGraph} {id : ShapeId}

/-- For a function value these are the properties that are not left out. -/
theorem written_function {fn : FunctionShape} (hid : graph.shape? id = some (.function fn)) :
    graph.written settings id = graph.statics settings fn := by
  rw [written, hid]

/-- For a builtin these are the properties that were added to it. -/
theorem written_builtin {fullName : String} {properties : Properties} {constructible : Bool}
    (hid : graph.shape? id = some (.builtin fullName properties constructible)) :
    graph.written settings id = graph.additions fullName properties := by
  rw [written, hid]

end ShapeGraph

/-- What is there once something is done, if it was not done before. -/
def newly (before after : Bool) (items : List α) : List α :=
  if !before && after then items else []

/-- Where nothing is done there is nothing new. -/
theorem newly_self (done : Bool) (items : List α) : newly done done items = [] := by
  cases done <;> rfl

/-- What is done stays done, so it is done once. -/
theorem newly_append {before between after : Bool} (h : before = true → between = true)
    (h' : between = true → after = true) (items : List α) :
    newly before between items ++ newly between after items = newly before after items := by
  cases before <;> cases between <;> cases after <;> simp_all [newly]

/-- What was done before is not done again. -/
theorem newly_of_before {before after : Bool} (h : before = true) (items : List α) :
    newly before after items = [] := by
  rw [h]
  rfl

namespace Builder

/-- Whether the properties of a shape are written out, or are being written out. -/
def marks (graph : ShapeGraph) (builder : Builder) (id : ShapeId) : Bool :=
  match graph.shape? id with
  | some (.function _) => (builder.nodes[id.index]?).isSome
  | some (.builtin ..) => builder.patched.contains id.index
  | _ => false

/-- A node stands for the owner of properties that are written out: it is the node of a function, or
    a member chain that was made for a builtin. -/
inductive IsOwner (graph : ShapeGraph) (builder : Builder) (id : ShapeId) (owner : NodeId) : Prop
  | function {fn : FunctionShape} : graph.shape? id = some (.function fn) →
      builder.nodes[id.index]? = some owner → IsOwner graph builder id owner
  | builtin {fullName : String} {properties : Properties} {constructible : Bool} {root : NodeId} :
      graph.shape? id = some (.builtin fullName properties constructible) →
      builder.arena.IsPath fullName root owner → (root, .platform fullName) ∈ builder.origins →
      IsOwner graph builder id owner

/-- A node stands for a binding of the global scope: it is a leaf with its name, or the member of a
    leaf that refers to the global scope. -/
inductive IsBinding (builder : Builder) (name : String) (target : NodeId) : Prop
  | named : builder.arena.node? target = some (.ident name) → IsBinding builder name target
  | member {scope : NodeId} {former : String} : builder.arena.IsMember target scope name →
      builder.arena.node? scope = some (.ident former) →
      (∀ origin, (scope, origin) ∉ builder.origins) → IsBinding builder name target

/-- A statement does what it is there for. -/
def Emitted (graph : ShapeGraph) (builder : Builder) (stmt : NodeId) : Emission → Prop
  | .scope => ∃ decl, builder.arena.node? stmt = some decl ∧ decl.isBinding = true
  | .property id written => ∃ target owner value, builder.arena.Assigns stmt target value ∧
      builder.arena.IsMember target owner written.1 ∧ builder.IsOwner graph id owner ∧
      (written.2, .ok value) ∈ builder.visits
  | .binding name value => ∃ target node, builder.arena.Assigns stmt target node ∧
      builder.IsBinding name target ∧ (value, .ok node) ∈ builder.visits

/-- Functions have function nodes, and no two of them have the same one. -/
structure DistinctFunctions (graph : ShapeGraph) (builder : Builder) : Prop where
  node : ∀ {id fn node}, graph.shape? id = some (.function fn) →
    builder.nodes[id.index]? = some node →
    ∃ params body, builder.arena.node? node = some (.function params body)
  inj : ∀ {id id' fn fn' node}, graph.shape? id = some (.function fn) →
    graph.shape? id' = some (.function fn') → builder.nodes[id.index]? = some node →
    builder.nodes[id'.index]? = some node → id = id'

variable {settings : Settings} {graph : ShapeGraph} {builder builder' builder'' : Builder}
  {id : ShapeId} {node stmt : NodeId} {exempt : List ShapeId}

/-- The properties of a function are written once it is remembered. -/
theorem marks_function {fn : FunctionShape} (hid : graph.shape? id = some (.function fn)) :
    builder.marks graph id = (builder.nodes[id.index]?).isSome := by
  rw [marks, hid]

/-- The properties of a builtin are written once it is marked. -/
theorem marks_builtin {fullName : String} {properties : Properties} {constructible : Bool}
    (hid : graph.shape? id = some (.builtin fullName properties constructible)) :
    builder.marks graph id = builder.patched.contains id.index := by
  rw [marks, hid]

/-- Whether a shape is marked depends on its own entry only. -/
theorem marks_congr (hnodes : ∀ fn, graph.shape? id = some (.function fn) →
      builder'.nodes[id.index]? = builder.nodes[id.index]?)
    (hpatched : builder'.patched.contains id.index = builder.patched.contains id.index) :
    builder'.marks graph id = builder.marks graph id := by
  unfold marks
  split
  · next fn hfn => rw [hnodes fn hfn]
  · exact hpatched
  · rfl

/-- A mark is never taken away. -/
theorem Extends.marks (h : builder.Extends graph builder') (hmarks : builder.marks graph id = true) :
    builder'.marks graph id = true := by
  unfold Builder.marks at hmarks ⊢
  split at hmarks
  · exact h.remembers hmarks
  · exact h.patched hmarks
  · cases hmarks

/-- An owner stays one. -/
theorem IsOwner.mono {owner : NodeId} (h : builder.IsOwner graph id owner)
    (hextends : builder.Extends graph builder') : builder'.IsOwner graph id owner := by
  cases h with
  | function hid hnode => exact .function hid (hextends.function hid hnode)
  | builtin hid hpath horigin =>
    exact .builtin hid (hextends.arena.isPath hpath) (hextends.origins _ horigin)

/-- What stands for a global binding goes on to do so. -/
theorem IsBinding.mono {name : String} {target : NodeId} (h : builder.IsBinding name target)
    (hextends : builder.Extends graph builder') : builder'.IsBinding name target := by
  have hstays := hextends.arena
  cases h with
  | named htarget => exact .named (hstays.node?_eq htarget rfl rfl)
  | member hmember hscope hnot =>
    refine .member (hstays.isMember hmember) (hstays.node?_eq hscope rfl rfl) fun origin hmem => ?_
    -- The scope was there before, so it is no new leaf.
    rcases hextends.fresh hmem with hformer | ⟨hsize, _⟩
    · exact hnot origin hformer
    · exact Nat.not_lt.2 hsize (Arena.lt_size_of_node? hscope)

/-- A statement goes on to do what it is there for. -/
theorem Emitted.mono {emission : Emission} (h : builder.Emitted graph stmt emission)
    (hextends : builder.Extends graph builder') : builder'.Emitted graph stmt emission := by
  have hstays := hextends.arena
  cases emission with
  | scope =>
    obtain ⟨decl, hdecl, hbinding⟩ := h
    exact hstays.isBinding hdecl hbinding
  | property id written =>
    obtain ⟨target, owner, value, hassigns, hmember, howner, hvisit⟩ := h
    exact ⟨target, owner, value, hstays.assigns hassigns, hstays.isMember hmember,
      howner.mono hextends, hextends.visits _ hvisit⟩
  | binding name value =>
    obtain ⟨target, node, hassigns, htarget, hvisit⟩ := h
    exact ⟨target, node, hstays.assigns hassigns, htarget.mono hextends, hextends.visits _ hvisit⟩

/-- If no function is remembered, then functions stay distinct. -/
theorem DistinctFunctions.mono (h : builder.DistinctFunctions graph)
    (hstays : builder.arena.Stays builder'.arena)
    (hnodes : ∀ {id fn}, graph.shape? id = some (.function fn) →
      builder'.nodes[id.index]? = builder.nodes[id.index]?) : builder'.DistinctFunctions graph where
  node hid hnode := by
    rw [hnodes hid] at hnode
    obtain ⟨params, body, hfunction⟩ := h.node hid hnode
    exact ⟨params, body, hstays.node?_eq hfunction rfl rfl⟩
  inj hid hid' hnode hnode' := by
    rw [hnodes hid] at hnode
    rw [hnodes hid'] at hnode'
    exact h.inj hid hid' hnode hnode'

/-! ### Accounts -/

/-- What a generation has emitted and what it has answered, apart from the properties of functions
    and builtins that are exempt. -/
structure Accounts (settings : Settings) (graph : ShapeGraph) (exempt : List ShapeId)
    (emissions : List Emission) (builder builder' : Builder) : Prop
    extends Extends graph builder builder' where
  statements : ∃ emitted, builder'.statements.toList = builder.statements.toList ++ emitted ∧
    List.Forall₂ (builder'.Emitted graph) emitted emissions
  written : ∀ {id}, id ∉ exempt → emissions.filterMap (Emission.property? id) =
    newly (builder.marks graph id) (builder'.marks graph id) (graph.written settings id)
  answers : ∀ {id node}, (id, .ok node) ∈ builder'.visits →
    (id, .ok node) ∈ builder.visits ∨ builder'.Answers graph id node
  primitives : ∀ {id kind node}, graph.shape? id = some (.primitive kind) →
    builder'.nodes[id.index]? = some node → builder.nodes[id.index]? = some node ∨
      builder'.arena.IsFixed node
  distinct : builder.DistinctFunctions graph → builder'.DistinctFunctions graph

variable {emissions emissions' : List Emission}

/-- Nothing is remembered, marked or answered. -/
theorem Extends.emits (h : builder.Extends graph builder') (hnodes : builder'.nodes = builder.nodes)
    (hpatched : builder'.patched = builder.patched) (hvisits : builder'.visits = builder.visits)
    {emitted : List NodeId}
    (hstatements : builder'.statements.toList = builder.statements.toList ++ emitted)
    (hemitted : List.Forall₂ (builder'.Emitted graph) emitted emissions)
    (hexempt : ∀ id, id ∉ exempt → emissions.filterMap (Emission.property? id) = []) :
    builder.Accounts settings graph exempt emissions builder' where
  toExtends := h
  statements := ⟨emitted, hstatements, hemitted⟩
  written {id} hid := by
    rw [hexempt id hid, marks_congr (fun _ _ => by rw [hnodes]) (by rw [hpatched]), newly_self]
  answers hmem := .inl (hvisits ▸ hmem)
  primitives _ hnode := .inl (hnodes ▸ hnode)
  distinct hdistinct := hdistinct.mono h.arena fun _ => by rw [hnodes]

/-- Nothing is emitted either. -/
theorem Extends.accounts (h : builder.Extends graph builder')
    (hnodes : builder'.nodes = builder.nodes) (hpatched : builder'.patched = builder.patched)
    (hvisits : builder'.visits = builder.visits)
    (hstatements : builder'.statements = builder.statements) :
    builder.Accounts settings graph exempt [] builder' :=
  h.emits hnodes hpatched hvisits (by rw [hstatements, List.append_nil]) .nil
    fun _ _ => Eq.refl _

/-- Doing nothing emits nothing. -/
theorem Accounts.rfl : builder.Accounts settings graph exempt [] builder :=
  Extends.rfl.accounts (Eq.refl _) (Eq.refl _) (Eq.refl _) (Eq.refl _)

/-- Only the arena changes. -/
theorem accounts_arena {arena : Arena} (h : builder.arena.Stays arena) :
    builder.Accounts settings graph exempt [] { builder with arena } :=
  (extends_arena h).accounts (Eq.refl _) (Eq.refl _) (Eq.refl _) (Eq.refl _)

/-- What the second part emits comes after what the first part has emitted. -/
theorem Accounts.trans (h : builder.Accounts settings graph exempt emissions builder')
    (h' : builder'.Accounts settings graph exempt emissions' builder'') :
    builder.Accounts settings graph exempt (emissions ++ emissions') builder'' where
  toExtends := h.toExtends.trans h'.toExtends
  statements := by
    obtain ⟨emitted, hstatements, hemitted⟩ := h.statements
    obtain ⟨emitted', hstatements', hemitted'⟩ := h'.statements
    refine ⟨emitted ++ emitted', by rw [hstatements', hstatements, List.append_assoc], ?_⟩
    exact List.rel_append (hemitted.imp fun _ _ hemitted => hemitted.mono h'.toExtends) hemitted'
  written hid := by
    rw [List.filterMap_append, h.written hid, h'.written hid]
    -- What the first part writes is marked by then, so that the second part leaves it alone.
    exact newly_append h.toExtends.marks h'.toExtends.marks _
  answers hmem := by
    rcases h'.answers hmem with hformer | hanswers
    · exact (h.answers hformer).imp_right fun hanswers => hanswers.mono h'.toExtends
    · exact .inr hanswers
  primitives hid hnode := by
    rcases h'.primitives hid hnode with hformer | hmade
    · exact (h.primitives hid hformer).imp_right h'.arena.isFixed
    · exact .inr hmade
  distinct hdistinct := h'.distinct (h.distinct hdistinct)

/-- Functions and builtins that are worked on may be exempt. -/
theorem Accounts.mono {exempt' : List ShapeId}
    (h : builder.Accounts settings graph exempt emissions builder') (hexempt : exempt ⊆ exempt') :
    builder.Accounts settings graph exempt' emissions builder' :=
  { h with written := fun hid => h.written fun hmem => hid (hexempt hmem) }

/-- An assignment is emitted. -/
theorem accounts_emitAssign {target value : NodeId} {emission : Emission}
    (hexempt : ∀ id, id ∉ exempt → emission.property? id = none)
    (hemitted : ∀ {builder' : Builder} {stmt}, builder.Extends graph builder' →
      builder'.arena.Assigns stmt target value → builder'.Emitted graph stmt emission) :
    builder.Accounts settings graph exempt [emission]
      { builder with
        arena := (Arena.assignStmt target value builder.arena).2
        statements := builder.statements.push (Arena.assignStmt target value builder.arena).1 } := by
  have hextends : builder.Extends graph
      { builder with
        arena := (Arena.assignStmt target value builder.arena).2
        statements := builder.statements.push (Arena.assignStmt target value builder.arena).1 } :=
    extends_of_arena (Arena.allocates_assignStmt target value _).stays (Eq.refl _) (Eq.refl _)
      (Eq.refl _) (Eq.refl _) (Eq.refl _) (Eq.refl _) (Eq.refl _)
  exact hextends.emits (Eq.refl _) (Eq.refl _) (Eq.refl _) Array.toList_push
    (.cons (hemitted hextends (Arena.assigns_assignStmt target value builder.arena)) .nil)
    fun id hid => by rw [List.filterMap_cons, hexempt id hid]; exact Eq.refl _

/-- The binding for the global scope is declared. -/
theorem accounts_declareScope (hnone : builder.globalName = none) (name : String)
    (names : NameSupply) :
    builder.Accounts settings graph exempt [.scope] (builder.declareScope name names) :=
  (extends_declareScope hnone name names).emits (Eq.refl _) (Eq.refl _) (Eq.refl _)
    Array.toList_push (.cons ⟨_, Arena.node?_push_self _ _, Eq.refl _⟩ .nil) fun _ _ => Eq.refl _

/-- Remembering a node for one shape does not matter to another one. -/
theorem getElem?_insert_of_ne {nodes : Std.TreeMap Nat NodeId} {other : ShapeId} (hne : other ≠ id) :
    (nodes.insert id.index node)[other.index]? = nodes[other.index]? := by
  rw [Std.TreeMap.getElem?_insert, if_neg]
  exact fun heq => hne (congrArg ShapeId.mk (Std.LawfulEqCmp.eq_of_compare heq)).symm

/-- A shape is remembered that is no function. If it is a primitive, its node stays as it is. -/
theorem accounts_remember {shape : Shape} (hid : graph.shape? id = some shape)
    (hfunction : ∀ fn, shape ≠ .function fn)
    (hprimitive : ∀ kind, shape = .primitive kind → builder.arena.IsFixed node) :
    builder.Accounts settings graph exempt []
      { builder with nodes := builder.nodes.insert id.index node } := by
  -- The nodes of functions stay as they are, and so do the marks.
  have hother {other : ShapeId} {fn : FunctionShape}
      (hfn : graph.shape? other = some (.function fn)) :
      (builder.nodes.insert id.index node)[other.index]? = builder.nodes[other.index]? := by
    refine getElem?_insert_of_ne ?_
    rintro rfl
    exact hfunction fn (Option.some.inj (hid.symm.trans hfn))
  exact
    { toExtends := extends_remember fun fn hfn =>
        absurd (Option.some.inj (hid.symm.trans hfn)) (hfunction fn)
      statements := ⟨[], (List.append_nil _).symm, .nil⟩
      written := fun {other} _ => by
        have hmarks : Builder.marks graph
            { builder with nodes := builder.nodes.insert id.index node } other =
              builder.marks graph other := marks_congr (fun _ hfn => hother hfn) (Eq.refl _)
        rw [hmarks, newly_self]
        rfl
      answers := .inl
      primitives := fun {other kind made} hkind hnode => by
        rw [Std.TreeMap.getElem?_insert] at hnode
        split at hnode
        · next heq =>
          obtain rfl : id = other := congrArg ShapeId.mk (Std.LawfulEqCmp.eq_of_compare heq)
          obtain rfl := Option.some.inj hnode
          exact .inr (hprimitive kind (Option.some.inj (hid.symm.trans hkind)))
        · exact .inl hnode
      distinct := fun hdistinct => hdistinct.mono .rfl hother }

/-- An answer is noted. -/
theorem accounts_note (h : builder.Answers graph id node) :
    builder.Accounts settings graph exempt []
      { builder with visits := builder.visits.push (id, .ok node) } where
  toExtends := extends_note _
  statements := ⟨[], (List.append_nil _).symm, .nil⟩
  written {id} _ := (newly_self (builder.marks graph id) _).symm
  answers {other answer} hmem := by
    rcases Array.mem_push.1 hmem with hformer | hlast
    · exact .inl hformer
    · obtain ⟨rfl, hanswer⟩ := Prod.mk.inj hlast
      obtain rfl := Except.ok.inj hanswer
      exact .inr (h.mono (extends_note _))
  primitives _ := .inl
  distinct hdistinct := hdistinct.mono .rfl fun _ => Eq.refl _

/-! ### What is worked on -/

/-- A function is remembered with a new node, so with one that no function has yet. -/
theorem DistinctFunctions.made {params : Array String} {body : NodeId} {arena : Arena}
    (h : builder.DistinctFunctions graph) (hstays : builder.arena.Stays arena)
    (hnew : builder.arena.size ≤ node.index)
    (hnode : arena.node? node = some (.function params body)) :
    DistinctFunctions graph
      { builder with arena, nodes := builder.nodes.insert id.index node } where
  node {other fn former} hfn hformer := by
    by_cases hne : other = id
    · subst hne
      obtain rfl := Option.some.inj (Std.TreeMap.getElem?_insert_self.symm.trans hformer)
      exact ⟨params, body, hnode⟩
    · obtain ⟨params', body', hfunction⟩ := h.node hfn ((getElem?_insert_of_ne hne).symm.trans hformer)
      exact ⟨params', body', hstays.node?_eq hfunction (Eq.refl _) (Eq.refl _)⟩
  inj {first second fn₁ fn₂ former} hfirst hsecond hformer hformer' := by
    -- A node that was there before is not the new one.
    have hold {other : ShapeId} {fn : FunctionShape} (hfn : graph.shape? other = some (.function fn))
        (hother : (builder.nodes.insert id.index node)[other.index]? = some node) : other = id := by
      by_contra hne
      obtain ⟨_, _, hfunction⟩ := h.node hfn ((getElem?_insert_of_ne hne).symm.trans hother)
      exact Nat.not_lt.2 hnew (Arena.lt_size_of_node? hfunction)
    by_cases hne : first = id
    · subst hne
      obtain rfl := Option.some.inj (Std.TreeMap.getElem?_insert_self.symm.trans hformer)
      exact (hold hsecond hformer').symm
    · by_cases hne' : second = id
      · subst hne'
        obtain rfl := Option.some.inj (Std.TreeMap.getElem?_insert_self.symm.trans hformer')
        exact hold hfirst hformer
      · exact h.inj hfirst hsecond ((getElem?_insert_of_ne hne).symm.trans hformer)
          ((getElem?_insert_of_ne hne').symm.trans hformer')

/-- A function is remembered with a new node, and all properties of the function value are written
    afterwards. -/
theorem Accounts.made {fn : FunctionShape} {params : Array String} {body : NodeId} {arena : Arena}
    (h : Accounts settings graph [id] emissions
      { builder with arena, nodes := builder.nodes.insert id.index node } builder')
    (hid : graph.shape? id = some (.function fn)) (hnone : builder.nodes[id.index]? = none)
    (hstays : builder.arena.Stays arena) (hnew : builder.arena.size ≤ node.index)
    (hnode : arena.node? node = some (.function params body))
    (hwritten : emissions.filterMap (Emission.property? id) = graph.statics settings fn) :
    builder.Accounts settings graph [] emissions builder' := by
  have hextends : builder.Extends graph
      { builder with arena, nodes := builder.nodes.insert id.index node } :=
    (extends_arena hstays).trans (extends_remember fun _ _ => hnone)
  have hmarked : Builder.marks graph
      { builder with arena, nodes := builder.nodes.insert id.index node } id = true := by
    rw [marks_function hid]
    exact congrArg Option.isSome Std.TreeMap.getElem?_insert_self
  exact
    { toExtends := hextends.trans h.toExtends
      statements := h.statements
      written := fun {other} _ => by
        by_cases hne : other = id
        · subst hne
          rw [hwritten, ShapeGraph.written_function hid, marks_function hid, hnone,
            h.toExtends.marks hmarked]
          exact Eq.refl _
        · rw [h.written fun hmem => hne (List.mem_singleton.1 hmem)]
          congr 1
          exact marks_congr (fun _ _ => getElem?_insert_of_ne hne) (Eq.refl _)
      answers := h.answers
      primitives := fun {other kind made} hkind hmade => by
        have hne : other ≠ id := by
          rintro rfl
          cases hid.symm.trans hkind
        exact (h.primitives hkind hmade).imp_left (getElem?_insert_of_ne hne).symm.trans
      distinct := fun hdistinct => h.distinct (hdistinct.made hstays hnew hnode) }

/-- A builtin is marked, and all properties that were added to it are written afterwards. -/
theorem Accounts.marked {fullName : String} {properties : Properties} {constructible : Bool}
    (h : Accounts settings graph [id] emissions
      { builder with patched := builder.patched.insert id.index } builder')
    (hid : graph.shape? id = some (.builtin fullName properties constructible))
    (hnot : builder.patched.contains id.index = false)
    (hwritten : emissions.filterMap (Emission.property? id) = graph.additions fullName properties) :
    builder.Accounts settings graph [] emissions builder' where
  toExtends := extends_mark.trans h.toExtends
  statements := h.statements
  written {other} _ := by
    by_cases hne : other = id
    · subst hne
      rw [hwritten, ShapeGraph.written_builtin hid, marks_builtin hid, hnot,
        h.toExtends.marks (by rw [marks_builtin hid]; exact Std.TreeSet.contains_insert_self)]
      exact Eq.refl _
    · rw [h.written fun hmem => hne (List.mem_singleton.1 hmem)]
      congr 1
      refine marks_congr (fun _ _ => Eq.refl _) ?_
      rw [Std.TreeSet.contains_insert, show (compare id.index other.index == .eq) = false from
        beq_eq_false_iff_ne.2 fun heq =>
          hne (congrArg ShapeId.mk (Std.LawfulEqCmp.eq_of_compare heq)).symm, Bool.false_or]
  answers := h.answers
  primitives := h.primitives
  distinct hdistinct := h.distinct (hdistinct.mono .rfl fun _ => Eq.refl _)

end Builder

end Semblance
