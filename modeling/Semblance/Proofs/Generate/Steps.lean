import Mathlib.Logic.Relation
import Semblance.Proofs.Generate.Arena
import Semblance.Proofs.Shape.Changes

/-!
# The steps of a generation

Whatever the rules of generation do to a builder, they do by a few kinds of steps: they allocate
nodes, fill containers, emit assignments, note what is generated, declare bindings, and refer to
them. `Builder.Step` lists these steps, each with what it may count on. Most of them are quiet: they
fill containers and add nodes, but they declare nothing.

## Key results

- `Builder.Step`: the steps
- `Step.cases_quiet`: a step is quiet, or it declares or refers to a binding
- `Step.node?_of_node?`: which nodes a step changes
-/

namespace Semblance

/-! ### Names -/

/-- The hints for the names of bindings, that of the global scope apart. -/
inductive ShapeGraph.BindingHint (graph : ShapeGraph) : String → Prop where
  | shape {stem : String} (label : Nat) : stem ∈ ["obj_", "array_", "function_", "new_", "union_"] →
      BindingHint graph (stem ++ toString label)
  | parameter (label index : Nat) :
      BindingHint graph ("function_" ++ toString label ++ "_" ++ toString index)
  | primitive {hint : String} : hint ∈ ["$NUMBER$", "$BOOLEAN$", "$STRING$", "$REGEXP$"] →
      BindingHint graph hint
  /-- What a builtin constructs is named after the builtin. -/
  | constructed {id : ShapeId} {fullName : String} {properties : Properties}
      {constructible : Bool} :
      graph.shape? id = some (.builtin fullName properties constructible) →
      BindingHint graph ("new_" ++ fullName.map fun c => if c = '.' then '_' else c)

/-- The dotted names of the platform that stand for a shape. -/
def ShapeGraph.PlatformName (graph : ShapeGraph) (path : String) : Prop :=
  path ∈ ["Math.random", "String", "RegExp"] ∨
    ∃ id properties constructible, graph.shape? id = some (.builtin path properties constructible)

/-! ### Steps -/

namespace Builder

/-- The function of a shape was made with this body. -/
def HasBody (builder : Builder) (id : ShapeId) (fn : FunctionShape) (body : NodeId) : Prop :=
  ∃ node, builder.nodes[id.index]? = some node ∧
    builder.arena.node? node = some (.function fn.formals body) ∧
    ∃ statements, builder.arena.node? body = some (.block statements)

/-- Make a leaf that refers to no binding. -/
def leaf (builder : Builder) (origin : Origin) : Builder :=
  { builder with
    arena := (Arena.push origin.node builder.arena).2
    origins := builder.origins.push ((Arena.push origin.node builder.arena).1, origin) }

/-- Append an assignment to a block. -/
def assignIn (builder : Builder) (block target value : NodeId) : Builder :=
  { builder with
    arena := (Arena.assignStmt target value builder.arena).2.appendStmt block
      (Arena.assignStmt target value builder.arena).1 }

/-- Assign a new leaf to a placeholder. -/
def copyParam (builder : Builder) (origin : Origin) (body target : NodeId) : Builder :=
  (builder.leaf origin).assignIn body target (Arena.push origin.node builder.arena).1

/-- Assign to a member of a new receiver. -/
def writeToReceiver (builder : Builder) (id : ShapeId) (name : String) (body value : NodeId) :
    Builder :=
  let receiver := (Arena.push Node.this builder.arena).1
  let builder := builder.leaf (.receiver id)
  { builder with arena := (Arena.member receiver name builder.arena).2 }.assignIn body
    (Arena.member receiver name builder.arena).1 value

/-- The declarator of the binding for the global scope. -/
def scopeDeclarator (builder : Builder) (name : String) : NodeId × Arena :=
  Arena.push (.declarator name (some (Arena.this builder.arena).1)) (Arena.this builder.arena).2

/-- The declaration of the binding for the global scope. -/
def scopeDecl (builder : Builder) (name : String) : NodeId × Arena :=
  Arena.push (.varDecl #[(builder.scopeDeclarator name).1]) (builder.scopeDeclarator name).2

/-- Declare the binding for the global scope. -/
def declareScope (builder : Builder) (name : String) (names : NameSupply) : Builder :=
  { builder with
    arena := (builder.scopeDecl name).2
    names
    statements := builder.statements.push (builder.scopeDecl name).1
    globalName := some name }

/-- The declaration of the placeholders with one more, which may be the first one. -/
def placeholderDeclWith (builder : Builder) (name : String) : NodeId × Arena :=
  let (declarator, arena) := Arena.push (.declarator name none) builder.arena
  match builder.placeholderDecl with
  | some decl => (decl, arena.appendDeclarator decl declarator)
  | none => Arena.push (.varDecl #[declarator]) arena

/-- Declare the placeholder of a parameter. -/
def declarePlaceholder (builder : Builder) (shape : ShapeId) (name : String) (names : NameSupply) :
    Builder :=
  { builder with
    arena := (builder.placeholderDeclWith name).2
    names
    placeholderDecl := some (builder.placeholderDeclWith name).1
    placeholders := builder.placeholders.insert shape.index name }

/-- The first placeholder gets a new declaration. -/
theorem placeholderDeclWith_none {builder : Builder} (h : builder.placeholderDecl = none)
    (name : String) : builder.placeholderDeclWith name =
      Arena.push (.varDecl #[(Arena.push (.declarator name none) builder.arena).1])
        (Arena.push (.declarator name none) builder.arena).2 := by
  rw [placeholderDeclWith, h]
  rfl

/-- Every placeholder but the first is put into the declaration that is there. -/
theorem placeholderDeclWith_some {builder : Builder} {decl : NodeId}
    (h : builder.placeholderDecl = some decl) (name : String) :
    builder.placeholderDeclWith name =
      (decl, (Arena.push (.declarator name none) builder.arena).2.appendDeclarator decl
        (Arena.push (.declarator name none) builder.arena).1) := by
  rw [placeholderDeclWith, h]
  rfl

/-- The name of a placeholder is noted outside of the arena. -/
theorem arena_declarePlaceholder (builder : Builder) (shape : ShapeId) (name : String)
    (names : NameSupply) : (builder.declarePlaceholder shape name names).arena =
      (builder.placeholderDeclWith name).2 :=
  rfl

/-- The name of the binding for a referent, once it is declared. -/
def nameOf? (builder : Builder) : Referent → Option String
  | .scope => builder.globalName
  | .parameter shape => builder.placeholders[shape.index]?

/-- Refer to a binding. -/
def refer (builder : Builder) (name : String) (referent : Referent) : Builder :=
  let (leaf, arena) := Arena.ident name builder.arena
  { builder with arena, references := builder.references.push (leaf, referent) }

/-- One step of a generation. -/
inductive Step (settings : Settings) (graph : ShapeGraph) (builder : Builder) : Builder → Prop
  | allocate {arena : Arena} : builder.arena.Allocates arena →
      Step settings graph builder { builder with arena }
  | allocateHinted {node : Node} {hint : String} : node.takesHint = true → graph.BindingHint hint →
      (∀ params body, node = .function params body →
        ∃ fn : FunctionShape, params = fn.formals) →
      Step settings graph builder
        { builder with arena := (Arena.pushHinted node hint builder.arena).2 }
  /-- A chain of alternatives gets its hint when it is complete. -/
  | hint {id left right : NodeId} {hint : String} :
      builder.arena.node? id = some (.or left right) → graph.BindingHint hint →
      Step settings graph builder { builder with arena := builder.arena.setHint id hint }
  | platform {path : String} : graph.PlatformName path →
      Step settings graph builder (builder.leaf (.platform path))
  | global {binding : String × ShapeId} : binding ∈ graph.globals →
      Step settings graph builder (builder.leaf (.global binding.1))
  /-- The value of an entry is the node of the function that it is bound to. -/
  | entry {kind : EntryKind} {name : String} {id : ShapeId} {value : NodeId} :
      graph.Binds kind name id →
      (∀ fn, graph.shape? id = some (.function fn) → builder.nodes[id.index]? = some value) →
      Step settings graph builder
        { builder with arena := (Arena.entry name value kind builder.arena).2 }
  | appendEntry (object entry : NodeId) :
      Step settings graph builder { builder with arena := builder.arena.appendEntry object entry }
  | appendStmt (block stmt : NodeId) :
      Step settings graph builder { builder with arena := builder.arena.appendStmt block stmt }
  | setElements {array : NodeId} {elements : Array (Option NodeId)}
      (slots : Array (Option NodeId)) : builder.arena.node? array = some (.array elements) →
      Step settings graph builder
        { builder with arena := builder.arena.modifyNode array fun _ => .array slots }
  | emit {stmt expr : NodeId} : builder.arena.node? stmt = some (.exprStmt expr) →
      Step settings graph builder { builder with statements := builder.statements.push stmt }
  | copyParam {id shape : ShapeId} {fn : FunctionShape} {body : NodeId} {index : Nat}
      (target : NodeId) : graph.shape? id = some (.function fn) → fn.accessor = none →
      (index, shape) ∈ fn.usedParams → builder.HasBody id fn body →
      Step settings graph builder
        (builder.copyParam (if index = 0 then .receiver id else .formal id index) body target)
  | writeToReceiver {id : ShapeId} {fn : FunctionShape} {body : NodeId} (name : String)
      (value : NodeId) : graph.shape? id = some (.function fn) → builder.HasBody id fn body →
      Step settings graph builder (builder.writeToReceiver id name body value)
  /-- A function is remembered once, with its formal parameters. -/
  | remember {id : ShapeId} {node : NodeId} :
      (∀ fn, graph.shape? id = some (.function fn) → builder.nodes[id.index]? = none ∧
        ∃ body, builder.arena.node? node = some (.function fn.formals body)) →
      Step settings graph builder
        { builder with nodes := builder.nodes.insert id.index node }
  | note (instances : Std.TreeMap Nat NodeId) (patched : Std.TreeSet Nat)
      (visits : Array (ShapeId × Except Fault NodeId)) :
      Step settings graph builder { builder with instances, patched, visits }
  | declareScope {name : String} {names : NameSupply} : builder.globalName = none →
      builder.names.fresh? settings.globalName = some (name, names) →
      Step settings graph builder (builder.declareScope name names)
  | declarePlaceholder {shape : ShapeId} {parameter : Parameter} {label : Nat} {name : String}
      {names : NameSupply} : builder.placeholders[shape.index]? = none →
      graph.label parameter.function = .ok label →
      builder.names.fresh? ("function_" ++ toString label ++ "_" ++ toString parameter.index) =
        some (name, names) →
      Step settings graph builder (builder.declarePlaceholder shape name names)
  | refer {name : String} {referent : Referent} : builder.nameOf? referent = some name →
      Step settings graph builder (builder.refer name referent)

/-- A sequence of steps. -/
abbrev Steps (settings : Settings) (graph : ShapeGraph) : Builder → Builder → Prop :=
  Relation.ReflTransGen (Step settings graph)

variable {settings : Settings} {graph : ShapeGraph} {builder builder' : Builder}

/-- A change of a builder that declares no binding and refers to none. -/
structure Quiet (builder builder' : Builder) : Prop where
  arena : builder.arena.Quiet builder'.arena
  names : builder'.names = builder.names
  placeholderDecl : builder'.placeholderDecl = builder.placeholderDecl
  globalName : builder'.globalName = builder.globalName
  placeholders : builder'.placeholders = builder.placeholders
  references : builder'.references = builder.references
  /-- Statements are only added. -/
  statements : builder.statements.toList <+: builder'.statements.toList

/-- What is quiet in the arena is quiet in the builder. -/
theorem Quiet.ofArena {arena : Arena} (h : builder.arena.Quiet arena) :
    builder.Quiet { builder with arena } :=
  ⟨h, rfl, rfl, rfl, rfl, rfl, List.prefix_rfl⟩

/-- Two quiet changes are one. -/
theorem Quiet.trans {builder'' : Builder} (h : builder.Quiet builder')
    (h' : builder'.Quiet builder'') : builder.Quiet builder'' where
  arena := h.arena.trans h'.arena
  names := h'.names.trans h.names
  placeholderDecl := h'.placeholderDecl.trans h.placeholderDecl
  globalName := h'.globalName.trans h.globalName
  placeholders := h'.placeholders.trans h.placeholders
  references := h'.references.trans h.references
  statements := h.statements.trans h'.statements

/-- A leaf that refers to no binding is quiet. -/
theorem quiet_leaf (builder : Builder) (origin : Origin) : builder.Quiet (builder.leaf origin) :=
  ⟨Arena.quiet_push (by cases origin <;> rfl), rfl, rfl, rfl, rfl, rfl, List.prefix_rfl⟩

/-- An assignment in a block is quiet. -/
theorem quiet_assignIn (builder : Builder) (block target value : NodeId) :
    builder.Quiet (builder.assignIn block target value) :=
  .ofArena (.trans (Arena.allocates_assignStmt target value builder.arena).quiet
    (Arena.quiet_appendStmt ..))

/-- A step is quiet, or it declares a binding or refers to one. -/
theorem Step.cases_quiet (h : builder.Step settings graph builder') :
    builder.Quiet builder' ∨
    (∃ name names, builder.globalName = none ∧
      builder.names.fresh? settings.globalName = some (name, names) ∧
      builder' = builder.declareScope name names) ∨
    (∃ shape hint name names, builder.placeholders[shape.index]? = none ∧
      builder.names.fresh? hint = some (name, names) ∧
      builder' = builder.declarePlaceholder shape name names) ∨
    ∃ name referent, builder.nameOf? referent = some name ∧
      builder' = builder.refer name referent := by
  cases h with
  | allocate hallocates => exact .inl (.ofArena hallocates.quiet)
  | @allocateHinted node hint hnode _ _ =>
    refine .inl (.ofArena (.trans (Arena.quiet_push (Node.isBinding_of_takesHint hnode))
      (Arena.quiet_setHint hint ?_)))
    intro node' hnode'
    -- The node that gets the hint is the new one, which may have it.
    rw [← Option.some.inj ((Arena.node?_push_self ..).symm.trans hnode')]
    exact Node.isLeaf_of_takesHint hnode
  | platform _ => exact .inl (quiet_leaf ..)
  | global _ => exact .inl (quiet_leaf ..)
  | entry _ _ => exact .inl (.ofArena (Arena.quiet_push rfl))
  | hint hnode _ =>
    refine .inl (.ofArena (Arena.quiet_setHint _ fun node hnode' => ?_))
    rw [← Option.some.inj (hnode.symm.trans hnode')]
    rfl
  | appendEntry object entry =>
    refine .inl (.ofArena (Arena.quiet_modifyNode fun node _ => ?_))
    split
    · exact .object
    · exact .same
  | appendStmt block stmt => exact .inl (.ofArena (Arena.quiet_appendStmt block stmt))
  | copyParam target _ _ _ _ => exact .inl ((quiet_leaf ..).trans (quiet_assignIn ..))
  | writeToReceiver name value _ _ =>
    exact .inl (((quiet_leaf ..).trans (.ofArena (Arena.allocates_member _ name _).quiet)).trans
      (quiet_assignIn ..))
  | setElements slots harray =>
    refine .inl (.ofArena (Arena.quiet_modifyNode fun node hnode => ?_))
    rw [← Option.some.inj (harray.symm.trans hnode)]
    exact .array
  | emit _ =>
    refine .inl ⟨.rfl, rfl, rfl, rfl, rfl, rfl, ?_⟩
    rw [Array.toList_push]
    exact List.prefix_append ..
  | remember _ | note _ _ _ => exact .inl ⟨.rfl, rfl, rfl, rfl, rfl, rfl, List.prefix_rfl⟩
  | declareScope hnone hfresh => exact .inr (.inl ⟨_, _, hnone, hfresh, rfl⟩)
  | declarePlaceholder hnone _ hfresh => exact .inr (.inr (.inl ⟨_, _, _, _, hnone, hfresh, rfl⟩))
  | refer hname => exact .inr (.inr (.inr ⟨_, _, hname, rfl⟩))

/-- A step fills containers, or it adds a placeholder to the declaration of the placeholders. -/
theorem Step.node?_of_node? (h : builder.Step settings graph builder') {id : NodeId} {node : Node}
    (hnode : builder.arena.node? id = some node) :
    ∃ node', builder'.arena.node? id = some node' ∧ (node.Fills node' ∨
      builder.placeholderDecl = some id ∧ ∃ declarators declarator name,
        node = .varDecl declarators ∧ node' = .varDecl (declarators.push declarator) ∧
        builder'.arena.node? declarator = some (.declarator name none)) := by
  rcases h.cases_quiet with hquiet | ⟨name, names, _, _, rfl⟩ | ⟨shape, _, name, names, _, _, rfl⟩ |
    ⟨name, referent, _, rfl⟩
  · obtain ⟨node', hnode', hfills⟩ := hquiet.arena.node hnode
    exact ⟨node', hnode', .inl hfills⟩
  · exact ⟨node, Arena.node?_push_of_node? (Arena.node?_push_of_node?
      (Arena.node?_push_of_node? hnode _) _) _, .inl .same⟩
  · have hpush := Arena.node?_push_of_node? hnode (.declarator name none)
    cases hdecl : builder.placeholderDecl with
    | none =>
      refine ⟨node, ?_, .inl .same⟩
      rw [arena_declarePlaceholder, placeholderDeclWith_none hdecl]
      exact Arena.node?_push_of_node? hpush _
    | some decl =>
      rw [arena_declarePlaceholder, placeholderDeclWith_some hdecl, Arena.appendDeclarator]
      by_cases heq : decl = id
      · subst heq
        rw [Arena.node?_modifyNode, if_pos rfl, hpush, Option.map_some]
        refine ⟨_, rfl, ?_⟩
        cases node with
        | varDecl declarators =>
          refine .inr ⟨rfl, declarators, _, name, rfl, rfl, ?_⟩
          rw [Arena.node?_modifyNode, if_neg, Arena.node?_push_self]
          -- The new declarator is no node that was there before.
          rintro rfl
          exact Nat.lt_irrefl _ (Arena.lt_size_of_node? hnode)
        | _ => exact .inl .same
      · rw [Arena.node?_modifyNode, if_neg heq]
        exact ⟨node, hpush, .inl .same⟩
  · exact ⟨node, Arena.node?_push_of_node? hnode _, .inl .same⟩

/-- Statements are only added. -/
theorem Step.statements_prefix (h : builder.Step settings graph builder') :
    builder.statements.toList <+: builder'.statements.toList := by
  rcases h.cases_quiet with hquiet | ⟨name, names, _, _, rfl⟩ | ⟨shape, _, name, names, _, _, rfl⟩ |
    ⟨name, referent, _, rfl⟩
  · exact hquiet.statements
  · rw [Builder.declareScope, Array.toList_push]
    exact List.prefix_append ..
  · exact List.prefix_rfl
  · exact List.prefix_rfl

/-- The placeholders have one declaration. -/
theorem Step.placeholderDecl_eq (h : builder.Step settings graph builder') {decl : NodeId}
    (hdecl : builder.placeholderDecl = some decl) : builder'.placeholderDecl = some decl := by
  rcases h.cases_quiet with hquiet | ⟨name, names, _, _, rfl⟩ | ⟨shape, _, name, names, _, _, rfl⟩ |
    ⟨name, referent, _, rfl⟩
  · exact hquiet.placeholderDecl.trans hdecl
  · exact hdecl
  · rw [Builder.declarePlaceholder, placeholderDeclWith_some hdecl]
  · exact hdecl

/-- A binding keeps its name. -/
theorem Step.nameOf?_eq (h : builder.Step settings graph builder') {referent : Referent}
    {name : String} (hname : builder.nameOf? referent = some name) :
    builder'.nameOf? referent = some name := by
  rcases h.cases_quiet with hquiet | ⟨_, _, hnone, _, rfl⟩ | ⟨shape, _, _, _, hnone, _, rfl⟩ |
    ⟨_, _, _, rfl⟩
  · cases referent with
    | scope => exact hquiet.globalName.trans hname
    | parameter shape =>
      rw [nameOf?, hquiet.placeholders]
      exact hname
  · -- The binding for the global scope is declared once.
    cases referent with
    | scope => exact nomatch hnone.symm.trans hname
    | parameter shape => exact hname
  · cases referent with
    | scope => exact hname
    | parameter other =>
      refine (Std.TreeMap.getElem?_insert ..).trans ?_
      split
      · next heq =>
        rw [Std.LawfulEqCmp.eq_of_compare heq] at hnone
        exact nomatch hnone.symm.trans hname
      · exact hname
  · cases referent <;> exact hname

/-- A node that is no container stays the same, unless it is the declaration of the placeholders. -/
theorem Step.node?_eq (h : builder.Step settings graph builder') {id : NodeId} {node : Node}
    (hnode : builder.arena.node? id = some node) (hkind : node.isContainer = false)
    (hdecl : ∀ declarators, node = .varDecl declarators → builder.placeholderDecl ≠ some id) :
    builder'.arena.node? id = some node := by
  obtain ⟨node', hnode', hfills | ⟨heq, declarators, _, _, hvar, _⟩⟩ := h.node?_of_node? hnode
  · rwa [hfills.eq_of_not_isContainer hkind] at hnode'
  · exact absurd heq (hdecl declarators hvar)

/-- The node of a function stays the same. -/
theorem Step.nodes_eq (h : builder.Step settings graph builder') {id : ShapeId} {fn : FunctionShape}
    (hid : graph.shape? id = some (.function fn)) {node : NodeId}
    (hnode : builder.nodes[id.index]? = some node) : builder'.nodes[id.index]? = some node := by
  cases h with
  | @remember other _ hremember =>
    rw [Std.TreeMap.getElem?_insert]
    split
    · next heq =>
      -- A function is remembered only if it was not remembered before.
      obtain rfl : other = id := congrArg ShapeId.mk (Std.LawfulEqCmp.eq_of_compare heq)
      exact nomatch (hremember fn hid).1.symm.trans hnode
    · exact hnode
  | _ => exact hnode

/-- The node of a function is remembered once and for all. -/
theorem nodes_eq_of_steps (h : Steps settings graph builder builder') {id : ShapeId}
    {fn : FunctionShape} (hid : graph.shape? id = some (.function fn)) {node : NodeId}
    (hnode : builder.nodes[id.index]? = some node) : builder'.nodes[id.index]? = some node := by
  induction h with
  | refl => exact hnode
  | tail _ hstep ih => exact hstep.nodes_eq hid ih

/-- A function keeps its body. -/
theorem hasBody_of_steps (h : Steps settings graph builder builder') {id : ShapeId}
    {fn : FunctionShape} {body : NodeId} (hid : graph.shape? id = some (.function fn))
    (hbody : builder.HasBody id fn body) : builder'.HasBody id fn body := by
  induction h with
  | refl => exact hbody
  | tail _ hstep ih =>
    obtain ⟨node, hnode, hfunction, statements, hblock⟩ := ih
    refine ⟨node, hstep.nodes_eq hid hnode, hstep.node?_eq hfunction rfl nofun, ?_⟩
    obtain ⟨node', hnode', hfills | ⟨_, _, _, _, heq, _⟩⟩ := hstep.node?_of_node? hblock
    · cases hfills <;> exact ⟨_, hnode'⟩
    · exact nomatch heq

/-- An array stays an array. -/
theorem array_of_steps {node : NodeId} {elements : Array (Option NodeId)}
    (h : Steps settings graph builder builder')
    (hnode : builder.arena.node? node = some (.array elements)) :
    ∃ elements', builder'.arena.node? node = some (.array elements') := by
  induction h with
  | refl => exact ⟨elements, hnode⟩
  | tail _ hstep ih =>
    obtain ⟨elements', hnode'⟩ := ih
    obtain ⟨node', hnode', hfills | ⟨_, _, _, _, heq, _⟩⟩ := hstep.node?_of_node? hnode'
    · cases hfills <;> exact ⟨_, hnode'⟩
    · exact nomatch heq

end Builder

end Semblance
