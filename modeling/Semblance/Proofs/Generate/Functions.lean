import Semblance.Proofs.Generate.Emissions

/-!
# Functions and builtins as they are written out

A function is made once. Its body is filled while values that lead back to it are generated, and the
properties of the function value are written at the top level meanwhile. The properties that were added
to a builtin are written when it is referred to for the first time. Whatever the cycles are, once the
calls have returned each body does all its parts in order, and each property is written once.

## Key results

- `Outcome.isFunction`: the node of a function, and what its body does
- `Outcome.spells`: the node of a builtin is the member chain of its full name
- `functions_written_out`: all functions and builtins of a builder
-/

namespace Semblance

namespace ShapeGraph

variable {graph : ShapeGraph} {fn : FunctionShape} {members : List ShapeId}

/-- What the body of a function does. It copies the used parameters, unless the function is an
    accessor, writes the properties of its instances to the receiver, and returns unless the union
    of what it returns is empty. -/
theorem bodyParts_eq {constructor : ShapeId} {properties : Properties}
    (hconstructs : graph.shape? fn.constructs = some (.instanceOf constructor properties))
    (hreturns : graph.shape? fn.returns = some (.union members)) :
    graph.bodyParts fn =
      (if fn.accessor.isNone then fn.usedParams.map fun used => .copy used.1 used.2 else []) ++
        properties.toList.map (fun binding => .write binding.1 binding.2) ++
        if members.isEmpty then [] else [.ret fn.returns] := by
  have hproperties : Gen.instanceProperties graph fn = properties := by
    rw [Gen.instanceProperties, hconstructs]
    rfl
  rw [bodyParts, hproperties, returnParts_eq hreturns]

end ShapeGraph

namespace Builder

/-- A statement does what a part of a body is there for, with nodes that stand for the values. -/
def Enacts (settings : Settings) (graph : ShapeGraph) (builder : Builder) (stmt : NodeId) :
    BodyPart → Prop
  | .copy index parameter => ∃ target source, builder.arena.Assigns stmt target source ∧
      builder.StandsFor settings graph parameter target ∧
      builder.arena.node? source = some (if index = 0 then .this else .ident (formalName index))
  | .write name value => ∃ target receiver node, builder.arena.Assigns stmt target node ∧
      builder.arena.IsMember target receiver name ∧
      builder.arena.node? receiver = some .this ∧ builder.StandsFor settings graph value node
  | .ret value => ∃ node, builder.arena.node? stmt = some (.ret (some node)) ∧
      builder.StandsFor settings graph value node

/-- A node is the one node of a function. Its body has a statement for each used parameter unless
    the function is an accessor, then one for each property of the instances, and then a return if
    the union of what is returned has a member. -/
structure IsFunction (settings : Settings) (graph : ShapeGraph) (builder : Builder) (id : ShapeId)
    (fn : FunctionShape) (node : NodeId) : Prop where
  remembered : builder.nodes[id.index]? = some node
  unique : ∀ other, (id, .ok other) ∈ builder.visits → other = node
  distinct : ∀ id' fn', graph.shape? id' = some (.function fn') → (id', .ok node) ∈ builder.visits →
    id' = id
  body : ∃ body statements properties members,
    builder.arena.node? node = some (.function fn.formals body) ∧
    builder.arena.node? body = some (.block statements) ∧
    graph.shape? fn.constructs = some (.instanceOf id properties) ∧
    graph.shape? fn.returns = some (.union members) ∧
    List.Forall₂ (builder.Enacts settings graph) statements.toList
      ((if fn.accessor.isNone then fn.usedParams.map fun used => .copy used.1 used.2 else []) ++
        properties.toList.map (fun binding => .write binding.1 binding.2) ++
        if members.isEmpty then [] else [.ret fn.returns])

end Builder

namespace Arena

/-- A node is a member chain whose components, joined by dots, are a name. -/
def Spells (arena : Arena) (node : NodeId) (name : String) : Prop :=
  ∃ root head rest, arena.node? root = some (.ident head) ∧ arena.Leads root rest node ∧
    ".".intercalate (head :: rest) = name

end Arena

namespace Gen.Outcome

variable {settings : Settings} {graph : ShapeGraph} {names : NameSupply} {builder : Builder}
  {id : ShapeId} {node stmt : NodeId} {fn : FunctionShape}

/-- The nodes that a statement was made with stand for their shapes in the end. -/
theorem enacts (h : Outcome settings graph names builder) (hgraph : graph.Recorded)
    {part : BodyPart} (hdoes : builder.Does stmt part) :
    builder.Enacts settings graph stmt part := by
  cases part with
  | copy index parameter =>
    obtain ⟨target, source, ⟨expr, hstmt, hexpr⟩, hvisit, hsource⟩ := hdoes
    exact ⟨target, source, ⟨expr, hstmt, hexpr⟩,
      h.standsFor hgraph hvisit hexpr (by simp [Node.operands]), hsource⟩
  | write name value =>
    obtain ⟨target, receiver, node, hassigns, hmember, hreceiver, hvisit⟩ := hdoes
    exact ⟨target, receiver, node, hassigns, hmember, hreceiver,
      h.standsFor_assigned hgraph hassigns hvisit⟩
  | ret value =>
    obtain ⟨node, hnode, hvisit⟩ := hdoes
    exact ⟨node, hnode, h.standsFor hgraph hvisit hnode List.mem_cons_self⟩

/-- The answer for a function is the node that was remembered for it, and its body is complete. -/
theorem isFunction (h : Outcome settings graph names builder) (hgraph : graph.Recorded)
    (hid : graph.shape? id = some (.function fn)) (hvisit : (id, .ok node) ∈ builder.visits) :
    builder.IsFunction settings graph id fn node := by
  have hnode {id : ShapeId} {fn : FunctionShape} {node : NodeId}
      (hid : graph.shape? id = some (.function fn)) (hvisit : (id, .ok node) ∈ builder.visits) :
      builder.nodes[id.index]? = some node := (h.settled hvisit).nodes hid rfl
  obtain ⟨properties, hconstructs⟩ := hgraph.registered.constructs hid
  obtain ⟨members, hreturns⟩ := hgraph.registered.returned_union hid
  obtain ⟨body, hfunction, statements, hblock, hdone⟩ :=
    (h.renders hid rfl (h.settled hvisit)).function_cases hid
  refine ⟨hnode hid hvisit,
    fun other hother => Option.some.inj ((hnode hid hother).symm.trans (hnode hid hvisit)),
    fun id' fn' hid' hvisit' => h.distinct.inj hid' hid (hnode hid' hvisit') (hnode hid hvisit),
    body, statements, properties, members, hfunction, hblock, hconstructs, hreturns, ?_⟩
  rw [← ShapeGraph.bodyParts_eq hconstructs hreturns]
  exact hdone.imp fun _ _ hdoes => h.enacts hgraph hdoes

/-- What is written to a function is written by the time that it is answered. -/
theorem marks_function (h : Outcome settings graph names builder)
    (hid : graph.shape? id = some (.function fn)) (hvisit : (id, .ok node) ∈ builder.visits) :
    builder.marks graph id = true := by
  rw [Builder.marks_function hid, (h.settled hvisit).nodes hid rfl]
  rfl

section

variable {fullName : String} {properties : Properties} {constructible : Bool}
  (hid : graph.shape? id = some (.builtin fullName properties constructible))
  (hvisit : (id, .ok node) ∈ builder.visits)
include hid hvisit

/-- What was added to a builtin is written by the time that it is answered. -/
theorem marks_builtin (h : Outcome settings graph names builder) :
    builder.marks graph id = true := by
  have hkinds : builder.RemembersKinds graph := h.kinds
  rw [Builder.marks_builtin hid]
  cases h.settled hvisit with
  | node hnode => cases (hkinds.none hid rfl).symm.trans hnode
  | builtin _ _ hmarked => exact hmarked
  | constructed hid' | member hid' | empty _ hid' | undefined _ hid' | null _ hid' | global _ hid'
  | parameter _ hid' => cases hid.symm.trans hid'

/-- The answer for a builtin is the member chain of its full name, whatever builtin it is reached
    from. -/
theorem spells (h : Outcome settings graph names builder) (hgraph : graph.Recorded) :
    builder.arena.Spells node fullName := by
  have hown : graph.hasOwnNode id = false := hasOwnNode_eq hid nofun
  obtain ⟨hdenotes, _⟩ := (h.answers hvisit).denotes hgraph.valid h.kinds hown
  cases hdenotes with
  | @builtin _ root _ _ _ _ hid' hpath =>
    cases hid.symm.trans hid'
    exact ⟨root, _, _, hpath.1, hpath.2, Arena.intercalate_dotComponents fullName⟩
  | undefined hid' => rcases hid' with hid' | hid' <;> cases hid.symm.trans hid'
  | null hid' | scope hid' | placeholder hid' | only hid' => cases hid.symm.trans hid'

end

end Gen.Outcome

namespace Gen

variable {settings : Settings} {graph : ShapeGraph} {calls : List Call}

/-- **Functions and builtins are written out once.** Whatever calls have returned, each of them has
    an answer, and so has every shape that was asked for on the way. The answer for a function is
    its one node, with a body that does what it is to do. The answer for a builtin is a member chain
    that spells its full name. The top-level statements that write a member of a function, or of a
    builtin, write the properties that are to be written, once each and in order. -/
theorem functions_written_out (hgraph : graph.Recorded) (hname : settings.globalName ≠ "")
    (names : NameSupply) (hcalls : ∀ call ∈ calls, (graph.shape? call.shape).isSome) :
    let builder := afterCalls settings graph calls (.start names)
    (∀ call ∈ calls, ∃ node, (call.shape, .ok node) ∈ builder.visits) ∧
      (∀ visit ∈ builder.visits, ∃ node, visit.2 = .ok node) ∧
      (∀ id fn node, graph.shape? id = some (.function fn) → (id, .ok node) ∈ builder.visits →
        builder.IsFunction settings graph id fn node ∧
          builder.WrittenOut settings graph id (graph.statics settings fn)) ∧
      ∀ id fullName properties constructible node,
        graph.shape? id = some (.builtin fullName properties constructible) →
        (id, .ok node) ∈ builder.visits → builder.arena.Spells node fullName ∧
          builder.WrittenOut settings graph id (graph.additions fullName properties) := by
  have h := outcome_afterCalls hgraph hname names hcalls
  refine ⟨(answered_afterCalls hgraph hname hcalls (Builder.sound_start names) nofun).2.2,
    h.answered, fun id fn node hid hvisit => ⟨h.isFunction hgraph hid hvisit, ?_⟩,
    fun id fullName properties constructible node hid hvisit => ⟨h.spells hid hvisit hgraph, ?_⟩⟩
  · rw [← ShapeGraph.written_function hid]
    exact h.writtenOut hgraph (h.marks_function hid hvisit)
  · rw [← ShapeGraph.written_builtin hid]
    exact h.writtenOut hgraph (h.marks_builtin hid hvisit)

/-- A function `F` and the builtins `A` and `A.B`. The function has a parameter, which it gives its
    instances and returns, the property `A` and an empty prototype; the builtin `A` has the property
    `B`, and `F` was added to it. -/
theorem functions_written_out_patched :
    ∃ (graph : ShapeGraph) (fn : FunctionShape) (properties : Properties), graph.Recorded ∧
      ({} : Settings).globalName ≠ "" ∧
      graph.shape? ⟨7⟩ = some (.function fn) ∧ fn.properties.names = ["A", "prototype"] ∧
      graph.shape? ⟨10⟩ = some (.builtin "A" properties false) ∧ properties.names = ["B", "F"] ∧
      let builder := afterCalls {} graph [.node ⟨7⟩, .node ⟨10⟩] (.start ∅)
      (∃ node, builder.IsFunction {} graph ⟨7⟩ fn node) ∧
        builder.WrittenOut {} graph ⟨7⟩ [("A", ⟨10⟩)] ∧
        (∃ node, builder.arena.Spells node "A") ∧
        builder.WrittenOut {} graph ⟨10⟩ [("F", ⟨7⟩)] := by
  have hshapes : ShapeGraph.Recorded _ :=
    .object none (.builtin "A.B" false (.builtin "A" false (.function none .empty)))
  have hparameter := @ShapeGraph.Recorded.useParam _ _ ⟨7⟩ 1 (some ⟨13⟩) hshapes rfl
  have hinstance := @ShapeGraph.Recorded.addProperty _ _ ⟨8⟩ "p" ⟨13⟩ _ hparameter rfl rfl
  have hreturn := @ShapeGraph.Recorded.observeReturn _ _ ⟨7⟩ ⟨13⟩ _ hinstance rfl
  have hstatic := @ShapeGraph.Recorded.addProperty _ _ ⟨7⟩ "A" ⟨10⟩ _ hreturn rfl rfl
  have hprototype := @ShapeGraph.Recorded.addProperty _ _ ⟨7⟩ "prototype" ⟨12⟩ _ hstatic rfl rfl
  have hown := @ShapeGraph.Recorded.addProperty _ _ ⟨10⟩ "B" ⟨11⟩ _ hprototype rfl rfl
  have hgraph := @ShapeGraph.Recorded.addProperty _ _ ⟨10⟩ "F" ⟨7⟩ _ hown rfl rfl
  obtain ⟨hanswered, _, hfunctions, hbuiltins⟩ :=
    @functions_written_out {} _ [.node ⟨7⟩, .node ⟨10⟩] hgraph (by decide) ∅ (by decide)
  obtain ⟨function, hfunction⟩ := hanswered (.node ⟨7⟩) (by decide)
  obtain ⟨builtin, hbuiltin⟩ := hanswered (.node ⟨10⟩) (by decide)
  obtain ⟨hmade, hstatics⟩ := hfunctions ⟨7⟩ _ function rfl hfunction
  obtain ⟨hspells, hadditions⟩ := hbuiltins ⟨10⟩ _ _ _ builtin rfl hbuiltin
  exact ⟨_, _, _, hgraph, by decide, rfl, rfl, rfl, rfl, ⟨function, hmade⟩, hstatics,
    ⟨builtin, hspells⟩, hadditions⟩

end Gen

end Semblance
