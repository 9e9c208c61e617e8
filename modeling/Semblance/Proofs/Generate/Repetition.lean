import Semblance.Proofs.Generate.Calls

/-!
# Requests that are repeated

A shape that has been asked for is settled: a further request takes the node that is there, or makes
a new leaf that refers to something that is there. Nothing is emitted, nothing is declared and no
node is changed, and for a shape with a node of its own nothing is made.

## Key results

- `Settled.unique`: a settled shape with a node of its own has one node
- `repeats_nodeWithin`: what a request for a settled shape does
- `requests_repeat`: what holds of all requests to a builder, in whatever calls
-/

namespace Semblance

/-- Whether all references to the shape are references to one node. -/
def Shape.hasOwnNode : Shape → Bool
  | instanceOf _ _ => true
  | shape => shape.isRemembered

/-- What is no union is no union of one member. -/
theorem Shape.ne_only {shape : Shape} (h : shape.isUnion = false) (only : ShapeId) :
    shape ≠ .union [only] := by
  rintro rfl
  cases h

/-- Whether all references to a shape of a graph are references to one node. A union of one member
    has the node of that member. -/
def ShapeGraph.hasOwnNode (graph : ShapeGraph) (id : ShapeId) : Bool :=
  match graph.shape? id with
  | some (.union [only]) => (graph.shape? only).any fun shape => !shape.isUnion && shape.hasOwnNode
  | some shape => shape.hasOwnNode
  | none => false

namespace Builder

/-- A later builder with the same statements and with all nodes as they were. -/
structure Keeps (builder builder' : Builder) : Prop where
  statements : builder'.statements = builder.statements
  placeholderDecl : builder'.placeholderDecl = builder.placeholderDecl
  node : ∀ {id node}, builder.arena.node? id = some node → builder'.arena.node? id = some node

/-- Only shapes of kinds that are remembered are found by their ids. -/
def RemembersKinds (graph : ShapeGraph) (builder : Builder) : Prop :=
  ∀ {index : Nat} {node}, builder.nodes[index]? = some node →
    ∃ shape, graph.shape? ⟨index⟩ = some shape ∧ shape.isRemembered = true

variable {graph : ShapeGraph} {builder builder' : Builder} {id : ShapeId} {node node' : NodeId}
  {shape : Shape}

/-- Whatever is remembered since the start is of a kind that is remembered. -/
theorem remembersKinds_of_advances_start {names : NameSupply}
    (h : (Builder.start names).Advances graph [] builder) : builder.RemembersKinds graph := by
  intro index node hnode
  rcases h.fresh hnode with hformer | ⟨_, hshape⟩
  · exact nomatch hformer.symm.trans Std.TreeMap.getElem?_emptyc
  · exact hshape

/-- What is of another kind is not found by its id. -/
theorem RemembersKinds.none (h : builder.RemembersKinds graph) (hid : graph.shape? id = some shape)
    (hkind : shape.isRemembered = false) : builder.nodes[id.index]? = none := by
  cases hnode : builder.nodes[id.index]? with
  | none => rfl
  | some node =>
    obtain ⟨shape', hid', hkind'⟩ := h hnode
    obtain rfl := Option.some.inj (hid.symm.trans hid')
    exact nomatch hkind.symm.trans hkind'

/-- An instance is found by its constructor. -/
theorem Settled.instances (hsettled : builder.Settled graph id node) {constructor : ShapeId}
    {properties : Properties} (hid : graph.shape? id = some (.instanceOf constructor properties))
    (hnone : builder.nodes[id.index]? = none) :
    builder.instances[constructor.index]? = some node := by
  cases hsettled with
  | node hnode => cases hnone.symm.trans hnode
  | constructed hid' hnode =>
    cases hid.symm.trans hid'
    exact hnode
  | member hid' | empty _ hid' | undefined _ hid' | null _ hid' | builtin _ hid' | global _ hid'
  | parameter _ hid' => cases hid.symm.trans hid'

/-- A union of one member is found as that member. -/
theorem Settled.only (hsettled : builder.Settled graph id node) {only : ShapeId}
    (hid : graph.shape? id = some (.union [only])) (hnone : builder.nodes[id.index]? = none) :
    builder.Settled graph only node := by
  cases hsettled with
  | node hnode => cases hnone.symm.trans hnode
  | member hid' hsettled =>
    cases hid.symm.trans hid'
    exact hsettled
  | constructed hid' | empty _ hid' | undefined _ hid' | null _ hid' | builtin _ hid'
  | global _ hid' | parameter _ hid' => cases hid.symm.trans hid'

/-- A settled shape that has a node of its own is found in one place only. -/
theorem Settled.unique_of_shape (h : builder.Settled graph id node)
    (h' : builder.Settled graph id node') (hkinds : builder.RemembersKinds graph)
    (hid : graph.shape? id = some shape) (hown : shape.hasOwnNode = true) : node = node' := by
  cases hkind : shape.isRemembered with
  | true => exact Option.some.inj ((h.nodes hid hkind).symm.trans (h'.nodes hid hkind))
  | false =>
    have hnone := hkinds.none hid hkind
    cases shape with
    | instanceOf =>
      exact Option.some.inj ((h.instances hid hnone).symm.trans (h'.instances hid hnone))
    | _ => exact nomatch hkind.symm.trans hown

/-- A settled shape with a node of its own has one node. -/
theorem Settled.unique (h : builder.Settled graph id node) (h' : builder.Settled graph id node')
    (hkinds : builder.RemembersKinds graph) (hown : graph.hasOwnNode id = true) : node = node' := by
  unfold ShapeGraph.hasOwnNode at hown
  split at hown
  · next only hid =>
    cases hshape : graph.shape? only with
    | none =>
      rw [hshape] at hown
      cases hown
    | some shape =>
      rw [hshape, Option.any_some, Bool.and_eq_true] at hown
      have hnone := hkinds.none hid rfl
      exact (h.only hid hnone).unique_of_shape (h'.only hid hnone) hkinds hshape hown.2
  · next shape _ hid => exact h.unique_of_shape h' hkinds hid hown
  · cases hown

theorem Keeps.rfl : builder.Keeps builder :=
  ⟨Eq.refl _, Eq.refl _, fun hnode => hnode⟩

end Builder

/-- Building new nodes keeps the ones that are there. -/
theorem Arena.Allocates.node?_of_node? {arena arena' : Arena} (h : arena.Allocates arena')
    {id : NodeId} {node : Node} (hnode : arena.node? id = some node) :
    arena'.node? id = some node := by
  induction h with
  | none => exact hnode
  | push _ _ ih => exact Arena.node?_push_of_node? ih _

namespace Gen

/-- A generation is answered, and whatever it does, the builder keeps what it has. For a shape with
    a node of its own nothing is made, and the answer is that node. -/
def Repeats (graph : ShapeGraph) (id : ShapeId) (node : NodeId) (gen : Gen NodeId)
    (builder : Builder) : Prop :=
  ∃ answer builder', gen builder = (.ok answer, builder') ∧ builder.Keeps builder' ∧
    (graph.hasOwnNode id = true → answer = node ∧ builder'.arena = builder.arena)

variable {settings : Settings} {graph : ShapeGraph} {builder builder' : Builder}
  {id : ShapeId} {node : NodeId} {gen : Gen NodeId} {levels : Nat}

/-- An answer that is there makes nothing. -/
theorem repeats_pure : Repeats graph id node (pure node) builder :=
  ⟨node, builder, rfl, .rfl, fun _ => ⟨rfl, rfl⟩⟩

/-- Noting the answer makes nothing. -/
theorem Repeats.logged (h : Repeats graph id node gen builder) (shape : ShapeId) :
    Repeats graph id node (logged shape gen) builder := by
  obtain ⟨answer, builder', hgen, hkeeps, hown⟩ := h
  refine ⟨answer, { builder' with visits := builder'.visits.push (shape, .ok answer) }, ?_,
    ⟨hkeeps.statements, hkeeps.placeholderDecl, hkeeps.node⟩, hown⟩
  rw [Gen.logged, hgen]

/-- New nodes for a shape without a node of its own. -/
theorem repeats_of_keeps {answer : NodeId} (hgen : gen builder = (.ok answer, builder'))
    (hkeeps : builder.Keeps builder') (hown : graph.hasOwnNode id = false) :
    Repeats graph id node gen builder :=
  ⟨answer, builder', hgen, hkeeps, fun hown' => nomatch hown.symm.trans hown'⟩

/-- New nodes are made only for shapes without a node of their own. -/
theorem repeats_allocation {build : StateM Arena NodeId} (h : Arena.AllocatesOnly build)
    (hown : graph.hasOwnNode id = false) : Repeats graph id node (onArena build) builder :=
  repeats_of_keeps rfl ⟨rfl, rfl, (h builder.arena).node?_of_node?⟩ hown

/-- References are made only for shapes without a node of their own. -/
theorem repeats_refer (name : String) (referent : Referent) (hown : graph.hasOwnNode id = false) :
    Repeats graph id node (refer name referent) builder :=
  repeats_of_keeps rfl ⟨rfl, rfl, fun hnode => Arena.node?_push_of_node? hnode _⟩ hown

/-- Member chains are made only for shapes without a node of their own. -/
theorem repeats_platform (path : String) (hown : graph.hasOwnNode id = false) :
    Repeats graph id node (platform path) builder := by
  have hchain (root : NodeId) :
      Arena.AllocatesOnly ((Arena.dotComponents path).2.foldlM Arena.member root) :=
    Arena.allocates_foldlM Arena.allocates_member _ root
  exact repeats_of_keeps rfl ⟨rfl, rfl, fun hnode =>
    (hchain _ _).node?_of_node? (Arena.node?_push_of_node? hnode _)⟩ hown

/-- A generation that looks at the builder first. -/
theorem Repeats.ofState {next : Builder → Gen NodeId} (h : Repeats graph id node (next builder) builder) :
    Repeats graph id node (get >>= next) builder :=
  h

/-- A request for a shape that is remembered does not get to the rule. -/
theorem repeats_of_node (hnode : builder.nodes[id.index]? = some node) :
    Repeats graph id node (nodeWithin settings graph (levels + 1) id) builder := by
  refine Repeats.logged (.ofState ?_) id
  rw [hnode]
  exact repeats_pure

/-- A request for another shape gets to the rule. -/
theorem repeats_of_rule (hnone : builder.nodes[id.index]? = none)
    (h : Repeats graph id node (rule settings graph (nodeWithin settings graph levels) id) builder) :
    Repeats graph id node (nodeWithin settings graph (levels + 1) id) builder := by
  refine Repeats.logged (.ofState ?_) id
  rw [hnone]
  exact h

/-- Unless a shape is a union of one member, it depends on its kind whether it has a node of its
    own. -/
theorem hasOwnNode_eq {shape : Shape} (hid : graph.shape? id = some shape)
    (hshape : ∀ only, shape ≠ .union [only]) : graph.hasOwnNode id = shape.hasOwnNode := by
  unfold ShapeGraph.hasOwnNode
  rw [hid]
  split
  · next only heq => exact absurd (Option.some.inj heq) (hshape only)
  · next heq => rw [Option.some.inj heq]
  · next heq => cases heq

/-- A union of one member has the node of the member. -/
theorem hasOwnNode_only {only : ShapeId} (hid : graph.shape? id = some (.union [only]))
    {shape : Shape} (honly : graph.shape? only = some shape) (hshape : shape.isUnion = false) :
    graph.hasOwnNode id = graph.hasOwnNode only := by
  rw [hasOwnNode_eq honly (Shape.ne_only hshape), ShapeGraph.hasOwnNode, hid]
  simp [honly, hshape]

/-- A request for a settled shape other than a union of one member. -/
theorem repeats_nodeWithin (h : builder.Settled graph id node)
    (hkinds : builder.RemembersKinds graph)
    (hunion : ∀ only, graph.shape? id ≠ some (.union [only])) (levels : Nat) :
    Repeats graph id node (nodeWithin settings graph (levels + 1) id) builder := by
  cases h with
  | node hnode => exact repeats_of_node hnode
  | constructed hid hnode =>
    refine repeats_of_rule (hkinds.none hid rfl) ?_
    rw [rule_eq hid]
    refine Repeats.ofState ?_
    rw [hnode]
    exact repeats_pure
  | member hid => exact absurd hid (hunion _)
  | empty _ hid =>
    refine repeats_of_rule (hkinds.none hid rfl) ?_
    rw [rule_eq hid]
    exact repeats_allocation Arena.allocates_undefined (hasOwnNode_eq hid nofun)
  | undefined _ hid =>
    refine repeats_of_rule (hkinds.none hid rfl) ?_
    rw [rule_eq hid]
    exact repeats_allocation Arena.allocates_undefined (hasOwnNode_eq hid nofun)
  | null _ hid =>
    refine repeats_of_rule (hkinds.none hid rfl) ?_
    rw [rule_eq hid]
    exact repeats_allocation (Arena.allocates_push rfl) (hasOwnNode_eq hid nofun)
  | builtin _ hid hmarked =>
    refine repeats_of_rule (hkinds.none hid rfl) ?_
    rw [rule_eq hid]
    refine Repeats.ofState ?_
    simp only [hmarked]
    exact repeats_platform _ (hasOwnNode_eq hid nofun)
  | global _ hid hname =>
    refine repeats_of_rule (hkinds.none hid rfl) ?_
    rw [rule_eq hid]
    refine Repeats.ofState ?_
    rw [hname]
    exact repeats_refer _ _ (hasOwnNode_eq hid nofun)
  | parameter _ hid hname =>
    refine repeats_of_rule (hkinds.none hid rfl) ?_
    rw [rule_eq hid]
    refine Repeats.ofState ?_
    rw [hname]
    exact repeats_refer _ _ (hasOwnNode_eq hid nofun)

/-- A request for a union of one member is one for the member. -/
theorem repeats_nodeWithin_only {only : ShapeId} (hid : graph.shape? id = some (.union [only]))
    (hnone : builder.nodes[id.index]? = none) (hown : graph.hasOwnNode id = graph.hasOwnNode only)
    (h : Repeats graph only node (nodeWithin settings graph levels only) builder) :
    Repeats graph id node (nodeWithin settings graph (levels + 1) id) builder := by
  refine repeats_of_rule hnone ?_
  rw [rule_eq hid]
  obtain ⟨answer, builder', hgen, hkeeps, hanswer⟩ := h
  exact ⟨answer, builder', hgen, hkeeps, fun hown' => hanswer (hown ▸ hown')⟩

/-- A further request for a settled shape takes two levels at most. -/
theorem repeats_toNode (hvalid : graph.Valid) (h : builder.Settled graph id node)
    (hkinds : builder.RemembersKinds graph) :
    Repeats graph id node (toNode settings graph id) builder := by
  by_cases hunion : ∃ only, graph.shape? id = some (.union [only])
  · obtain ⟨only, hid⟩ := hunion
    obtain ⟨shape, honly, hshape⟩ := (hvalid.fits hid).member only List.mem_cons_self
    have hnone := hkinds.none hid rfl
    -- A member is no union, so one level more is enough.
    refine repeats_nodeWithin_only hid hnone (hasOwnNode_only hid honly hshape) ?_
    refine repeats_nodeWithin (h.only hid hnone) hkinds (fun other hother => ?_) _
    obtain rfl := Option.some.inj (honly.symm.trans hother)
    cases hshape
  · exact repeats_nodeWithin h hkinds (fun only hid => hunion ⟨only, hid⟩) _

/-- However a builder is used, with a name for the global scope: no request meets a fault, and the
    shapes of all calls are asked for. Two requests for a shape with a node of its own have the same
    answer, whether calls or rules made them. A further request for any shape that was asked for
    leaves all statements and nodes as they are, and for a shape with a node of its own it makes no
    node. -/
theorem requests_repeat (hgraph : graph.Recorded) (hname : settings.globalName ≠ "")
    (names : NameSupply) {calls : List Call}
    (hcalls : ∀ call ∈ calls, (graph.shape? call.shape).isSome) :
    let builder := afterCalls settings graph calls (.start names)
    (∀ visit ∈ builder.visits, ∃ node, visit.2 = .ok node) ∧
      (∀ call ∈ calls, ∃ node, (call.shape, .ok node) ∈ builder.visits) ∧
      (∀ {id node node'}, graph.hasOwnNode id = true → (id, .ok node) ∈ builder.visits →
        (id, .ok node') ∈ builder.visits → node = node') ∧
      ∀ {id node}, (id, .ok node) ∈ builder.visits →
        Repeats graph id node (toNode settings graph id) builder := by
  intro builder
  obtain ⟨_, hanswered, hnoted⟩ := answered_afterCalls hgraph hname hcalls
    (Builder.sound_start names) nofun
  have hadvances : (Builder.start names).Advances graph [] builder :=
    advances_afterCalls hgraph.registered
  have hkinds : builder.RemembersKinds graph := Builder.remembersKinds_of_advances_start hadvances
  -- All requests since the start have settled what they were for.
  have hsettled {id : ShapeId} {node : NodeId} (hmem : (id, .ok node) ∈ builder.visits) :
      builder.Settled graph id node := (hadvances.settled hmem).resolve_left nofun
  exact ⟨hanswered, hnoted,
    fun hown hmem hmem' => (hsettled hmem).unique (hsettled hmem') hkinds hown,
    fun hmem => repeats_toNode hgraph.valid (hsettled hmem) hkinds⟩

/-- A function, and an object that holds it. -/
def functionHolder : ShapeGraph :=
  ((ShapeGraph.empty.function none).2.object none).2.modify ⟨10⟩
    (Shape.modifyProperties (·.insert "f" ⟨7⟩))

/-- The object also holds a union of itself and a number, and an instance of the function. -/
def unionHolder : ShapeGraph :=
  ((functionHolder.alloc (.union [⟨10⟩, ShapeGraph.primitive .number])).2.modify ⟨10⟩
    (Shape.modifyProperties (·.insert "u" ⟨11⟩))).modify ⟨10⟩
    (Shape.modifyProperties (·.insert "i" ⟨8⟩))

/-- The union and its holder are what their operations record. -/
theorem unionHolder_recorded : unionHolder.Recorded := by
  have hfunction : ((ShapeGraph.empty.function none).2.object none).2.addProperty ⟨10⟩ "f" ⟨7⟩ =
    .ok (true, functionHolder) := rfl
  have hunion : functionHolder.union [⟨10⟩, ShapeGraph.primitive .number] = .ok (⟨11⟩, _) := rfl
  have hmember : (functionHolder.alloc (.union [⟨10⟩, ShapeGraph.primitive .number])).2.addProperty
    ⟨10⟩ "u" ⟨11⟩ = .ok (true, _) := rfl
  have hinstance : ((functionHolder.alloc (.union [⟨10⟩, ShapeGraph.primitive .number])).2.modify ⟨10⟩
    (Shape.modifyProperties (·.insert "u" ⟨11⟩))).addProperty ⟨10⟩ "i" ⟨8⟩ =
      .ok (true, unionHolder) := rfl
  have hrecorded := ShapeGraph.Recorded.addProperty (.object none (.function none .empty)) rfl hfunction
  exact .addProperty (.addProperty (.union hrecorded hunion) rfl hmember) rfl hinstance

/-- The union is asked for again while its first member is generated. -/
theorem requests_repeat_unionHolder :
    unionHolder.Recorded ∧ ({} : Settings).globalName ≠ "" ∧
      (∀ call ∈ [Call.node ⟨11⟩, .assign "a b" ⟨8⟩], (unionHolder.shape? call.shape).isSome) ∧
      unionHolder.hasOwnNode ⟨11⟩ = true ∧
      let builder := afterCalls {} unionHolder [.node ⟨11⟩, .assign "a b" ⟨8⟩] (.start ∅)
      builder.visits.countP (fun visit => visit.1 = ⟨11⟩) = 2 ∧ (⟨11⟩, .ok ⟨7⟩) ∈ builder.visits ∧
        (∀ node, (⟨11⟩, .ok node) ∈ builder.visits → node = ⟨7⟩) ∧
        Repeats unionHolder ⟨11⟩ ⟨7⟩ (toNode {} unionHolder ⟨11⟩) builder := by
  have hknown : ∀ call ∈ [Call.node ⟨11⟩, .assign "a b" ⟨8⟩],
      (unionHolder.shape? call.shape).isSome := by decide
  have hown : unionHolder.hasOwnNode ⟨11⟩ = true := by decide
  obtain ⟨_, _, hunique, hagain⟩ :=
    @requests_repeat {} unionHolder unionHolder_recorded (by decide) ∅ _ hknown
  have hvisit : (afterCalls {} unionHolder [.node ⟨11⟩, .assign "a b" ⟨8⟩] (.start ∅)).visits.any
      (fun visit => visit.1 == ⟨11⟩ && visit.2.toOption == some ⟨7⟩) = true := by decide +kernel
  have hmem : (⟨11⟩, .ok ⟨7⟩) ∈
      (afterCalls {} unionHolder [.node ⟨11⟩, .assign "a b" ⟨8⟩] (.start ∅)).visits := by
    obtain ⟨⟨id, answer⟩, hmem, hvisit⟩ := Array.any_eq_true'.1 hvisit
    cases answer with
    | error fault => simp [Except.toOption] at hvisit
    | ok node =>
      obtain ⟨rfl, rfl⟩ : id = ⟨11⟩ ∧ node = ⟨7⟩ := by simpa [Except.toOption] using hvisit
      exact hmem
  exact ⟨unionHolder_recorded, by decide, hknown, hown, by decide +kernel, hmem,
    fun node hnode => hunique hown hnode hmem, hagain hmem⟩

end Gen

end Semblance
