import Semblance.Proofs.Generate.Functions

/-!
# Empty objects

Whether a shape is rebuilt as an object without entries is decided before it is rebuilt, from the
shape alone. The decision goes from a union of one member to the member, and there it ends, since no
member of a union is a union. It agrees with what is rebuilt, for every kind of shape, so that the
prototypes that are left out are those that would be empty objects.

## Key results

- `emptyObjectWithin_eq_some`: the decision is made in two levels
- `Outcome.isEmptyObject_iff`: it agrees with the node of the shape
- `empty_objects_predicted`: the decision, the nodes, and the prototypes that are left out
-/

namespace Semblance

/-! ### The decision -/

/-- There is nothing to write if there are neither properties nor accessors. -/
theorem Aggregate.entryList_eq_nil_iff {entries : Aggregate} :
    entries.entryList = [] ↔ entries.isEmpty = true := by
  simp [entryList, isEmpty, Properties.isEmpty, Properties.toList, and_assoc]

namespace Shape

/-- What is rebuilt as an object is decided by its entries. -/
theorem isEmptyObject_of_entries? {shape : Shape} {entries : Aggregate}
    (h : shape.entries? = some entries) : shape.isEmptyObject = entries.isEmpty := by
  cases shape with
  | object =>
    obtain rfl := Option.some.inj h
    rfl
  | array entries' degraded =>
    rw [entries?, Option.ite_none_left_eq_some] at h
    obtain ⟨hnone, h⟩ := h
    obtain rfl := Option.some.inj h
    cases degraded with
    | true => rfl
    | false =>
      -- An array that is not degraded has an element that lies too far out.
      cases hempty : entries'.isEmpty with
      | false => rfl
      | true =>
        simp only [Aggregate.isEmpty, Properties.isEmpty, Bool.and_eq_true, Array.isEmpty_iff] at hempty
        simp [elements?, Aggregate.elements?, Properties.toList, hempty] at hnone
  | _ => cases h

/-- What has no entries of its own is not rebuilt as an object. -/
theorem isEmptyObject_of_entries?_none {shape : Shape} (h : shape.entries? = none) :
    shape.isEmptyObject = false := by
  cases shape with
  | object => cases h
  | array entries degraded =>
    cases degraded with
    | true => cases h
    | false => rfl
  | _ => rfl

end Shape

namespace ShapeGraph

variable {settings : Settings} {graph : ShapeGraph} {id only : ShapeId} {shape : Shape}

/-- Unless a shape is a union of one member, the decision is made at once. -/
theorem emptyObjectWithin_of_shape (hid : graph.shape? id = some shape)
    (hshape : ∀ only, shape ≠ .union [only]) (levels : Nat) :
    graph.emptyObjectWithin (levels + 1) id = some shape.isEmptyObject := by
  rw [emptyObjectWithin, hid]
  split
  · next only heq => exact absurd (Option.some.inj heq) (hshape only)
  · next heq => rw [Option.some.inj heq]
  · next heq => cases heq

/-- The decision for a shape other than a union of one member looks at this shape alone. -/
theorem isEmptyObject_of_shape (hid : graph.shape? id = some shape)
    (hshape : ∀ only, shape ≠ .union [only]) : graph.isEmptyObject id = shape.isEmptyObject := by
  rw [isEmptyObject, emptyObjectWithin_of_shape hid hshape, Option.getD_some]

/-- A union of one member is as this member, which is no union. -/
theorem emptyObjectWithin_only (h : graph.Valid) (hid : graph.shape? id = some (.union [only]))
    (levels : Nat) :
    graph.emptyObjectWithin (levels + 2) id = some (graph.isEmptyObject only) := by
  obtain ⟨shape, honly, hkind⟩ := (h.fits hid).member only List.mem_cons_self
  rw [emptyObjectWithin, hid, isEmptyObject_of_shape honly (Shape.ne_only hkind)]
  exact emptyObjectWithin_of_shape honly (Shape.ne_only hkind) levels

/-- The decision for a union of one member is the one for this member. -/
theorem isEmptyObject_only (h : graph.Valid) (hid : graph.shape? id = some (.union [only])) :
    graph.isEmptyObject id = graph.isEmptyObject only := by
  rw [isEmptyObject, emptyObjectWithin_only h hid, Option.getD_some]

/-- The decision is made in two levels. -/
theorem emptyObjectWithin_eq_some (h : graph.Valid) (hid : (graph.shape? id).isSome) (levels : Nat) :
    graph.emptyObjectWithin (levels + 2) id = some (graph.isEmptyObject id) := by
  obtain ⟨shape, hid⟩ := Option.isSome_iff_exists.1 hid
  by_cases honly : ∃ only, shape = .union [only]
  · obtain ⟨only, rfl⟩ := honly
    rw [emptyObjectWithin_only h hid, isEmptyObject_only h hid]
  · have hshape : ∀ only, shape ≠ .union [only] := fun only heq => honly ⟨only, heq⟩
    rw [emptyObjectWithin_of_shape hid hshape, isEmptyObject_of_shape hid hshape]

/-- The properties of a function value are written, apart from a prototype that is left out. -/
theorem not_mem_statics_iff {fn : FunctionShape} {binding : String × ShapeId}
    (hmem : binding ∈ fn.properties.toList) : binding ∉ graph.statics settings fn ↔
      binding.1 = "prototype" ∧ settings.suppressEmptyPrototype = true ∧
        graph.isEmptyObject binding.2 = true := by
  simp [statics, hmem, and_assoc]

end ShapeGraph

/-! ### What is rebuilt -/

/-- A chain of more than one alternative is one. -/
theorem Arena.Joins.exists_or {arena : Arena} {node head operand : NodeId} {operands : List NodeId}
    (h : arena.Joins node head (operand :: operands)) :
    ∃ left right, arena.node? node = some (.or left right) := by
  induction operands generalizing head operand with
  | nil =>
    obtain ⟨next, hnext, hlast⟩ := h
    obtain rfl : node = next := hlast
    exact ⟨_, _, hnext⟩
  | cons second operands ih =>
    obtain ⟨next, _, hrest⟩ := h
    exact ih hrest

/-- An object that has all its entries has none if there are none. -/
theorem Builder.Filled.empty_iff {builder : Builder} {node : NodeId} {entries : Aggregate}
    (h : builder.Filled node entries.entryList) :
    entries.isEmpty = true ↔ builder.arena.node? node = some (.object #[]) := by
  obtain ⟨ids, hnode, hentries⟩ := h
  rw [← Aggregate.entryList_eq_nil_iff, hnode]
  constructor
  · intro hnil
    rw [hnil, List.forall₂_nil_right_iff, Array.toList_eq_nil_iff] at hentries
    rw [hentries]
  · intro heq
    cases heq
    exact List.forall₂_nil_left_iff.1 hentries

namespace Builder

variable {graph : ShapeGraph} {builder : Builder} {id only : ShapeId} {node : NodeId}

/-- What has an answer is a shape. -/
theorem Settled.exists_shape (h : builder.Settled graph id node)
    (hkinds : builder.RemembersKinds graph) : ∃ shape, graph.shape? id = some shape := by
  cases h with
  | node hnode =>
    obtain ⟨shape, hid, _⟩ := hkinds hnode
    exact ⟨shape, hid⟩
  | constructed hid | member hid | empty _ hid | undefined _ hid | null _ hid | builtin _ hid
  | global _ hid | parameter _ hid => exact ⟨_, hid⟩

/-- The answer for a union of one member is accounted for as one for this member. -/
theorem Answers.of_only (h : builder.Answers graph id node)
    (hid : graph.shape? id = some (.union [only])) (hnone : builder.nodes[id.index]? = none) :
    builder.Answers graph only node := by
  cases h with
  | remembered _ hnode =>
    rw [hnone] at hnode
    cases hnode
  | own _ hid' hown =>
    cases hid.symm.trans hid'
    cases hown
  | denoted hdenotes hhint =>
    -- What denotes the union denotes the member.
    cases hdenotes with
    | only hid' hdenotes =>
      cases hid.symm.trans hid'
      exact .denoted hdenotes hhint
    | undefined hid' => rcases hid' with hid' | hid' <;> cases hid.symm.trans hid'
    | null hid' | scope hid' | placeholder hid' | builtin hid' => cases hid.symm.trans hid'
  | only hid' hanswers =>
    cases hid.symm.trans hid'
    exact hanswers

end Builder

namespace Gen.Outcome

variable {settings : Settings} {graph : ShapeGraph} {names : NameSupply} {builder : Builder}
  {id : ShapeId} {node : NodeId} {shape : Shape}

/-- What constructs an instance is a construction. -/
theorem constructed (h : Outcome settings graph names builder) {constructor : ShapeId}
    {properties : Properties} (hid : graph.shape? id = some (.instanceOf constructor properties))
    (hsettled : builder.Settled graph id node) :
    ∃ callee, builder.arena.node? node = some (.new callee #[]) := by
  have hkinds : builder.RemembersKinds graph := h.kinds
  rcases h.completes.constructed (hsettled.instances hid (hkinds.none hid rfl)) with
    hformer | ⟨callee, _, hnode⟩
  · cases hformer.symm.trans Std.TreeMap.getElem?_emptyc
  · exact ⟨callee, hnode⟩

/-- The node of a primitive is no container. -/
theorem primitive (h : Outcome settings graph names builder) {kind : PrimitiveKind}
    (hid : graph.shape? id = some (.primitive kind))
    (hnode : builder.nodes[id.index]? = some node) : builder.arena.IsFixed node := by
  obtain ⟨_, haccounts⟩ := h.accounts
  rcases haccounts.primitives hid hnode with hformer | hfixed
  · cases hformer.symm.trans Std.TreeMap.getElem?_emptyc
  · exact hfixed

/-- What joins at least two members is a chain of alternatives. -/
theorem joined (h : Outcome settings graph names builder) {first second : ShapeId}
    {rest : List ShapeId} (hid : graph.shape? id = some (.union (first :: second :: rest)))
    (hsettled : builder.Settled graph id node) :
    ∃ left right, builder.arena.node? node = some (.or left right) := by
  obtain ⟨head, operands, _, hrest, hjoins⟩ := (h.renders hid rfl hsettled).union_cases hid
  cases hrest with
  | cons => exact hjoins.exists_or

/-- What is not rebuilt as an object has another node. -/
theorem not_object (h : Outcome settings graph names builder) (hgraph : graph.Recorded)
    (hid : graph.shape? id = some shape) (hshape : ∀ only, shape ≠ .union [only])
    (hentries : shape.entries? = none) (hsettled : builder.Settled graph id node)
    (hanswers : builder.Answers graph id node) (ids : Array NodeId) :
    builder.arena.node? node ≠ some (.object ids) := by
  intro hobject
  -- Shapes without a node of their own are denoted by leaves and chains.
  have hdenoted (hown : shape.hasOwnNode = false) : False := by
    obtain ⟨former, hnode, hkind, _⟩ :=
      (hanswers.denotes hgraph.valid h.kinds ((hasOwnNode_eq hid hshape).trans hown)).1.exists_node
    cases hnode.symm.trans hobject
    cases hkind
  cases shape with
  | object => cases hentries
  | array entries degraded =>
    cases helements : (Shape.array entries degraded).elements? with
    | none =>
      rw [Shape.entries?, helements] at hentries
      cases hentries
    | some elements =>
      obtain ⟨slots, harray, _⟩ := (h.renders hid rfl hsettled).hasElements hid helements
      cases harray.symm.trans hobject
  | function fn =>
    obtain ⟨_, hfunction, _⟩ := (h.renders hid rfl hsettled).function_cases hid
    cases hfunction.symm.trans hobject
  | instanceOf =>
    obtain ⟨_, hnew⟩ := h.constructed hid hsettled
    cases hnew.symm.trans hobject
  | union members =>
    cases members with
    | nil => exact hdenoted rfl
    | cons first rest =>
      cases rest with
      | nil => exact hshape first rfl
      | cons second rest =>
        obtain ⟨_, _, hor⟩ := h.joined hid hsettled
        cases hor.symm.trans hobject
  | builtin | global | parameter => exact hdenoted rfl
  | primitive kind =>
    cases hown : Shape.hasOwnNode (.primitive kind) with
    | false => exact hdenoted hown
    | true =>
      obtain ⟨_, hnode, hkind, _⟩ := h.primitive hid (hsettled.nodes hid hown)
      cases hnode.symm.trans hobject
      cases hkind

/-- The decision agrees with the node of a shape that is not a union of one member. -/
theorem isEmptyObject_iff_of_shape (h : Outcome settings graph names builder)
    (hgraph : graph.Recorded) (hid : graph.shape? id = some shape)
    (hshape : ∀ only, shape ≠ .union [only]) (hsettled : builder.Settled graph id node)
    (hanswers : builder.Answers graph id node) :
    graph.isEmptyObject id = true ↔ builder.arena.node? node = some (.object #[]) := by
  rw [ShapeGraph.isEmptyObject_of_shape hid hshape]
  cases hentries : shape.entries? with
  | none =>
    rw [Shape.isEmptyObject_of_entries?_none hentries]
    exact iff_of_false Bool.false_ne_true
      (h.not_object hgraph hid hshape hentries hsettled hanswers #[])
  | some entries =>
    have hkind : shape.isAssembled = true := by
      cases shape with
      | object | array => rfl
      | _ => cases hentries
    rw [Shape.isEmptyObject_of_entries? hentries]
    exact ((h.renders hid hkind hsettled).filled hid hentries).empty_iff

/-- The decision agrees with the node of the shape. -/
theorem isEmptyObject_iff (h : Outcome settings graph names builder) (hgraph : graph.Recorded)
    (hvisit : (id, .ok node) ∈ builder.visits) :
    graph.isEmptyObject id = true ↔ builder.arena.node? node = some (.object #[]) := by
  have hkinds : builder.RemembersKinds graph := h.kinds
  have hsettled := h.settled hvisit
  obtain ⟨shape, hid⟩ := hsettled.exists_shape hkinds
  by_cases honly : ∃ only, shape = .union [only]
  · obtain ⟨only, rfl⟩ := honly
    have hnone := hkinds.none hid rfl
    obtain ⟨shape, hmember, hkind⟩ := (hgraph.valid.fits hid).member only List.mem_cons_self
    rw [ShapeGraph.isEmptyObject_only hgraph.valid hid]
    exact h.isEmptyObject_iff_of_shape hgraph hmember (Shape.ne_only hkind)
      (hsettled.only hid hnone) ((h.answers hvisit).of_only hid hnone)
  · exact h.isEmptyObject_iff_of_shape hgraph hid (fun only heq => honly ⟨only, heq⟩) hsettled
      (h.answers hvisit)

end Gen.Outcome

namespace Gen

variable {settings : Settings} {graph : ShapeGraph} {calls : List Call}

/-- **Empty objects are predicted.** Whether a known shape is rebuilt as an object without entries
    is decided in two levels. Whatever calls have returned, the decision holds for the answer to
    each of them, and for all other answers: the node is an object without entries if and only if
    the decision says so. Of the properties of a function, all are written out but the prototypes
    that the decision is true of, if the settings leave them out. -/
theorem empty_objects_predicted (hgraph : graph.Recorded) (hname : settings.globalName ≠ "")
    (names : NameSupply) (hcalls : ∀ call ∈ calls, (graph.shape? call.shape).isSome) :
    let builder := afterCalls settings graph calls (.start names)
    (∀ id, (graph.shape? id).isSome → ∀ levels,
        graph.emptyObjectWithin (levels + 2) id = some (graph.isEmptyObject id)) ∧
      (∀ call ∈ calls, ∃ node, (call.shape, .ok node) ∈ builder.visits) ∧
      (∀ id node, (id, .ok node) ∈ builder.visits →
        (graph.isEmptyObject id = true ↔ builder.arena.node? node = some (.object #[]))) ∧
      ∀ id fn node, graph.shape? id = some (.function fn) → (id, .ok node) ∈ builder.visits →
        builder.WrittenOut settings graph id (graph.statics settings fn) ∧
          ∀ binding ∈ fn.properties.toList, binding ∉ graph.statics settings fn ↔
            binding.1 = "prototype" ∧ settings.suppressEmptyPrototype = true ∧
              graph.isEmptyObject binding.2 = true := by
  have h := outcome_afterCalls hgraph hname names hcalls
  refine ⟨fun id hid levels => ShapeGraph.emptyObjectWithin_eq_some hgraph.valid hid levels,
    (answered_afterCalls hgraph hname hcalls (Builder.sound_start names) nofun).2.2,
    fun id node hvisit => h.isEmptyObject_iff hgraph hvisit,
    fun id fn node hid hvisit => ⟨?_, fun binding hmem => ShapeGraph.not_mem_statics_iff hmem⟩⟩
  rw [← ShapeGraph.written_function hid]
  exact h.writtenOut hgraph (h.marks_function hid hvisit)

/-- The prototype of a function is a union whose one member is an empty object, and another property
    is an array with a name that is no index. -/
theorem empty_objects_predicted_prototype :
    ∃ (graph : ShapeGraph) (fn : FunctionShape), graph.Recorded ∧ ({} : Settings).globalName ≠ "" ∧
      graph.shape? ⟨7⟩ = some (.function fn) ∧ graph.shape? ⟨11⟩ = some (.union [⟨10⟩]) ∧
      fn.properties.toList = [("prototype", ⟨11⟩), ("rest", ⟨12⟩)] ∧
      let builder := afterCalls {} graph [.node ⟨7⟩, .node ⟨11⟩] (.start ∅)
      (∀ levels, graph.emptyObjectWithin (levels + 2) ⟨11⟩ = some true) ∧
        graph.isEmptyObject ⟨12⟩ = false ∧
        (∃ node, (⟨11⟩, .ok node) ∈ builder.visits ∧
          builder.arena.node? node = some (.object #[])) ∧
        builder.WrittenOut {} graph ⟨7⟩ [("rest", ⟨12⟩)] := by
  have hfunction : ShapeGraph.Recorded _ := .object none (.function none .empty)
  have hunion := @ShapeGraph.Recorded.union _ _ [⟨10⟩] _ hfunction rfl
  have harray : ShapeGraph.Recorded _ := .array none hunion
  have hname := @ShapeGraph.Recorded.addProperty _ _ ⟨12⟩ "tag" ⟨10⟩ _ harray rfl rfl
  have hprototype := @ShapeGraph.Recorded.addProperty _ _ ⟨7⟩ "prototype" ⟨11⟩ _ hname rfl rfl
  have hgraph := @ShapeGraph.Recorded.addProperty _ _ ⟨7⟩ "rest" ⟨12⟩ _ hprototype rfl rfl
  obtain ⟨hdecided, hanswered, hpredicted, hfunctions⟩ :=
    @empty_objects_predicted {} _ [.node ⟨7⟩, .node ⟨11⟩] hgraph (by decide) ∅ (by decide)
  obtain ⟨function, hmade⟩ := hanswered (.node ⟨7⟩) (by decide)
  obtain ⟨union, hvisit⟩ := hanswered (.node ⟨11⟩) (by decide)
  exact ⟨_, _, hgraph, by decide, rfl, rfl, rfl, hdecided ⟨11⟩ rfl, rfl,
    ⟨union, hvisit, (hpredicted ⟨11⟩ union hvisit).1 rfl⟩, (hfunctions ⟨7⟩ _ function rfl hmade).1⟩

end Gen

end Semblance
