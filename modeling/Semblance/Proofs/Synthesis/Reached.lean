import Semblance.Proofs.Generate.Completeness
import Semblance.Proofs.Generate.Calls
import Semblance.Proofs.Synthesis.Names

/-!
# What a whole generation has put together

In the end every node that is remembered is put together, and it stands below some statement: the
statements of the global scope have their values below them, and whatever has a shape beneath it was
needed for one of these. Builtins are the exception, as they are referred to by name, but what was
added to them is written by statements of its own.

## Key results

- `Generates.whole`: what is there at the end of a generation
- `Whole.inUse_of_required`: what is needed for the global scope is in use
- `Whole.reached`: remembered nodes stand below the statements
-/

namespace Semblance

/-- A shape is needed for the value of a global binding. -/
def ShapeGraph.Required (settings : Settings) (graph : ShapeGraph) (id : ShapeId) : Prop :=
  ∃ binding ∈ graph.globals, graph.Needs settings binding.2 id

namespace Builder

/-- What is there at the end of a generation. -/
structure Whole (settings : Settings) (graph : ShapeGraph) (builder : Builder) : Prop where
  kinds : builder.RemembersKinds graph
  settled : ∀ {id node}, (id, .ok node) ∈ builder.visits → builder.Settled graph id node
  rendered : ∀ {id : ShapeId} {node}, builder.nodes[id.index]? = some node →
    (∃ kind, graph.shape? id = some (.primitive kind)) ∨
      graph.Required settings id ∧ builder.Renders settings graph 0 id node
  constructed : ∀ {index : Nat} {node}, builder.instances[index]? = some node →
    ∃ callee, (⟨index⟩, .ok callee) ∈ builder.visits ∧
      builder.arena.node? node = some (.new callee #[])
  patched : ∀ {id : ShapeId}, builder.patched.contains id.index = true → builder.WritesOut graph id
  placeholders : ∀ {index : Nat} {name}, builder.placeholders[index]? = some name →
    ∃ use node, graph.shape? ⟨index⟩ = some (.parameter use) ∧ (⟨index⟩, .ok node) ∈ builder.visits
  refers : ∀ {id node}, (id, .ok node) ∈ builder.visits → builder.Refers graph id node
  assigned : ∀ binding ∈ graph.globals, ∃ stmt, Gen.AssignsShape builder binding.2 stmt

end Builder

/-! ### The assignments of the global scope -/

namespace ShapeGraph

variable {graph : ShapeGraph} {config : Config} {builder : Builder}

/-- The assignments of the global bindings go ahead only. -/
theorem advancing_globals (hgraph : graph.Registered) (config : Config) :
    Gen.Advancing graph [] (graph.globals.forM fun binding =>
      discard (Gen.assignGlobal config.toSettings graph binding.1 binding.2))
      (.start (graph.initialNames config)) := by
  refine Gen.advancing_forM fun binding _ _ => ?_
  rw [Gen.discard_eq_bind]
  exact (Gen.advancing_call hgraph (.assign binding.1 binding.2)).andThen fun _ _ =>
    Gen.advancing_pure _

/-- A generation goes ahead only. -/
theorem Generates.advances (hgraph : graph.Registered) (h : graph.Generates config builder) :
    (Builder.start (graph.initialNames config)).Advances graph [] builder :=
  (advancing_globals hgraph config).of_eq h

/-- A fault would have ended the generation, so all requests were answered by nodes. -/
theorem Generates.answered (hgraph : graph.Registered) (h : graph.Generates config builder)
    {id : ShapeId} {answer : Except Fault NodeId} (hmem : (id, answer) ∈ builder.visits) :
    ∃ node, answer = .ok node :=
  ((advancing_globals hgraph config).answered h _ hmem).resolve_left (nomatch ·)

/-- The assignments complete what is needed for them, and each has its statement. -/
theorem Generates.completes (hgraph : graph.Registered) (h : graph.Generates config builder) :
    (Builder.start (graph.initialNames config)).Completes config.toSettings graph
        (graph.Required config.toSettings) [] builder ∧
      ∀ binding ∈ graph.globals, ∃ stmt, Gen.AssignsShape builder binding.2 stmt := by
  -- Each assignment completes what its value needs and keeps the statements before it.
  have hitem : ∀ binding ∈ graph.globals, ∀ {done later later'},
      ((Builder.start (graph.initialNames config)).Completes config.toSettings graph
          (graph.Required config.toSettings) [] later ∧
        ∀ former ∈ done, ∃ stmt, Gen.AssignsShape later (former : String × ShapeId).2 stmt) →
      discard (Gen.assignGlobal config.toSettings graph binding.1 binding.2) later =
        (.ok ⟨⟩, later') →
      (Builder.start (graph.initialNames config)).Completes config.toSettings graph
          (graph.Required config.toSettings) [] later' ∧
        ∀ former ∈ done ++ [binding], ∃ stmt, Gen.AssignsShape later' former.2 stmt := by
    intro binding hmem done later later' ⟨hcompletes, hdone⟩ hassign
    rw [Gen.discard_eq_bind] at hassign
    obtain ⟨stmt, builder₁, hassign, hrest⟩ := Gen.run_bind_eq_ok hassign
    obtain ⟨_, rfl⟩ := Gen.pure_eq_ok hrest
    obtain ⟨hnext, hassigned⟩ := Gen.completes_assignGlobal hgraph
      (fun value hneeds => (⟨binding, hmem, hneeds⟩ : graph.Required config.toSettings value))
      hassign
    refine ⟨hcompletes.andThen hnext, fun former hformer => ?_⟩
    rcases List.mem_append.1 hformer with hformer | hformer
    · obtain ⟨stmt, hstmt⟩ := hdone former hformer
      exact ⟨stmt, hstmt.mono hnext.toCarries⟩
    · exact ⟨stmt, List.mem_singleton.1 hformer ▸ hassigned⟩
  exact Gen.forM_ok _ hitem h ⟨.rfl, fun former (hformer : former ∈ []) => nomatch hformer⟩

/-- A generation starts with nothing, so all of it is put together. -/
theorem Generates.whole (hgraph : graph.Registered) (h : graph.Generates config builder) :
    builder.Whole config.toSettings graph := by
  have hadvances := h.advances hgraph
  obtain ⟨hcompletes, hassigned⟩ := h.completes hgraph
  -- Nothing was remembered at the start, so all that is known was completed since.
  refine ⟨Builder.remembersKinds_of_advances_start hadvances, fun hvisit => ?_, fun hnode => ?_,
    fun hnode => ?_, fun hmem => ?_, fun hname => ?_, fun hvisit => ?_, hassigned⟩
  · exact (hadvances.settled hvisit).resolve_left fun hmem => nomatch hmem
  · refine (hcompletes.rendered hnode).resolve_left fun hformer => ?_
    exact nomatch hformer.symm.trans Std.TreeMap.getElem?_emptyc
  · refine (hcompletes.constructed hnode).resolve_left fun hformer => ?_
    exact nomatch hformer.symm.trans Std.TreeMap.getElem?_emptyc
  · refine (hcompletes.patched hmem).resolve_left fun hformer => ?_
    exact nomatch hformer.symm.trans Std.TreeSet.contains_emptyc
  · refine (hcompletes.declared hname).resolve_left fun hformer => ?_
    exact nomatch hformer.symm.trans Std.TreeMap.getElem?_emptyc
  · exact (hcompletes.refers hvisit).resolve_left fun hmem => nomatch hmem

end ShapeGraph

/-! ### What is in use -/

/-- What the platform has as a member of a builtin is a builtin. -/
theorem Gen.builtin_of_isOwnMember {graph : ShapeGraph} {fullName : String}
    {binding : String × ShapeId} (h : isOwnMember graph fullName binding = true) :
    ∃ memberName properties constructible,
      graph.shape? binding.2 = some (.builtin memberName properties constructible) := by
  unfold isOwnMember at h
  split at h
  · next hid => exact ⟨_, _, _, hid⟩
  · cases h

namespace Builder

/-- A shape has a node below the statements, unless it is a builtin. -/
def InUse (graph : ShapeGraph) (builder : Builder) (id : ShapeId) : Prop :=
  ∃ node, builder.Settled graph id node ∧ (builder.arena.Reaches builder.roots node ∨
    ∃ fullName properties constructible,
      graph.shape? id = some (.builtin fullName properties constructible))

variable {settings : Settings} {graph : ShapeGraph} {builder : Builder} {id value : ShapeId}
  {node : NodeId}

/-- What is emitted is a statement of the program. -/
theorem mem_roots {stmt : NodeId} (h : stmt ∈ builder.statements) : stmt ∈ builder.roots :=
  List.mem_append_right _ (Array.mem_toList_iff.2 h)

namespace Whole

variable (h : builder.Whole settings graph)
include h

/-- What a node in use provides is in use. -/
theorem inUse_of_provides (hprovides : builder.Provides node value)
    (hnode : builder.arena.Reaches builder.roots node) : builder.InUse graph value := by
  obtain ⟨answer, hvisit, hreached | ⟨stmt, hstmt, hreached⟩⟩ := hprovides
  · exact ⟨answer, h.settled hvisit,
      .inl (hreached.mono fun _ hroot => List.mem_singleton.1 hroot ▸ hnode)⟩
  · exact ⟨answer, h.settled hvisit,
      .inl (hreached.mono fun _ hroot => List.mem_singleton.1 hroot ▸ .root (mem_roots hstmt))⟩

/-- What the rule for a shape asks for is in use with the shape. -/
theorem inUse_of_request (hinuse : builder.InUse graph id)
    (hmem : value ∈ graph.requests settings id) : builder.InUse graph value := by
  obtain ⟨node, hsettled, hreached⟩ := hinuse
  have hnot {shape : Shape} (hid : graph.shape? id = some shape)
      (hkind : ∀ fullName properties constructible,
        shape ≠ .builtin fullName properties constructible) :
      builder.arena.Reaches builder.roots node := by
    refine hreached.resolve_right ?_
    rintro ⟨_, _, _, hid'⟩
    exact hkind _ _ _ (Option.some.inj (hid.symm.trans hid'))
  cases hsettled with
  | node hnode =>
    obtain ⟨shape, hid, hkind⟩ := h.kinds hnode
    rcases h.rendered hnode with ⟨kind, hid'⟩ | ⟨_, hrenders⟩
    · rw [ShapeGraph.requests, hid'] at hmem
      exact absurd hmem List.not_mem_nil
    · refine h.inUse_of_provides (hrenders.provides hmem) (hnot hid ?_)
      rintro _ _ _ rfl
      cases hkind
  | constructed hid hnode =>
    rw [ShapeGraph.requests_instanceOf hid] at hmem
    obtain rfl := List.mem_singleton.1 hmem
    obtain ⟨callee, hvisit, hnew⟩ := h.constructed hnode
    have hreached := hnot hid (by rintro _ _ _ ⟨⟩)
    exact ⟨callee, h.settled hvisit, .inl (hreached.operand hnew List.mem_cons_self)⟩
  | member hid hsettled =>
    rw [ShapeGraph.requests_union hid] at hmem
    obtain rfl := List.mem_singleton.1 hmem
    exact ⟨node, hsettled, .inl (hnot hid (by rintro _ _ _ ⟨⟩))⟩
  | builtin _ hid hpatched =>
    rw [ShapeGraph.requests_builtin hid] at hmem
    obtain ⟨binding, hbinding, rfl⟩ := List.mem_map.1 hmem
    obtain ⟨value, hvisit, hwritten⟩ := h.patched hpatched _ _ _ hid binding hbinding
    refine ⟨value, h.settled hvisit, ?_⟩
    -- What the platform has there is a builtin itself.
    cases hmember : Gen.isOwnMember graph _ binding with
    | true => exact .inr (Gen.builtin_of_isOwnMember hmember)
    | false =>
      obtain ⟨stmt, hstmt, target, owner, hassigns, _⟩ := hwritten hmember
      exact .inl (hassigns.reaches.mono fun _ hroot =>
        List.mem_singleton.1 hroot ▸ .root (mem_roots hstmt))
  | empty _ hid | undefined _ hid | null _ hid | global _ hid | parameter _ hid =>
    rw [ShapeGraph.requests, hid] at hmem
    exact absurd hmem List.not_mem_nil

/-- What is needed for a global binding is in use, since each rule puts what it asks for below its
    node or writes it in a statement. -/
theorem inUse_of_required (hrequired : graph.Required settings id) : builder.InUse graph id := by
  obtain ⟨binding, hbinding, hneeds⟩ := hrequired
  induction hneeds with
  | refl =>
    obtain ⟨stmt, hstmt, target, value, hassigns, hvisit⟩ := h.assigned binding hbinding
    exact ⟨value, h.settled hvisit, .inl (hassigns.reaches.mono fun _ hroot =>
      List.mem_singleton.1 hroot ▸ .root (mem_roots hstmt))⟩
  | tail _ hrequest ih => exact h.inUse_of_request ih hrequest

/-- What is remembered stands below the statements, unless it is a primitive value. -/
theorem reached (hnode : builder.nodes[id.index]? = some node) :
    (∃ kind, graph.shape? id = some (.primitive kind)) ∨
      builder.arena.Reaches builder.roots node ∧ builder.Renders settings graph 0 id node := by
  refine (h.rendered hnode).imp_right fun ⟨hrequired, hrenders⟩ => ⟨?_, hrenders⟩
  obtain ⟨shape, hid, hkind⟩ := h.kinds hnode
  obtain ⟨node', hsettled, hreached | ⟨_, _, _, hid'⟩⟩ := h.inUse_of_required hrequired
  · rwa [Option.some.inj (hnode.symm.trans (hsettled.nodes hid hkind))]
  · obtain rfl := Option.some.inj (hid.symm.trans hid')
    cases hkind

end Whole

end Builder

end Semblance
