import Semblance.Proofs.Generate.Rendering

/-!
# Generations that are complete

A generation that ends without a fault has put together the nodes of all shapes that it remembers,
and it remembers only shapes that are needed for what was asked. `Builder.Completes` says this of two
builders, whatever containers are being filled on the way. A shape that was remembered before may be
one whose node is still being put together; it is up to the rule that has made the node.

## Key results

- `Completes.trans`: what a generation in two parts completes
- `Completes.remembered`: a rule that remembers a node first and puts it together then
- `forM_ok`, `mapM_ok`, `foldlM_ok`: what a loop has done when it ends without a fault
-/

namespace Semblance

/-- Shapes that are asked for when a shape is asked for. -/
def ShapeGraph.Needs (settings : Settings) (graph : ShapeGraph) : ShapeId → ShapeId → Prop :=
  Relation.ReflTransGen fun id value => value ∈ graph.requests settings id

namespace Builder

/-- What a later builder remembers in addition is put together, and it is in a region of the graph.
    Placeholders in addition are those of parameters that were asked for. -/
structure Completes (settings : Settings) (graph : ShapeGraph) (region : ShapeId → Prop)
    (own : List NodeId) (builder builder' : Builder) : Prop
    extends Carries own builder builder' where
  rendered : ∀ {id : ShapeId} {node}, builder'.nodes[id.index]? = some node →
    builder.nodes[id.index]? = some node ∨ (∃ kind, graph.shape? id = some (.primitive kind)) ∨
      region id ∧ builder'.Renders settings graph builder.arena.size id node
  constructed : ∀ {index : Nat} {node}, builder'.instances[index]? = some node →
    builder.instances[index]? = some node ∨ ∃ callee, (⟨index⟩, .ok callee) ∈ builder'.visits ∧
      builder'.arena.node? node = some (.new callee #[])
  patched : ∀ {id : ShapeId}, builder'.patched.contains id.index = true →
    builder.patched.contains id.index = true ∨ builder'.WritesOut graph id
  declared : ∀ {index : Nat} {name}, builder'.placeholders[index]? = some name →
    builder.placeholders[index]? = some name ∨
      ∃ use node, graph.shape? ⟨index⟩ = some (.parameter use) ∧
        (⟨index⟩, .ok node) ∈ builder'.visits
  refers : ∀ {id node}, (id, .ok node) ∈ builder'.visits →
    (id, .ok node) ∈ builder.visits ∨ builder'.Refers graph id node

variable {settings : Settings} {graph : ShapeGraph} {region region' : ShapeId → Prop}
  {own own' : List NodeId} {builder builder' builder'' : Builder} {id : ShapeId} {node : NodeId}

/-- Nothing is remembered and no answer noted. -/
structure Same (builder builder' : Builder) : Prop where
  nodes : builder'.nodes = builder.nodes
  instances : builder'.instances = builder.instances
  patched : builder'.patched = builder.patched
  placeholders : builder'.placeholders = builder.placeholders
  visits : builder'.visits = builder.visits

/-- If nothing is remembered, nothing has to be put together. -/
theorem Same.completes (h : builder.Same builder') (harena : builder.arena.Spares own builder'.arena)
    (hstatements : ∀ stmt ∈ builder.statements, stmt ∈ builder'.statements) :
    builder.Completes settings graph region own builder' where
  arena := harena
  visits _ hmem := h.visits ▸ hmem
  statements := hstatements
  remembers hnode := h.nodes ▸ hnode
  placeholders hname := h.placeholders ▸ hname
  rendered hnode := .inl (h.nodes ▸ hnode)
  constructed hnode := .inl (h.instances ▸ hnode)
  patched hmem := .inl (h.patched ▸ hmem)
  declared hname := .inl (h.placeholders ▸ hname)
  refers hmem := .inl (h.visits ▸ hmem)

theorem Completes.rfl : builder.Completes settings graph region own builder :=
  Same.completes ⟨Eq.refl _, Eq.refl _, Eq.refl _, Eq.refl _, Eq.refl _⟩ .rfl fun _ hmem => hmem

/-- What is filled was there at the start, so the second part leaves alone what the first part has
    put together. -/
theorem Completes.trans (h : builder.Completes settings graph region own builder')
    (h' : builder'.Completes settings graph region own builder'')
    (hown : ∀ container ∈ own, container.index < builder.arena.size) :
    builder.Completes settings graph region own builder'' where
  toCarries := h.toCarries.trans h'.toCarries
  rendered hnode := by
    rcases h'.rendered hnode with hformer | hkind | ⟨hid, hrenders⟩
    · rcases h.rendered hformer with hformer | hkind | ⟨hid, hrenders⟩
      · exact .inl hformer
      · exact .inr (.inl hkind)
      · -- What is filled later was there at the start, so it is no part of the node.
        exact .inr (.inr ⟨hid, hrenders.mono h'.toCarries hown⟩)
    · exact .inr (.inl hkind)
    · exact .inr (.inr ⟨hid, hrenders.of_le h.arena.size⟩)
  constructed hnode := by
    rcases h'.constructed hnode with hformer | hnew
    · refine (h.constructed hformer).imp_right fun ⟨callee, hvisit, hnew⟩ => ?_
      exact ⟨callee, h'.visits _ hvisit, h'.arena.node?_eq hnew (Eq.refl _) (.inr (Eq.refl _))⟩
    · exact .inr hnew
  patched hmem := by
    rcases h'.patched hmem with hformer | hwritten
    · exact (h.patched hformer).imp_right fun hwritten => hwritten.mono h'.toCarries
    · exact .inr hwritten
  declared hname := by
    rcases h'.declared hname with hformer | hasked
    · exact (h.declared hformer).imp_right fun ⟨use, node, hid, hvisit⟩ =>
        ⟨use, node, hid, h'.visits _ hvisit⟩
    · exact .inr hasked
  refers hmem := by
    rcases h'.refers hmem with hformer | hrefers
    · exact (h.refers hformer).imp_right fun hrefers => hrefers.mono h'.toCarries
    · exact .inr hrefers

/-- If no container is being filled, two parts may follow each other without more ado. -/
theorem Completes.andThen (h : builder.Completes settings graph region [] builder')
    (h' : builder'.Completes settings graph region [] builder'') :
    builder.Completes settings graph region [] builder'' :=
  h.trans h' fun _ hmem => nomatch hmem

theorem Completes.mono (h : builder.Completes settings graph region own builder')
    (hregion : ∀ id, region id → region' id) (hown : own ⊆ own') :
    builder.Completes settings graph region' own' builder' where
  toCarries := h.toCarries.mono hown
  rendered hnode := (h.rendered hnode).imp_right (.imp_right (.imp_left (hregion _)))
  constructed := h.constructed
  patched := h.patched
  declared := h.declared
  refers := h.refers

/-- Containers that were not there yet make no difference. -/
theorem Carries.drop (h : builder.Carries own builder')
    (hown : ∀ container ∈ own, builder.arena.size ≤ container.index) :
    builder.Carries own' builder' :=
  { h with
    arena := ⟨h.arena.size, fun {id _} hnode => (h.arena.node hnode).imp_right (.imp_right
      fun ⟨hmem, _⟩ => absurd (Arena.lt_size_of_node? hnode) (Nat.not_lt.2 (hown id hmem)))⟩ }

/-- A node is remembered for a shape when it is made, and it is put together afterwards. -/
theorem Completes.remembered {arena : Arena}
    (h : Completes settings graph region own
      { builder with arena, nodes := builder.nodes.insert id.index node } builder')
    (harena : builder.arena.Spares [] arena)
    (hown : ∀ container ∈ own, builder.arena.size ≤ container.index)
    (hrenders : (∃ kind, graph.shape? id = some (.primitive kind)) ∨
      region id ∧ builder'.Renders settings graph builder.arena.size id node) :
    builder.Completes settings graph region own' builder' where
  toCarries := by
    have hcarries : Carries own builder builder' :=
      { h.toCarries with
        arena := (harena.mono (List.nil_subset _)).trans h.arena
        remembers := fun {index} hnode => h.remembers (by
          rw [Std.TreeMap.getElem?_insert]
          split
          · exact Eq.refl _
          · exact hnode) }
    exact hcarries.drop hown
  rendered {other node'} hnode := by
    rcases h.rendered hnode with hformer | hkind | ⟨hid, hother⟩
    · rw [Std.TreeMap.getElem?_insert] at hformer
      split at hformer
      · next heq =>
        -- The node that was remembered first is now put together.
        obtain rfl : id = other := congrArg ShapeId.mk (Std.LawfulEqCmp.eq_of_compare heq)
        exact .inr (Option.some.inj hformer ▸ hrenders)
      · exact .inl hformer
    · exact .inr (.inl hkind)
    · exact .inr (.inr ⟨hid, hother.of_le harena.size⟩)
  constructed := h.constructed
  patched := h.patched
  declared := h.declared
  refers := h.refers

/-- A builtin is marked, and what was added to it is written afterwards. -/
theorem Completes.marked
    (h : Completes settings graph region own
      { builder with patched := builder.patched.insert id.index } builder')
    (hwritten : builder'.WritesOut graph id) :
    builder.Completes settings graph region own builder' where
  toCarries := { h.toCarries with }
  rendered := h.rendered
  constructed := h.constructed
  patched {other} hmem := by
    rcases h.patched hmem with hformer | hother
    · rw [Std.TreeSet.contains_insert, Bool.or_eq_true] at hformer
      rcases hformer with heq | hformer
      · -- The mark was set before, and the additions are written by now.
        obtain rfl : id = other :=
          congrArg ShapeId.mk (Std.LawfulEqCmp.eq_of_compare (beq_iff_eq.1 heq))
        exact .inr hwritten
      · exact .inl hformer
    · exact .inr hother
  declared := h.declared
  refers := h.refers

/-- An answer is noted. -/
theorem completes_note (h : builder.Refers graph id node) :
    builder.Completes settings graph region own
      { builder with visits := builder.visits.push (id, .ok node) } where
  arena := .rfl
  visits _ hmem := Array.mem_push_of_mem _ hmem
  statements _ hmem := hmem
  remembers hnode := hnode
  placeholders hname := hname
  rendered := .inl
  constructed := .inl
  patched := .inl
  declared := .inl
  refers {other answer} hmem := by
    rcases Array.mem_push.1 hmem with hformer | hlast
    · exact .inl hformer
    · obtain ⟨rfl, hanswer⟩ := Prod.mk.inj hlast
      obtain rfl := Except.ok.inj hanswer
      exact .inr h

end Builder

namespace Gen

variable {settings : Settings} {graph : ShapeGraph} {region : ShapeId → Prop} {own : List NodeId}
  {builder builder' : Builder} {id : ShapeId}

/-- A generation that goes ahead and remembers nothing. -/
structure Forgets (gen : Gen α) (builder : Builder) : Prop extends builder.Same (gen builder).2 where
  statements : ∀ stmt ∈ builder.statements, stmt ∈ (gen builder).2.statements

/-- What a generation remembers is put together if it remembers nothing. -/
theorem Forgets.completes {gen : Gen α} (h : Forgets gen builder)
    (hadvancing : Advancing graph own gen builder) {result : α}
    (heq : gen builder = (.ok result, builder')) :
    builder.Completes settings graph region own builder' := by
  have harena := (hadvancing.of_eq heq).arena
  obtain ⟨hsame, hstatements⟩ := h
  rw [heq] at hsame hstatements
  exact hsame.completes harena hstatements

/-- Work on the arena remembers nothing. -/
theorem forgets_onArena (build : StateM Arena α) : Forgets (onArena build) builder :=
  ⟨⟨rfl, rfl, rfl, rfl, rfl⟩, fun _ hmem => hmem⟩

/-- A leaf is not remembered. -/
theorem forgets_leaf (origin : Origin) : Forgets (leaf origin) builder :=
  ⟨⟨rfl, rfl, rfl, rfl, rfl⟩, fun _ hmem => hmem⟩

/-- A member chain is not remembered. -/
theorem forgets_platform (path : String) : Forgets (platform path) builder :=
  ⟨⟨rfl, rfl, rfl, rfl, rfl⟩, fun _ hmem => hmem⟩

/-- A reference that a generation inserts is not remembered. -/
theorem forgets_refer (name : String) (referent : Referent) :
    Forgets (refer name referent) builder :=
  ⟨⟨rfl, rfl, rfl, rfl, rfl⟩, fun _ hmem => hmem⟩

/-- A statement at the top level is not remembered. -/
theorem forgets_emitAssign (target value : NodeId) : Forgets (emitAssign target value) builder :=
  ⟨⟨rfl, rfl, rfl, rfl, rfl⟩, fun _ hmem => Array.mem_push_of_mem _ hmem⟩

theorem completes_leaf {origin : Origin} {node : NodeId}
    (h : leaf origin builder = (.ok node, builder')) :
    builder.Completes settings graph region own builder' :=
  (forgets_leaf origin).completes (advancing_leaf origin) h

/-- A leaf is the node of its origin. -/
theorem node?_of_leaf {origin : Origin} {node : NodeId}
    (h : leaf origin builder = (.ok node, builder')) :
    builder'.arena.node? node = some origin.node := by
  obtain ⟨hnode, rfl⟩ := Prod.mk.inj h
  obtain rfl := Except.ok.inj hnode
  exact Arena.node?_push_self _ _

theorem completes_allocation {build : StateM Arena α} (hbuild : Arena.AllocatesOnly build)
    {result : α} (h : onArena build builder = (.ok result, builder')) :
    builder.Completes settings graph region own builder' :=
  (forgets_onArena build).completes (advancing_allocation hbuild) h

theorem completes_emitAssign {target value : NodeId}
    (h : emitAssign target value builder = (.ok ⟨⟩, builder')) :
    builder.Completes settings graph region own builder' :=
  (forgets_emitAssign target value).completes (advancing_emitAssign target value) h

/-- An assignment at the top level is found there, with its target and value. -/
theorem assigns_of_emitAssign {target value : NodeId}
    (h : emitAssign target value builder = (.ok ⟨⟩, builder')) :
    ∃ stmt ∈ builder'.statements, builder'.arena.Assigns stmt target value := by
  obtain ⟨_, rfl⟩ := Prod.mk.inj h
  exact ⟨_, Array.mem_push_self, Arena.assigns_assignStmt target value builder.arena⟩

/-! ### Loops -/

/-- What a loop has done for the first items it has done for all of them in the end. -/
theorem foldlM_ok {step : β → α → Gen β} (inv : List α → β → Builder → Prop) {items done : List α}
    (hitem : ∀ item ∈ items, ∀ {done state state' builder builder'}, inv done state builder →
      step state item builder = (.ok state', builder') → inv (done ++ [item]) state' builder')
    {state state' : β} (h : items.foldlM step state builder = (.ok state', builder'))
    (hinv : inv done state builder) : inv (done ++ items) state' builder' := by
  induction items generalizing builder state done with
  | nil =>
    obtain ⟨rfl, rfl⟩ := pure_eq_ok h
    rwa [List.append_nil]
  | cons item items ih =>
    rw [List.foldlM_cons] at h
    obtain ⟨next, builder₁, hnext, h⟩ := run_bind_eq_ok h
    have hdone := hitem item List.mem_cons_self hinv hnext
    rw [List.append_cons]
    exact ih (fun other hmem => hitem other (List.mem_cons_of_mem _ hmem)) h hdone

/-- What a loop without results has done for the first items it has done for all of them. -/
theorem forM_ok {action : α → Gen PUnit} (inv : List α → Builder → Prop) {items done : List α}
    (hitem : ∀ item ∈ items, ∀ {done builder builder'}, inv done builder →
      action item builder = (.ok ⟨⟩, builder') → inv (done ++ [item]) builder')
    (h : items.forM action builder = (.ok ⟨⟩, builder')) (hinv : inv done builder) :
    inv (done ++ items) builder' := by
  induction items generalizing builder done with
  | nil =>
    obtain ⟨_, rfl⟩ := pure_eq_ok h
    rwa [List.append_nil]
  | cons item items ih =>
    obtain ⟨_, builder₁, hfirst, h⟩ := run_bind_eq_ok h
    have hdone := hitem item List.mem_cons_self hinv hfirst
    rw [List.append_cons]
    exact ih (fun other hmem => hitem other (List.mem_cons_of_mem _ hmem)) h hdone

/-- The results of a loop are those of its items, in order. -/
theorem mapM_ok {action : α → Gen β} (inv : List α → List β → Builder → Prop) {items done : List α}
    (hitem : ∀ item ∈ items, ∀ {done results result builder builder'}, inv done results builder →
      action item builder = (.ok result, builder') →
      inv (done ++ [item]) (results ++ [result]) builder')
    {results rest : List β} (h : items.mapM action builder = (.ok rest, builder'))
    (hinv : inv done results builder) : inv (done ++ items) (results ++ rest) builder' := by
  induction items generalizing builder done results rest with
  | nil =>
    rw [List.mapM_nil] at h
    obtain ⟨rfl, rfl⟩ := pure_eq_ok h
    rwa [List.append_nil, List.append_nil]
  | cons item items ih =>
    rw [List.mapM_cons] at h
    obtain ⟨result, builder₁, hfirst, h⟩ := run_bind_eq_ok h
    obtain ⟨rest', builder₂, hrest, h⟩ := run_bind_eq_ok h
    obtain ⟨rfl, rfl⟩ := pure_eq_ok h
    have hdone := hitem item List.mem_cons_self hinv hfirst
    rw [List.append_cons done, List.append_cons results]
    exact ih (fun other hmem => hitem other (List.mem_cons_of_mem _ hmem)) hrest hdone

end Gen

end Semblance
