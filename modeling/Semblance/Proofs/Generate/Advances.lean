import Mathlib.Data.List.Forall2
import Semblance.Proofs.Generate.Stepwise

/-!
# How far a generation goes

A generation goes ahead only: what a builder remembers stays remembered, and a node that is there
stays as it is, unless it is a container that the generation itself is filling, or a declaration.
Every request for a shape is noted with its answer, and every node that was answered is settled: a
further request finds it. An object has all its entries when its rule is done. If the rule meets a
fault, the object keeps the entries that came before, and the fault is noted as the answer for it.

`Builder.Advances` says this of two builders, and `Gen.Advancing` of a generation, whether it ends in
a fault or not.

## Key results

- `Advances.remember`: what it takes to remember a shape
- `Advances.trans`: what a generation in two parts does
- `Advancing.bind`, `advancing_forM`, `advancing_mapM`, `advancing_foldlM`: generations made from others
- `forM_prefix`: what a loop has done when it ends or is ended by a fault
- `Opens.logged`: what is left open by a rule is closed when its answer is noted
-/

namespace Semblance

/-- Whether the node of a shape is remembered under its id. -/
def Shape.isRemembered : Shape → Bool
  | object _ | array _ _ | function _ | union (_ :: _ :: _) => true
  | primitive kind => kind != .undefined && kind != .null
  | _ => false

/-- What entries an object has, in order. -/
def Aggregate.entryList (entries : Aggregate) : List (EntryKind × String × ShapeId) :=
  entries.properties.toList.map (EntryKind.value, ·) ++
    entries.getters.toList.map (EntryKind.getter, ·) ++
    entries.setters.toList.map (EntryKind.setter, ·)

/-- An entry under a new key leaves the others as they are. -/
theorem getElem?_insert_of_some {map : Std.TreeMap Nat α} {index other : Nat} {value : α}
    (hnone : map[index]? = none) (hvalue : map[other]? = some value) (new : α) :
    (map.insert index new)[other]? = some value := by
  rw [Std.TreeMap.getElem?_insert, if_neg, hvalue]
  intro heq
  rw [← Std.LawfulEqCmp.eq_of_compare heq, hnone] at hvalue
  cases hvalue

/-! ### Arenas -/

namespace Arena

/-- Nodes stay as they are, apart from declarations and from the containers that are being filled. -/
structure Spares (own : List NodeId) (arena arena' : Arena) : Prop where
  size : arena.size ≤ arena'.size
  node : ∀ {id node}, arena.node? id = some node → arena'.node? id = some node ∨
    node.isBinding = true ∨ id ∈ own ∧ node.isContainer = true

variable {own : List NodeId} {arena arena' arena'' : Arena} {id : NodeId} {node : Node}

theorem Spares.rfl : arena.Spares own arena :=
  ⟨Nat.le_refl _, fun hnode => .inl hnode⟩

/-- Nodes that are spared twice are spared, since a container stays one and so does a
    declaration. -/
theorem Spares.trans (h : arena.Spares own arena') (h' : arena'.Spares own arena'') :
    arena.Spares own arena'' where
  size := Nat.le_trans h.size h'.size
  node hnode := (h.node hnode).elim h'.node .inr

theorem Spares.mono {own' : List NodeId} (h : arena.Spares own arena') (hown : own ⊆ own') :
    arena.Spares own' arena' where
  size := h.size
  node hnode := (h.node hnode).imp_right (.imp_right fun ⟨hmem, hkind⟩ => ⟨hown hmem, hkind⟩)

/-- A node that is neither a declaration nor a container that is being filled stays as it is. -/
theorem Spares.node?_eq (h : arena.Spares own arena') (hnode : arena.node? id = some node)
    (hbinding : node.isBinding = false) (hown : id ∉ own ∨ node.isContainer = false) :
    arena'.node? id = some node := by
  rcases h.node hnode with hsame | hdecl | ⟨hmem, hkind⟩
  · exact hsame
  · exact absurd hdecl (by simp [hbinding])
  · rcases hown with hnot | hnot
    · exact absurd hmem hnot
    · exact absurd hkind (by simp [hnot])

/-- A further node leaves the others alone. -/
theorem spares_push (node : Node) (arena : Arena) : arena.Spares own (push node arena).2 where
  size := by simp [size_push]
  node hformer := .inl (node?_push_of_node? hformer node)

/-- What an arena holds besides its nodes makes no difference. -/
theorem spares_of_nodes_eq (h : arena'.nodes = arena.nodes) : arena.Spares own arena' where
  size := Nat.le_of_eq (by rw [size, size, h])
  node hnode := .inl (by rwa [node?, h])

/-- A further node leaves the others alone, whatever hint it has. -/
theorem spares_pushHinted (node : Node) (hint : String) (arena : Arena) :
    arena.Spares own (pushHinted node hint arena).2 :=
  (spares_push node arena).trans (spares_of_nodes_eq (Eq.refl _))

/-- Building new nodes leaves the others alone. -/
theorem Allocates.spares (h : arena.Allocates arena') : arena.Spares own arena' := by
  induction h with
  | none => exact .rfl
  | push _ _ ih => exact ih.trans (spares_push _ _)

/-- A container is filled, or a declaration gets longer. -/
theorem spares_modifyNode {change : Node → Node}
    (hchange : ∀ node, arena.node? id = some node → change node = node ∨ node.isBinding = true ∨
      id ∈ own ∧ node.isContainer = true) : arena.Spares own (arena.modifyNode id change) where
  size := by simp [size, modifyNode]
  node {other node} hnode := by
    rw [node?_modifyNode, hnode]
    split
    · next heq =>
      subst heq
      exact (hchange node hnode).imp_left fun hsame => by rw [Option.map_some, hsame]
    · exact .inl (Eq.refl _)

/-- An entry changes the object that is being filled. -/
theorem spares_appendEntry (hown : id ∈ own) (entry : NodeId) :
    arena.Spares own (arena.appendEntry id entry) :=
  spares_modifyNode fun node _ => by
    cases node with
    | object => exact .inr (.inr ⟨hown, Eq.refl _⟩)
    | _ => exact .inl (Eq.refl _)

/-- A statement changes the block that is being filled. -/
theorem spares_appendStmt (hown : id ∈ own) (stmt : NodeId) :
    arena.Spares own (arena.appendStmt id stmt) :=
  spares_modifyNode fun node _ => by
    cases node with
    | block => exact .inr (.inr ⟨hown, Eq.refl _⟩)
    | _ => exact .inl (Eq.refl _)

/-- A declarator changes a declaration, which need not be one that is being filled. -/
theorem spares_appendDeclarator (decl declarator : NodeId) :
    arena.Spares own (arena.appendDeclarator decl declarator) :=
  spares_modifyNode fun node _ => by
    cases node with
    | varDecl => exact .inr (.inl (Eq.refl _))
    | _ => exact .inl (Eq.refl _)

end Arena

/-! ### Builders -/

namespace Builder

/-- The id that the next node will have. -/
def next (builder : Builder) : NodeId :=
  ⟨builder.arena.size⟩

/-- What a builder has generated, another has generated in the same way. -/
structure Knows (builder builder' : Builder) : Prop where
  nodes : ∀ {index : Nat} {node}, builder.nodes[index]? = some node →
    builder'.nodes[index]? = some node
  instances : ∀ {index : Nat} {node}, builder.instances[index]? = some node →
    builder'.instances[index]? = some node
  patched : ∀ {index : Nat}, builder.patched.contains index = true →
    builder'.patched.contains index = true
  globalName : ∀ {name}, builder.globalName = some name → builder'.globalName = some name
  placeholders : ∀ {index : Nat} {name}, builder.placeholders[index]? = some name →
    builder'.placeholders[index]? = some name

/-- A request for the shape finds what it needs, and answers with the node if the shape has one of
    its own. -/
inductive Settled (graph : ShapeGraph) (builder : Builder) : ShapeId → NodeId → Prop
  | node {id : ShapeId} {node : NodeId} : builder.nodes[id.index]? = some node →
      Settled graph builder id node
  | constructed {id constructor : ShapeId} {properties : Properties} {node : NodeId} :
      graph.shape? id = some (.instanceOf constructor properties) →
      builder.instances[constructor.index]? = some node → Settled graph builder id node
  | member {id only : ShapeId} {node : NodeId} : graph.shape? id = some (.union [only]) →
      Settled graph builder only node → Settled graph builder id node
  | empty {id : ShapeId} (node : NodeId) : graph.shape? id = some (.union []) →
      Settled graph builder id node
  | undefined {id : ShapeId} (node : NodeId) : graph.shape? id = some (.primitive .undefined) →
      Settled graph builder id node
  | null {id : ShapeId} (node : NodeId) : graph.shape? id = some (.primitive .null) →
      Settled graph builder id node
  | builtin {id : ShapeId} {fullName : String} {properties : Properties} {constructible : Bool}
      (node : NodeId) : graph.shape? id = some (.builtin fullName properties constructible) →
      builder.patched.contains id.index = true → Settled graph builder id node
  | global {id : ShapeId} {properties : Properties} {name : String} (node : NodeId) :
      graph.shape? id = some (.global properties) → builder.globalName = some name →
      Settled graph builder id node
  | parameter {id : ShapeId} {use : Parameter} {name : String} (node : NodeId) :
      graph.shape? id = some (.parameter use) → builder.placeholders[id.index]? = some name →
      Settled graph builder id node

/-- A node is the entry of an object for a binding. -/
def IsEntry (builder : Builder) (id : NodeId) (entry : EntryKind × String × ShapeId) : Prop :=
  ∃ value, (entry.2.2, .ok value) ∈ builder.visits ∧ builder.arena.node? id = some (.entry
    (if isIdentifier entry.2.1 then .bare entry.2.1 else .quoted entry.2.1) value entry.1)

/-- A node is an object with these entries. -/
def Filled (builder : Builder) (node : NodeId) (entries : List (EntryKind × String × ShapeId)) :
    Prop :=
  ∃ ids, builder.arena.node? node = some (.object ids) ∧
    List.Forall₂ builder.IsEntry ids.toList entries

/-- If the shape is an object, its node has the first entries. -/
def Begun (graph : ShapeGraph) (builder : Builder) (id : ShapeId) (node : NodeId) : Prop :=
  ∀ entries, graph.shape? id = some (.object entries) →
    ∃ done, done <+: entries.entryList ∧ builder.Filled node done

/-- If the shape is an object, its node has the first entries, and all of them unless the generation
    of the object met a fault. -/
def Done (graph : ShapeGraph) (builder : Builder) (id : ShapeId) (node : NodeId) : Prop :=
  ∀ entries, graph.shape? id = some (.object entries) →
    ∃ done, done <+: entries.entryList ∧ builder.Filled node done ∧
      (done = entries.entryList ∨ ∃ fault, (id, .error fault) ∈ builder.visits)

/-- A later builder, while a rule fills containers of its own. -/
structure Advances (graph : ShapeGraph) (own : List NodeId) (builder builder' : Builder) : Prop
    extends Knows builder builder' where
  arena : builder.arena.Spares own builder'.arena
  /-- What is remembered is new, and so is its node. -/
  fresh : ∀ {index : Nat} {node}, builder'.nodes[index]? = some node →
    builder.nodes[index]? = some node ∨ builder.arena.size ≤ node.index ∧
      ∃ shape, graph.shape? ⟨index⟩ = some shape ∧ shape.isRemembered = true
  visits : ∀ visit ∈ builder.visits, visit ∈ builder'.visits
  settled : ∀ {id node}, (id, .ok node) ∈ builder'.visits →
    (id, .ok node) ∈ builder.visits ∨ builder'.Settled graph id node
  done : ∀ {id : ShapeId} {node}, builder'.nodes[id.index]? = some node →
    builder.nodes[id.index]? = some node ∨ node ∈ own ∨ builder'.Done graph id node

variable {graph : ShapeGraph} {own : List NodeId} {builder builder' builder'' : Builder}
  {id : ShapeId} {node : NodeId}

theorem Knows.rfl : builder.Knows builder :=
  ⟨fun h => h, fun h => h, fun h => h, fun h => h, fun h => h⟩

/-- What a later builder knows is known to all builders after it. -/
theorem Knows.trans (h : builder.Knows builder') (h' : builder'.Knows builder'') :
    builder.Knows builder'' where
  nodes hnode := h'.nodes (h.nodes hnode)
  instances hnode := h'.instances (h.instances hnode)
  patched hmem := h'.patched (h.patched hmem)
  globalName hname := h'.globalName (h.globalName hname)
  placeholders hname := h'.placeholders (h.placeholders hname)

/-- What is noted makes no difference to what is known. -/
theorem knows_note (builder : Builder) (visits : Array (ShapeId × Except Fault NodeId)) :
    builder.Knows { builder with visits } :=
  ⟨fun h => h, fun h => h, fun h => h, fun h => h, fun h => h⟩

/-- A request that finds what it needs will find it later as well. -/
theorem Settled.mono (hsettled : builder.Settled graph id node) (h : builder.Knows builder') :
    builder'.Settled graph id node := by
  induction hsettled with
  | node hnode => exact .node (h.nodes hnode)
  | constructed hid hnode => exact .constructed hid (h.instances hnode)
  | member hid _ ih => exact .member hid ih
  | empty node hid => exact .empty node hid
  | undefined node hid => exact .undefined node hid
  | null node hid => exact .null node hid
  | builtin node hid hmem => exact .builtin node hid (h.patched hmem)
  | global node hid hname => exact .global node hid (h.globalName hname)
  | parameter node hid hname => exact .parameter node hid (h.placeholders hname)

/-- What is asked for is found by its id, if it is of a kind that is remembered. -/
theorem Settled.nodes (hsettled : builder.Settled graph id node) {shape : Shape}
    (hid : graph.shape? id = some shape) (hkind : shape.isRemembered = true) :
    builder.nodes[id.index]? = some node := by
  cases hsettled with
  | node hnode => exact hnode
  | constructed hid' | member hid' | empty _ hid' | undefined _ hid' | null _ hid'
  | builtin _ hid' | global _ hid' | parameter _ hid' =>
    cases hid.symm.trans hid'
    cases hkind

/-- An entry stays as it is while containers are being filled, since it is none. -/
theorem IsEntry.mono {id : NodeId} {entry : EntryKind × String × ShapeId}
    (hentry : builder.IsEntry id entry) (harena : builder.arena.Spares own builder'.arena)
    (hvisits : ∀ visit ∈ builder.visits, visit ∈ builder'.visits) : builder'.IsEntry id entry := by
  obtain ⟨value, hmem, hnode⟩ := hentry
  exact ⟨value, hvisits _ hmem, harena.node?_eq hnode rfl (.inr rfl)⟩

/-- A filled object stays filled while other containers are being filled. -/
theorem Filled.mono {entries : List (EntryKind × String × ShapeId)}
    (hfilled : builder.Filled node entries) (harena : builder.arena.Spares own builder'.arena)
    (hvisits : ∀ visit ∈ builder.visits, visit ∈ builder'.visits) (hown : node ∉ own) :
    builder'.Filled node entries := by
  obtain ⟨ids, hnode, hentries⟩ := hfilled
  exact ⟨ids, harena.node?_eq hnode rfl (.inl hown),
    hentries.imp fun _ _ hentry => hentry.mono harena hvisits⟩

/-- An object that is done has begun. -/
theorem Done.begun (hdone : builder.Done graph id node) : builder.Begun graph id node := by
  intro entries hentries
  obtain ⟨done, hprefix, hfilled, _⟩ := hdone entries hentries
  exact ⟨done, hprefix, hfilled⟩

/-- An object that is done stays so unless it is being filled again. -/
theorem Done.mono (hdone : builder.Done graph id node)
    (harena : builder.arena.Spares own builder'.arena)
    (hvisits : ∀ visit ∈ builder.visits, visit ∈ builder'.visits) (hown : node ∉ own) :
    builder'.Done graph id node := by
  intro entries hentries
  obtain ⟨done, hdone, hfilled, hall⟩ := hdone entries hentries
  refine ⟨done, hdone, hfilled.mono harena hvisits hown, ?_⟩
  exact hall.imp_right fun ⟨fault, hmem⟩ => ⟨fault, hvisits _ hmem⟩

/-- Nothing is remembered, and no request is answered. -/
theorem advances_of_knows (hknows : builder.Knows builder')
    (harena : builder.arena.Spares own builder'.arena) (hnodes : builder'.nodes = builder.nodes)
    (hvisits : builder'.visits = builder.visits) : builder.Advances graph own builder' where
  toKnows := hknows
  arena := harena
  fresh hnode := .inl (hnodes ▸ hnode)
  visits _ hmem := hvisits ▸ hmem
  settled hmem := .inl (hvisits ▸ hmem)
  done hnode := .inl (hnodes ▸ hnode)

/-- The arena changes and nothing else does. -/
theorem advances_arena {arena : Arena} (h : builder.arena.Spares own arena) :
    builder.Advances graph own { builder with arena } :=
  advances_of_knows ⟨fun h => h, fun h => h, fun h => h, fun h => h, fun h => h⟩ h (Eq.refl _)
    (Eq.refl _)

theorem Advances.rfl : builder.Advances graph own builder :=
  advances_of_knows .rfl .rfl (Eq.refl _) (Eq.refl _)

/-- A generation in two parts: what the first part has settled and put together stays so in the
    second. -/
theorem Advances.trans (h : builder.Advances graph own builder')
    (h' : builder'.Advances graph own builder'') : builder.Advances graph own builder'' where
  toKnows := h.toKnows.trans h'.toKnows
  arena := h.arena.trans h'.arena
  fresh hnode := by
    rcases h'.fresh hnode with hformer | ⟨hsize, hshape⟩
    · exact h.fresh hformer
    · exact .inr ⟨Nat.le_trans h.arena.size hsize, hshape⟩
  visits visit hmem := h'.visits visit (h.visits visit hmem)
  settled hmem := by
    rcases h'.settled hmem with hformer | hsettled
    · exact (h.settled hformer).imp_right fun hsettled => hsettled.mono h'.toKnows
    · exact .inr hsettled
  done {id node} hnode := by
    rcases h'.done hnode with hformer | hown | hdone
    · -- What the first part filled is no container of the second, or it is one of both.
      rcases h.done hformer with hold | hown | hdone
      · exact .inl hold
      · exact .inr (.inl hown)
      · by_cases hmem : node ∈ own
        · exact .inr (.inl hmem)
        · exact .inr (.inr (hdone.mono h'.arena h'.visits hmem))
    · exact .inr (.inl hown)
    · exact .inr (.inr hdone)

theorem Advances.mono {own' : List NodeId} (h : builder.Advances graph own builder')
    (hown : own ⊆ own') : builder.Advances graph own' builder' :=
  { h with
    arena := h.arena.mono hown
    done := fun hnode => (h.done hnode).imp_right (.imp_left fun hmem => hown hmem) }


/-- A shape is remembered that was not remembered before, with a new node. If it is an object, its
    rule is to fill it. -/
theorem Advances.remember (h : builder.Advances graph own builder') {shape : Shape}
    (hshape : graph.shape? id = some shape) (hkind : shape.isRemembered = true)
    (hnone : builder'.nodes[id.index]? = none) (hnode : builder.arena.size ≤ node.index)
    (hobject : node ∈ own ∨ ∀ entries, shape ≠ .object entries) :
    builder.Advances graph own
      { builder' with nodes := builder'.nodes.insert id.index node } := by
  -- What is remembered now is the new node or was remembered before.
  have hcases {index : Nat} {other : NodeId}
      (hother : (builder'.nodes.insert id.index node)[index]? = some other) :
      index = id.index ∧ other = node ∨ builder'.nodes[index]? = some other := by
    rw [Std.TreeMap.getElem?_insert] at hother
    split at hother
    · next heq => exact .inl ⟨(Std.LawfulEqCmp.eq_of_compare heq).symm, (Option.some.inj hother).symm⟩
    · exact .inr hother
  have hknows : builder'.Knows
      { builder' with nodes := builder'.nodes.insert id.index node } :=
    ⟨fun hother => getElem?_insert_of_some hnone hother node, fun h => h, fun h => h, fun h => h,
      fun h => h⟩
  exact {
    toKnows := h.toKnows.trans hknows
    arena := h.arena
    fresh := fun {index other} hother => by
      obtain ⟨rfl, rfl⟩ | hformer := hcases hother
      · exact .inr ⟨hnode, shape, hshape, hkind⟩
      · exact h.fresh hformer
    visits := h.visits
    settled := fun hmem => (h.settled hmem).imp_right fun hsettled => hsettled.mono hknows
    done := fun {other node'} hother => by
      obtain ⟨heq, rfl⟩ | hformer := hcases hother
      · obtain rfl : other = id := congrArg ShapeId.mk heq
        refine .inr (hobject.imp_right fun hother entries hentries => ?_)
        exact absurd (Option.some.inj (hshape.symm.trans hentries)) (hother entries)
      · exact (h.done hformer).imp_right (.imp_right fun hdone =>
          hdone.mono .rfl (fun _ hmem => hmem) (List.not_mem_nil)) }

end Builder

/-! ### Generations -/

namespace Gen

/-- A generation goes ahead, whether it ends in a fault or not. If it ends without one, none of the
    requests that it made met one. -/
structure Advancing (graph : ShapeGraph) (own : List NodeId) (gen : Gen α) (builder : Builder) :
    Prop where
  advances : builder.Advances graph own (gen builder).2
  answered : ∀ {result builder'}, gen builder = (.ok result, builder') →
    ∀ visit ∈ builder'.visits, visit ∈ builder.visits ∨ ∃ node, visit.2 = .ok node

variable {graph : ShapeGraph} {own : List NodeId} {builder builder' : Builder} {gen : Gen α}

/-- A run ends, with a result or with a fault. -/
theorem exists_run (gen : Gen α) (builder : Builder) :
    ∃ answer builder', gen builder = (answer, builder') :=
  ⟨_, _, rfl⟩

/-- A generation that makes no requests. -/
theorem advancing_of_visits_eq (h : builder.Advances graph own (gen builder).2)
    (hvisits : (gen builder).2.visits = builder.visits) : Advancing graph own gen builder where
  advances := h
  answered heq visit hmem := by
    rw [heq] at hvisits
    exact .inl (hvisits ▸ hmem)

theorem Advancing.mono {own' : List NodeId} (h : Advancing graph own gen builder)
    (hown : own ⊆ own') : Advancing graph own' gen builder :=
  ⟨h.advances.mono hown, h.answered⟩

/-- The builder that a run leaves is a later one. -/
theorem Advancing.of_eq {result : Except Fault α} (h : Advancing graph own gen builder)
    (heq : gen builder = (result, builder')) : builder.Advances graph own builder' := by
  have hadvances := h.advances
  rwa [heq] at hadvances

/-- A generation goes ahead if its first part does and the second one does after it. -/
theorem Advancing.bind {next : α → Gen β} (h : Advancing graph own gen builder)
    (hnext : ∀ result builder', gen builder = (.ok result, builder') →
      builder.Advances graph own builder' → Advancing graph own (next result) builder') :
    Advancing graph own (gen >>= next) builder := by
  obtain ⟨answer, builder', hgen⟩ := exists_run gen builder
  cases answer with
  | error fault =>
    -- The fault ends the whole generation, and what came before it stays.
    refine ⟨?_, fun heq => ?_⟩
    · rw [run_bind_error hgen]
      exact h.of_eq hgen
    · cases congrArg Prod.fst ((run_bind_error hgen).symm.trans heq)
  | ok result =>
    have hrest := hnext result builder' hgen (h.of_eq hgen)
    refine ⟨?_, fun heq visit hmem => ?_⟩
    · rw [run_bind hgen]
      exact (h.of_eq hgen).trans hrest.advances
    · rcases hrest.answered ((run_bind hgen).symm.trans heq) visit hmem with hformer | hok
      · exact h.answered hgen visit hformer
      · exact .inr hok

/-- The next generation goes ahead from any builder. -/
theorem Advancing.andThen {next : α → Gen β} (h : Advancing graph own gen builder)
    (hnext : ∀ result builder', Advancing graph own (next result) builder') :
    Advancing graph own (gen >>= next) builder :=
  h.bind fun result builder' _ _ => hnext result builder'

/-- A result alone changes nothing. -/
theorem advancing_pure (result : α) : Advancing graph own (pure result) builder :=
  advancing_of_visits_eq .rfl rfl

/-- Looking at the builder changes nothing. -/
theorem advancing_get : Advancing graph own get builder :=
  advancing_of_visits_eq .rfl rfl

/-- A generation that looks at the builder first. -/
theorem Advancing.ofState {next : Builder → Gen α}
    (h : Advancing graph own (next builder) builder) : Advancing graph own (get >>= next) builder :=
  ⟨h.advances, h.answered⟩

/-- A fault alone changes nothing. -/
theorem advancing_throw (fault : Fault) : Advancing graph own (throw fault : Gen α) builder :=
  advancing_of_visits_eq .rfl rfl

/-- A checked access changes nothing, whether the id is known or not. -/
theorem advancing_checked (access : Except OutOfRange α) :
    Advancing graph own (checked access) builder := by
  unfold checked
  split
  · exact advancing_pure _
  · exact advancing_throw _

/-- Looking up what is remembered changes nothing. -/
theorem advancing_known? (shape : ShapeId) : Advancing graph own (known? shape) builder :=
  advancing_get.andThen fun _ _ => advancing_pure _

/-- A change goes ahead if nothing is forgotten by it, and it is not one of the nodes remembered or
    of the answers. -/
theorem advancing_modify {change : Builder → Builder} (hknows : builder.Knows (change builder))
    (harena : builder.arena.Spares own (change builder).arena)
    (hnodes : (change builder).nodes = builder.nodes)
    (hvisits : (change builder).visits = builder.visits) :
    Advancing graph own (modify change) builder :=
  advancing_of_visits_eq (Builder.advances_of_knows hknows harena hnodes hvisits) hvisits

/-- Work on the arena goes ahead if it changes only containers that are being filled. -/
theorem advancing_onArena {build : StateM Arena α}
    (h : builder.arena.Spares own (build builder.arena).2) :
    Advancing graph own (onArena build) builder :=
  advancing_of_visits_eq (Builder.advances_arena h) rfl

/-- Building nodes goes ahead whatever is being filled. -/
theorem advancing_allocation {build : StateM Arena α} (h : Arena.AllocatesOnly build) :
    Advancing graph own (onArena build) builder :=
  advancing_onArena (h _).spares

/-- Building a single node changes none that is there. -/
theorem advancing_push (node : Node) :
    Advancing graph own (onArena (Arena.push node)) builder :=
  advancing_onArena (Arena.spares_push node _)

/-- Building a node with a hint changes none that is there. -/
theorem advancing_hinted (node : Node) (hint : String) :
    Advancing graph own (onArena (Arena.pushHinted node hint)) builder :=
  advancing_onArena (Arena.spares_pushHinted node hint _)

/-- A top-level statement is added to the others. -/
theorem advancing_emit (stmt : NodeId) : Advancing graph own (emit stmt) builder :=
  advancing_modify ⟨id, id, id, id, id⟩ .rfl rfl rfl

/-- A leaf is built and its origin is noted. -/
theorem advancing_leaf (origin : Origin) : Advancing graph own (leaf origin) builder :=
  (advancing_push origin.node).andThen fun _ _ =>
    (advancing_modify ⟨id, id, id, id, id⟩ .rfl rfl rfl).andThen fun _ _ => advancing_pure _

/-- The member chain of a path is built, and its root is a leaf. -/
theorem advancing_platform (path : String) : Advancing graph own (platform path) builder :=
  (advancing_leaf _).andThen fun root _ =>
    advancing_allocation (Arena.allocates_foldlM Arena.allocates_member _ root)

/-- An assignment is built and put at the top level. -/
theorem advancing_emitAssign (target value : NodeId) :
    Advancing graph own (emitAssign target value) builder :=
  (advancing_allocation (Arena.allocates_assignStmt target value)).andThen fun stmt _ =>
    advancing_emit stmt

/-- An assignment is built and put into a block that is being filled. -/
theorem advancing_assignIn {block : NodeId} (hown : block ∈ own) (target value : NodeId) :
    Advancing graph own (assignIn block target value) builder :=
  advancing_onArena ((Arena.allocates_assignStmt target value builder.arena).spares.trans
    (Arena.spares_appendStmt hown _))

/-! ### Lists -/

/-- A loop goes ahead if its body does for every item. -/
theorem advancing_forM {action : α → Gen PUnit} {items : List α}
    (haction : ∀ item ∈ items, ∀ builder', Advancing graph own (action item) builder') :
    Advancing graph own (items.forM action) builder := by
  induction items generalizing builder with
  | nil => exact advancing_pure _
  | cons item items ih =>
    refine (haction item List.mem_cons_self builder).andThen fun _ _ => ?_
    exact ih fun other hmem => haction other (List.mem_cons_of_mem _ hmem)

/-- A loop that collects results goes ahead if its body does for every item. -/
theorem advancing_mapM {action : α → Gen β} {items : List α}
    (haction : ∀ item builder', Advancing graph own (action item) builder') :
    Advancing graph own (items.mapM action) builder := by
  induction items generalizing builder with
  | nil => exact advancing_pure _
  | cons item items ih =>
    rw [List.mapM_cons]
    exact (haction item builder).andThen fun _ _ => ih.andThen fun _ _ => advancing_pure _

/-- A loop that hands on a state goes ahead if its body does for every state and item. -/
theorem advancing_foldlM {step : β → α → Gen β} {items : List α}
    (hstep : ∀ state item builder', Advancing graph own (step state item) builder') (state : β) :
    Advancing graph own (items.foldlM step state) builder := by
  induction items generalizing builder state with
  | nil => exact advancing_pure _
  | cons item items ih =>
    rw [List.foldlM_cons]
    exact (hstep state item builder).andThen fun state' _ => ih state'

/-- What the first items add is done in the end, and it is what all of them add unless there is a
    fault. -/
theorem forM_prefix {action : α → Gen PUnit} (inv : List α → Builder → Prop)
    (hitem : ∀ done item {builder builder'}, inv done builder →
      action item builder = (.ok ⟨⟩, builder') → inv (done ++ [item]) builder')
    (hfault : ∀ done item {builder fault builder'}, inv done builder →
      action item builder = (.error fault, builder') → inv done builder')
    {items done : List α} {result : Except Fault PUnit}
    (h : items.forM action builder = (result, builder')) (hinv : inv done builder) :
    ∃ more, more <+: items ∧ inv (done ++ more) builder' ∧ (result = .ok ⟨⟩ → more = items) := by
  induction items generalizing builder done with
  | nil =>
    obtain ⟨_, rfl⟩ := Prod.mk.inj h
    exact ⟨[], List.nil_prefix, by rwa [List.append_nil], fun _ => rfl⟩
  | cons item items ih =>
    obtain ⟨answer, builder₁, hanswer⟩ := exists_run (action item) builder
    cases answer with
    | error fault =>
      -- The fault ends the loop, so no further item is done.
      obtain ⟨rfl, rfl⟩ := Prod.mk.inj ((run_bind_error hanswer).symm.trans h)
      exact ⟨[], List.nil_prefix, by rw [List.append_nil]; exact hfault done item hinv hanswer,
        nofun⟩
    | ok _ =>
      obtain ⟨more, hmore, hinv, hall⟩ :=
        ih ((run_bind hanswer).symm.trans h) (hitem done item hinv hanswer)
      refine ⟨item :: more, List.cons_prefix_cons.2 ⟨rfl, hmore⟩, ?_, fun hresult => ?_⟩
      · rwa [List.append_assoc] at hinv
      · rw [hall hresult]

/-! ### Answers -/

/-- A rule that may leave the object open for which it is used, if it meets a fault. -/
structure Opens (graph : ShapeGraph) (id : ShapeId) (gen : Gen NodeId) (builder : Builder) : Prop
    extends Advancing graph [builder.next] gen builder where
  settles : ∀ {node builder'}, gen builder = (.ok node, builder') → builder'.Settled graph id node
  opens : ∀ {other : ShapeId}, builder.nodes[other.index]? = none →
    (gen builder).2.nodes[other.index]? = some builder.next →
    (gen builder).2.Done graph other builder.next ∨
      other = id ∧ (gen builder).2.Begun graph id builder.next ∧ ∃ fault, (gen builder).1 = .error fault

/-- A rule that fills no containers of its own, or has filled them, leaves no object open. -/
theorem Advancing.opens {id : ShapeId} {gen : Gen NodeId} (h : Advancing graph [] gen builder)
    (hsettles : ∀ {node builder'}, gen builder = (.ok node, builder') →
      builder'.Settled graph id node) : Opens graph id gen builder where
  toAdvancing := h.mono (List.nil_subset _)
  settles := hsettles
  opens hnone hnode := by
    rcases h.advances.done hnode with hformer | hmem | hdone
    · cases hnone.symm.trans hformer
    · cases hmem
    · exact .inl hdone

/-- When the answer of a rule is noted, no object is open: it is filled, or its fault is noted. -/
theorem Opens.logged {id : ShapeId} {gen : Gen NodeId} (h : Opens graph id gen builder) :
    Advancing graph [] (logged id gen) builder := by
  obtain ⟨answer, builder', hgen⟩ := exists_run gen builder
  have hlogged : Gen.logged id gen builder =
      (answer, { builder' with visits := builder'.visits.push (id, answer) }) := by
    rw [Gen.logged, hgen]
  have hadvances := h.toAdvancing.of_eq hgen
  have hmore : ∀ visit ∈ builder'.visits, visit ∈ builder'.visits.push (id, answer) :=
    fun _ hmem => Array.mem_push_of_mem _ hmem
  have hknows := builder'.knows_note (builder'.visits.push (id, answer))
  have hopens {other : ShapeId} (hnone : builder.nodes[other.index]? = none)
      (hnode : builder'.nodes[other.index]? = some builder.next) :
      builder'.Done graph other builder.next ∨
        other = id ∧ builder'.Begun graph id builder.next ∧ ∃ fault, answer = .error fault := by
    have hopens := h.opens hnone (by rw [hgen]; exact hnode)
    rwa [hgen] at hopens
  refine ⟨?_, fun heq visit hmem => ?_⟩
  · rw [hlogged]
    refine {
      toKnows := hadvances.toKnows.trans hknows
      arena := ⟨hadvances.arena.size, fun {other node} hnode => ?_⟩
      fresh := hadvances.fresh
      visits := fun visit hmem => hmore visit (hadvances.visits visit hmem)
      settled := fun {other node} hmem => ?_
      done := fun {other node} hnode => ?_ }
    · -- The next node is not there yet.
      rcases hadvances.arena.node hnode with hsame | hbinding | ⟨hmem, _⟩
      · exact .inl hsame
      · exact .inr (.inl hbinding)
      · obtain rfl := List.mem_singleton.1 hmem
        exact absurd (Arena.lt_size_of_node? hnode) (Nat.lt_irrefl _)
    · rcases Array.mem_push.1 hmem with hformer | heq
      · exact (hadvances.settled hformer).imp_right fun hsettled => hsettled.mono hknows
      · cases heq
        exact .inr ((h.settles hgen).mono hknows)
    · have hdone (hdone : builder'.Done graph other node) :
          Builder.Done graph { builder' with visits := builder'.visits.push (id, answer) } other node :=
        hdone.mono .rfl hmore List.not_mem_nil
      rcases hadvances.done hnode with hformer | hmem | hdone'
      · exact .inl hformer
      · obtain rfl := List.mem_singleton.1 hmem
        cases hformer : builder.nodes[other.index]? with
        | some former =>
          exact .inl ((hadvances.nodes hformer).symm.trans hnode)
        | none =>
          -- The rule has just remembered it: it is done, or the fault is noted now.
          obtain hdone' | ⟨rfl, hbegun, fault, rfl⟩ := hopens hformer hnode
          · exact .inr (.inr (hdone hdone'))
          · refine .inr (.inr fun entries hentries => ?_)
            obtain ⟨done, hprefix, hfilled⟩ := hbegun entries hentries
            exact ⟨done, hprefix, hfilled.mono .rfl hmore List.not_mem_nil,
              .inr ⟨fault, Array.mem_push_self⟩⟩
      · exact .inr (.inr (hdone hdone'))
  · rw [hlogged] at heq
    cases heq
    rcases Array.mem_push.1 hmem with hformer | rfl
    · exact h.answered hgen visit hformer
    · exact .inr ⟨_, rfl⟩

end Gen

end Semblance
