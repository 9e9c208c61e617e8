import Semblance.Generate.Builder
import Semblance.Proofs.Syntax.Construction

/-!
# Generations that come to an end

`Gen.Runs gen builder post` says that a generation ends without a fault, with a result and a builder
that fulfil `post`. A builder is sound for the nodes that a rule has in its hands if its arena is
sound for them and for the statements emitted so far, and if the nodes that it remembers can be
shared. Later builders know what earlier ones knew.

## Key results

- `Runs.bind`, `runs_forM`, `runs_mapM`, `runs_foldlM`: generations made from others
- `Sound.made`, `Sound.emitted`, `Sound.remembered`: what the steps of a rule do to a builder
-/

namespace Semblance

/-- A builder knows what another knows, and its arena has grown from that of the other. -/
structure Builder.Grows (builder builder' : Builder) : Prop where
  arena : builder.arena.Grows builder'.arena
  nodes : ∀ {index : Nat}, (builder.nodes[index]?).isSome → (builder'.nodes[index]?).isSome
  patched : ∀ {index : Nat}, builder.patched.contains index = true →
    builder'.patched.contains index = true

/-- A builder whose arena is sound while a rule holds some expressions. -/
structure Builder.Sound (builder : Builder) (held : List NodeId) : Prop where
  arena : builder.arena.Sound (held ++ builder.roots)
  expression : ∀ id ∈ held, builder.arena.IsExpression id
  statement : ∀ id ∈ builder.roots, builder.arena.IsStatement id
  node : ∀ {index : Nat} {node}, builder.nodes[index]? = some node → builder.arena.Shareable node
  inst : ∀ {index : Nat} {node}, builder.instances[index]? = some node →
    builder.arena.Shareable node

/-- A later builder that is sound for what a rule holds then. -/
structure Builder.Becomes (builder builder' : Builder) (held : List NodeId) : Prop where
  grows : builder.Grows builder'
  sound : builder'.Sound held

variable {builder builder' builder'' : Builder} {held held' : List NodeId} {id : NodeId}

namespace Builder

/-- Nothing is forgotten where nothing happens. -/
theorem Grows.rfl : builder.Grows builder :=
  ⟨.rfl, fun h => h, fun h => h⟩

/-- What is known is known for good. -/
theorem Grows.trans (h : builder.Grows builder') (h' : builder'.Grows builder'') :
    builder.Grows builder'' :=
  ⟨h.arena.trans h'.arena, fun hindex => h'.nodes (h.nodes hindex),
    fun hindex => h'.patched (h.patched hindex)⟩

/-- A builder that has grown before has grown all the more. -/
theorem Becomes.after (h : builder.Grows builder') (h' : builder'.Becomes builder'' held) :
    builder.Becomes builder'' held :=
  ⟨h.trans h'.grows, h'.sound⟩

/-! ### Steps of rules -/

namespace Sound

/-- Whatever a rule holds can be put in another order, and dropped. -/
theorem mono (h : builder.Sound held) (hcount : ∀ id, held'.count id ≤ held.count id) :
    builder.Sound held' where
  arena := h.arena.mono fun id => by
    rw [List.count_append, List.count_append]
    exact Nat.add_le_add_right (hcount id) _
  expression id hid := by
    have hpos := List.count_pos_iff.2 hid
    exact h.expression id (List.count_pos_iff.1 (Nat.lt_of_lt_of_le hpos (hcount id)))
  statement := h.statement
  node := h.node
  inst := h.inst

/-- The order in which a rule holds expressions does not matter. -/
theorem perm (h : builder.Sound held) (hperm : held.Perm held') : builder.Sound held' :=
  h.mono fun id => Nat.le_of_eq (hperm.count id).symm

/-- A rule may leave an expression that it holds unused. -/
theorem drop (h : builder.Sound (id :: held)) : builder.Sound held :=
  h.mono fun _ => List.count_le_count_cons

/-- A node that can be shared may be held once more at any time. -/
theorem share (h : builder.Sound held) (hid : builder.arena.Shareable id) :
    builder.Sound (id :: held) where
  arena := h.arena.share hid
  expression other hmem := by
    rcases List.mem_cons.1 hmem with rfl | hmem
    · exact hid.1
    · exact h.expression other hmem
  statement := h.statement
  node := h.node
  inst := h.inst

/-- A change of the arena. -/
theorem changed (h : builder.Sound held) {arena : Arena}
    (hbecomes : builder.arena.Becomes arena (held' ++ builder.roots))
    (hexpression : ∀ id ∈ held', arena.IsExpression id) :
    builder.Becomes { builder with arena } held' := by
  have hgrows := hbecomes.grows
  refine ⟨⟨hgrows, fun h => h, fun h => h⟩, hbecomes.sound, hexpression, ?_, ?_, ?_⟩
  · exact fun other hother => hgrows.isStatement (h.statement other hother)
  · exact fun hnode => hgrows.shareable (h.node hnode)
  · exact fun hnode => hgrows.shareable (h.inst hnode)

/-- A change of the arena after which the rule holds nothing new. -/
theorem consumed (h : builder.Sound held) (hmem : ∀ id ∈ held', id ∈ held) {arena : Arena}
    (hbecomes : builder.arena.Becomes arena (held' ++ builder.roots)) :
    builder.Becomes { builder with arena } held' :=
  h.changed hbecomes fun id hid => hbecomes.grows.isExpression (h.expression id (hmem id hid))

/-- A new expression. -/
theorem made (h : builder.Sound held) (hmem : ∀ id ∈ held', id ∈ held) {result : NodeId × Arena}
    (hmakes : builder.arena.Makes Arena.IsExpression (held' ++ builder.roots) result) :
    builder.Becomes { builder with arena := result.2 } (result.1 :: held') := by
  refine h.changed hmakes.toBecomes fun id hid => ?_
  rcases List.mem_cons.1 hid with rfl | hid
  · exact hmakes.kind
  · exact hmakes.grows.isExpression (h.expression id (hmem id hid))

/-- A new top-level statement, wherever it is put. -/
theorem rooted (h : builder.Sound held) (hmem : ∀ id ∈ held', id ∈ held) {result : NodeId × Arena}
    (hmakes : builder.arena.Makes Arena.IsStatement (held' ++ builder.roots) result)
    (harena : builder'.arena = result.2) (hroots : builder'.roots.Perm (result.1 :: builder.roots))
    (hnodes : builder'.nodes = builder.nodes) (hinstances : builder'.instances = builder.instances)
    (hpatched : builder'.patched = builder.patched) : builder.Becomes builder' held' := by
  have hgrows := hmakes.grows
  rw [← harena] at hgrows
  refine ⟨⟨hgrows, by rw [hnodes]; exact fun h => h, by rw [hpatched]; exact fun h => h⟩,
    ?_, ?_, ?_, ?_, ?_⟩
  · rw [harena]
    have hperm := (hroots.append_left held').trans List.perm_middle
    exact hmakes.sound.perm hperm.symm
  · exact fun id hid => hgrows.isExpression (h.expression id (hmem id hid))
  · -- The new statement, and the former ones.
    intro id hid
    rcases List.mem_cons.1 (hroots.mem_iff.1 hid) with rfl | hid
    · rw [harena]
      exact hmakes.kind
    · exact hgrows.isStatement (h.statement id hid)
  · rw [hnodes]
    exact fun hnode => hgrows.shareable (h.node hnode)
  · rw [hinstances]
    exact fun hnode => hgrows.shareable (h.inst hnode)

/-- A new top-level statement after the others. -/
theorem emitted (h : builder.Sound held) (hmem : ∀ id ∈ held', id ∈ held)
    {result : NodeId × Arena}
    (hmakes : builder.arena.Makes Arena.IsStatement (held' ++ builder.roots) result) :
    builder.Becomes
      { builder with arena := result.2, statements := builder.statements.push result.1 } held' := by
  refine h.rooted hmem hmakes rfl ?_ rfl rfl rfl
  simp [roots, ← List.append_assoc]

/-- A step that leaves the arena, the statements and the remembered nodes alone. -/
theorem kept (h : builder.Sound held) (harena : builder'.arena = builder.arena)
    (hroots : builder'.roots = builder.roots) (hnodes : builder'.nodes = builder.nodes)
    (hinstances : builder'.instances = builder.instances)
    (hpatched : ∀ {index : Nat}, builder.patched.contains index = true →
      builder'.patched.contains index = true) :
    builder.Becomes builder' held := by
  refine ⟨⟨harena ▸ .rfl, by rw [hnodes]; exact fun h => h, hpatched⟩, ?_⟩
  obtain ⟨arena, expression, statement, node, inst⟩ := h
  refine ⟨?_, ?_, ?_, ?_, ?_⟩
  · rwa [harena, hroots]
  · rwa [harena]
  · rwa [harena, hroots]
  · rwa [harena, hnodes]
  · rwa [harena, hinstances]

/-- A node that can be shared is remembered for a shape. -/
theorem remembered (h : builder.Sound held) (hid : builder.arena.Shareable id) (index : Nat) :
    builder.Becomes { builder with nodes := builder.nodes.insert index id } held := by
  refine ⟨⟨.rfl, fun {other} hother => ?_, fun h => h⟩,
    h.arena, h.expression, h.statement, fun {other node} hnode => ?_, h.inst⟩
  · rw [Std.TreeMap.getElem?_insert]
    split
    · rfl
    · exact hother
  · rw [Std.TreeMap.getElem?_insert] at hnode
    split at hnode
    · exact Option.some.inj hnode ▸ hid
    · exact h.node hnode

/-- A node that can be shared is remembered for the instances of a constructor. -/
theorem rememberedInstance (h : builder.Sound held) (hid : builder.arena.Shareable id)
    (index : Nat) :
    builder.Becomes { builder with instances := builder.instances.insert index id } held := by
  refine ⟨⟨.rfl, fun h => h, fun h => h⟩,
    h.arena, h.expression, h.statement, h.node, fun {other node} hnode => ?_⟩
  rw [Std.TreeMap.getElem?_insert] at hnode
  split at hnode
  · exact Option.some.inj hnode ▸ hid
  · exact h.inst hnode

end Sound

end Builder

namespace Gen

/-- A generation ends without a fault. -/
def Runs (gen : Gen α) (builder : Builder) (post : α → Builder → Prop) : Prop :=
  ∃ result builder', gen builder = (.ok result, builder') ∧ post result builder'

/-- A generation ends with a further expression in the hands of the rule. -/
abbrev Yields (gen : Gen NodeId) (builder : Builder) (held : List NodeId) : Prop :=
  Runs gen builder fun node builder' => builder.Becomes builder' (node :: held)

/-- A generation ends with a further expression in the hands of the rule, which can be shared. -/
abbrev YieldsShareable (gen : Gen NodeId) (builder : Builder) (held : List NodeId) : Prop :=
  Runs gen builder fun node builder' =>
    builder.Becomes builder' (node :: held) ∧ builder'.arena.Shareable node

/-- A generation ends with these expressions in the hands of the rule. -/
abbrev Leaves (gen : Gen α) (builder : Builder) (held : List NodeId) : Prop :=
  Runs gen builder fun _ builder' => builder.Becomes builder' held

variable {gen : Gen α} {post : α → Builder → Prop}

/-- What a generation ends with may be weakened. -/
theorem Runs.mono {post' : α → Builder → Prop} (h : Runs gen builder post)
    (hpost : ∀ result builder', post result builder' → post' result builder') :
    Runs gen builder post' := by
  obtain ⟨result, builder', hgen, h⟩ := h
  exact ⟨result, builder', hgen, hpost result builder' h⟩

/-- A generation in two parts ends well if the second part does so after the first. -/
theorem Runs.bind {next : α → Gen β} {post : β → Builder → Prop}
    (h : Runs gen builder fun result builder' => Runs (next result) builder' post) :
    Runs (gen >>= next) builder post := by
  obtain ⟨result, builder', hgen, result', builder'', hnext, h⟩ := h
  refine ⟨result', builder'', ?_, h⟩
  -- The monad runs `next` on the result of `gen`, in the builder that `gen` leaves.
  show ExceptT.bindCont next (gen builder).1 (gen builder).2 = _
  rw [hgen]
  exact hnext

/-- What a rule holds is handed from one generation to the next. -/
theorem Runs.step {next : α → Gen β} {held : α → List NodeId} {held' : β → List NodeId}
    (h : Runs gen builder fun result builder' => builder.Becomes builder' (held result))
    (hnext : ∀ result builder', builder.Grows builder' → builder'.Sound (held result) →
      Runs (next result) builder' fun result' builder'' =>
        builder'.Becomes builder'' (held' result')) :
    Runs (gen >>= next) builder fun result' builder'' =>
      builder.Becomes builder'' (held' result') :=
  .bind (h.mono fun result builder' hbecomes =>
    (hnext result builder' hbecomes.grows hbecomes.sound).mono fun _ _ => .after hbecomes.grows)

/-- The same for a generation that ends with an expression that can be shared. -/
theorem Runs.stepShareable {next : α → Gen NodeId} {held : α → List NodeId} {held' : List NodeId}
    (h : Runs gen builder fun result builder' => builder.Becomes builder' (held result))
    (hnext : ∀ result builder', builder.Grows builder' → builder'.Sound (held result) →
      YieldsShareable (next result) builder' held') :
    YieldsShareable (gen >>= next) builder held' :=
  .bind (h.mono fun result builder' hbecomes =>
    (hnext result builder' hbecomes.grows hbecomes.sound).mono
      fun _ _ ⟨hbecomes', hshareable⟩ => ⟨.after hbecomes.grows hbecomes', hshareable⟩)

/-- A generation that is only there if a condition holds. -/
theorem Runs.when {condition : Prop} [Decidable condition] {gen : Gen PUnit}
    {next : PUnit → Gen β} {after : β → List NodeId} (h : builder.Sound held)
    (hgen : Leaves gen builder held)
    (hnext : ∀ builder', builder.Grows builder' → builder'.Sound held →
      Runs (next ⟨⟩) builder' fun result builder'' => builder'.Becomes builder'' (after result)) :
    Runs (if condition then gen >>= next else next ⟨⟩) builder fun result builder'' =>
      builder.Becomes builder'' (after result) := by
  split
  · exact .step hgen fun _ => hnext
  · exact hnext builder .rfl h

/-- A generation that only answers leaves the builder alone. -/
theorem runs_pure {result : α} (h : post result builder) : Runs (pure result) builder post :=
  ⟨result, builder, rfl, h⟩

/-- Reading the builder leaves it alone. -/
theorem runs_get {post : Builder → Builder → Prop} (h : post builder builder) :
    Runs get builder post :=
  ⟨builder, builder, rfl, h⟩

/-- A change of the builder ends with the changed builder. -/
theorem runs_modify {change : Builder → Builder} {post : PUnit → Builder → Prop}
    (h : post ⟨⟩ (change builder)) : Runs (modify change) builder post :=
  ⟨⟨⟩, change builder, rfl, h⟩

/-- A change of the builder keeps what the rule holds if the changed builder is sound for it. -/
theorem leaves_modify {change : Builder → Builder} (h : builder.Becomes (change builder) held) :
    Leaves (modify change) builder held :=
  runs_modify h

/-- Allocating nodes changes nothing but the arena. -/
theorem runs_onArena {build : StateM Arena α}
    (h : post (build builder.arena).1 { builder with arena := (build builder.arena).2 }) :
    Runs (onArena build) builder post :=
  ⟨_, _, rfl, h⟩

/-- An access that is known to succeed does so. -/
theorem runs_checked {access : Except OutOfRange α} {result : α} (haccess : access = .ok result)
    (h : post result builder) : Runs (checked access) builder post := by
  subst haccess
  exact runs_pure h

/-! ### Lists -/

/-- An invariant of the single steps of a generation over a list holds in the end, and the builder
    has grown. -/
theorem runs_foldlM {step : β → α → Gen β} {items : List α} {state : β}
    {inv : β → Builder → Prop}
    (hstep : ∀ item ∈ items, ∀ state builder', builder.Grows builder' → inv state builder' →
      Runs (step state item) builder' fun state' builder'' =>
        builder'.Grows builder'' ∧ inv state' builder'')
    (h : inv state builder) :
    Runs (items.foldlM step state) builder fun state' builder' =>
      builder.Grows builder' ∧ inv state' builder' := by
  induction items generalizing builder state with
  | nil => exact runs_pure ⟨.rfl, h⟩
  | cons item items ih =>
    -- The steps that are left start from a later builder, where they may count on as much.
    rw [List.foldlM_cons]
    refine .bind ((hstep item List.mem_cons_self state builder .rfl h).mono ?_)
    intro state' builder' ⟨hgrows, h'⟩
    have hrest := ih (fun item hmem state builder'' hgrows' =>
      hstep item (List.mem_cons_of_mem _ hmem) state builder'' (hgrows.trans hgrows')) h'
    exact hrest.mono fun _ _ ⟨hgrows', h''⟩ => ⟨hgrows.trans hgrows', h''⟩

/-- If the rule gets back what it holds after each item, then it has it after all of them. -/
theorem runs_forM {action : α → Gen PUnit} {items : List α}
    (haction : ∀ item ∈ items, ∀ builder', builder.Grows builder' → builder'.Sound held →
      Leaves (action item) builder' held)
    (h : builder.Sound held) : Leaves (items.forM action) builder held := by
  induction items generalizing builder with
  | nil => exact runs_pure ⟨.rfl, h⟩
  | cons item items ih =>
    refine .step (haction item List.mem_cons_self builder .rfl h) fun _ builder' hgrows h' => ?_
    exact ih (fun item hmem builder'' hgrows' =>
      haction item (List.mem_cons_of_mem _ hmem) builder'' (hgrows.trans hgrows')) h'

/-- The results of a list of generations are held together. -/
theorem runs_mapM {action : α → Gen NodeId} {items : List α}
    (haction : ∀ item ∈ items, ∀ held builder', builder.Grows builder' → builder'.Sound held →
      Yields (action item) builder' held)
    (h : builder.Sound held) :
    Runs (items.mapM action) builder fun nodes builder' =>
      builder.Becomes builder' (nodes ++ held) := by
  induction items generalizing builder held with
  | nil => exact runs_pure ⟨.rfl, h⟩
  | cons item items ih =>
    rw [List.mapM_cons]
    refine .step (haction item List.mem_cons_self held builder .rfl h) ?_
    intro node builder' hgrows h'
    have hrest := ih (fun item hmem held builder'' hgrows' =>
      haction item (List.mem_cons_of_mem _ hmem) held builder'' (hgrows.trans hgrows')) h'
    refine .step hrest fun nodes builder'' hgrows' h'' => runs_pure ⟨.rfl, ?_⟩
    exact h''.perm (List.perm_middle : (nodes ++ node :: held).Perm (node :: nodes ++ held))

/-! ### Operations -/

/-- The note of an answer is no matter to what a rule holds. -/
theorem yields_logged (shape : ShapeId) {gen : Gen NodeId} (h : Yields gen builder held) :
    Yields (logged shape gen) builder held := by
  obtain ⟨node, builder', hgen, hbecomes⟩ := h
  have hnoted : builder'.Becomes
      { builder' with visits := builder'.visits.push (shape, .ok node) } (node :: held) :=
    hbecomes.sound.kept rfl rfl rfl rfl id
  refine ⟨node, _, ?_, .after hbecomes.grows hnoted⟩
  rw [logged, hgen]

/-- Whether a shape was generated before can be read off the builder. -/
theorem runs_known? {shape : ShapeId} {post : Option NodeId → Builder → Prop}
    (h : post builder.nodes[shape.index]? builder) : Runs (known? shape) builder post :=
  .bind (runs_get (runs_pure h))

/-- A name is drawn for every hint that is not empty. -/
theorem runs_freshName {hint : String} {post : String → Builder → Prop} (hhint : hint ≠ "")
    (h : ∀ name names, post name { builder with names }) :
    Runs (freshName hint) builder post := by
  refine .bind (runs_get ?_)
  split
  · next name names _ => exact .bind (runs_modify (runs_pure (h name names)))
  · next hfresh =>
    -- There is no name for an empty hint only.
    rw [NameSupply.fresh?_eq_none_iff] at hfresh
    simp [hhint] at hfresh

/-- A new expression without children among what the rule holds. -/
theorem runs_leaf {build : StateM Arena NodeId} (h : builder.Sound held)
    (hmakes : ∀ {arena used}, Arena.Sound arena used →
      arena.Makes Arena.IsExpression used (build arena)) :
    Yields (onArena build) builder held :=
  runs_onArena (h.made (fun _ hid => hid) (hmakes h.arena))

/-- A reference by name is a new expression. -/
theorem runs_ident (h : builder.Sound held) (name : String) :
    Yields (onArena (Arena.ident name)) builder held :=
  runs_leaf h fun h => Arena.makes_ident h name

/-- A member access takes its owner out of what the rule holds. -/
theorem runs_member {owner : NodeId} (h : builder.Sound (owner :: held)) (name : String) :
    Yields (onArena (Arena.member owner name)) builder held :=
  runs_onArena (h.made (fun _ => List.mem_cons_of_mem _)
    (Arena.makes_member h.arena (h.expression owner List.mem_cons_self) name))

/-- A new expression that can be shared takes its children out of what the rule holds. -/
theorem runs_hinted {node : Node} (h : builder.Sound (node.childIds ++ held))
    (hexpression : node.isExpression = true) {hint : String} (hhint : hint ≠ "") :
    YieldsShareable (onArena (Arena.pushHinted node hint)) builder held := by
  have harena := h.arena
  rw [List.append_assoc] at harena
  have hmakes := Arena.makes_hinted harena hexpression (fun child hmem =>
    (h.expression child (List.mem_append_left _ hmem)).standalone) hhint
  refine runs_onArena ⟨h.changed hmakes.toBecomes fun id hid => ?_, hmakes.kind⟩
  rcases List.mem_cons.1 hid with rfl | hid
  · exact hmakes.kind.1
  · exact hmakes.grows.isExpression (h.expression id (List.mem_append_right _ hid))

/-- A new expression is remembered for a shape before the rule goes on. -/
theorem Runs.remembered {build : StateM Arena NodeId} {shape : ShapeId} {next : NodeId → Gen NodeId}
    (h : builder.Sound held)
    (hmakes : builder.arena.Makes Arena.Shareable (held ++ builder.roots) (build builder.arena))
    (hnext : ∀ made builder', builder.Grows builder' →
      (builder'.nodes[shape.index]?).isSome → builder'.Sound held →
      builder'.arena.Shareable made → Yields (next made) builder' held) :
    Yields (do let made ← onArena build; remember shape made; next made) builder held := by
  have hmade := h.consumed (fun _ hid => hid) (hmakes.toBecomes.drop)
  have hremembered := hmade.sound.remembered hmakes.kind shape.index
  have hgrows := hmade.grows.trans hremembered.grows
  refine .bind (runs_onArena (.bind (runs_modify ?_)))
  exact (hnext _ _ hgrows (by simp) hremembered.sound hmakes.kind).mono fun _ _ => .after hgrows

/-- What a rule keeps when it gives up two expressions was there before. -/
theorem mem_of_mem_pair {target value id : NodeId} (h : id ∈ held) :
    id ∈ target :: value :: held :=
  List.mem_cons_of_mem _ (List.mem_cons_of_mem _ h)

/-- The statement of an assignment takes both sides out of what the rule holds. -/
theorem makes_assignment {target value : NodeId} (h : builder.Sound (target :: value :: held)) :
    builder.arena.Makes Arena.IsStatement (held ++ builder.roots)
      (Arena.assignStmt target value builder.arena) :=
  Arena.makes_assignStmt h.arena (h.expression target List.mem_cons_self)
    (h.expression value (List.mem_cons_of_mem _ List.mem_cons_self))

/-- An assignment that is emitted takes both sides out of what the rule holds. -/
theorem runs_emitAssign {target value : NodeId} (h : builder.Sound (target :: value :: held)) :
    Leaves (emitAssign target value) builder held :=
  .bind (runs_onArena (runs_modify
    (h.emitted (fun _ => mem_of_mem_pair) (makes_assignment h))))

/-- A statement that is built and emitted before the rule goes on. -/
theorem Runs.emitted {build : StateM Arena NodeId} {next : NodeId → Gen β}
    {after : β → List NodeId} (h : builder.Sound held) (hmem : ∀ id ∈ held', id ∈ held)
    (hmakes : builder.arena.Makes Arena.IsStatement (held' ++ builder.roots) (build builder.arena))
    (hnext : ∀ stmt builder', builder.Grows builder' → builder'.Sound held' →
      Runs (next stmt) builder' fun result builder'' =>
        builder'.Becomes builder'' (after result)) :
    Runs (do let stmt ← onArena build; emit stmt; next stmt) builder fun result builder' =>
      builder.Becomes builder' (after result) := by
  have hemitted := h.emitted hmem hmakes
  refine .bind (runs_onArena (.bind (runs_modify ?_)))
  exact (hnext _ _ hemitted.grows hemitted.sound).mono fun _ _ => .after hemitted.grows

/-- An assignment that is appended to a block uses both of its sides up. -/
theorem runs_assignIn (block : NodeId) {target value : NodeId}
    (h : builder.Sound (target :: value :: held)) :
    Leaves (assignIn block target value) builder held := by
  have hmakes := makes_assignment h
  have happend := hmakes.sound.appendStmt hmakes.kind block
  exact runs_onArena (h.consumed (fun _ => mem_of_mem_pair)
    ⟨hmakes.grows.trans happend.grows, happend.sound⟩)

end Gen

end Semblance
