import Semblance.Proofs.Generate.References

/-!
# What the rules of generation add

Each rule goes ahead if its visits do, and when its answer is noted it leaves no object open. The
containers that a rule fills are its own: it makes them, and fills them between visits, which leave
them alone.

## Key results

- `opens_object`: an object has the entries that came before a fault
- `opens_rule`: what a rule adds if its visits go ahead
- `visits_nodeWithin`: so do all requests for shapes
-/

namespace Semblance

namespace Gen

variable {settings : Settings} {graph : ShapeGraph} {builder builder' : Builder} {visit : Visit}
  {id : ShapeId} {own : List NodeId}

/-! ### Aggregates -/

/-- An entry is put into an object that is being filled, after a request for its value. -/
theorem advancing_addEntry (hvisit : Visits graph visit) {object : NodeId} (hown : object ∈ own)
    (kind : EntryKind) (binding : String × ShapeId) :
    Advancing graph own (addEntry visit object kind binding) builder :=
  (hvisit.within _ builder).andThen fun _ _ =>
    advancing_onArena ((Arena.spares_push _ _).trans (Arena.spares_appendEntry hown _))

/-- What is asked for is entered behind the entries that are there. -/
theorem filled_addEntry (hvisit : Visits graph visit) {object : NodeId} {kind : EntryKind}
    {binding : String × ShapeId} {entries : List (EntryKind × String × ShapeId)}
    (hfilled : builder.Filled object entries)
    (h : addEntry visit object kind binding builder = (.ok ⟨⟩, builder')) :
    builder'.Filled object (entries ++ [(kind, binding)]) := by
  obtain ⟨value, builder₁, hvalue, h⟩ := run_bind_eq_ok h
  have hvisited := (hvisit.advancing _ _).of_eq hvalue
  obtain ⟨ids, hnode, hentries⟩ :=
    hfilled.mono hvisited.arena hvisited.visits List.not_mem_nil
  have hnoted := hvisit.noted hvalue
  -- The visit leaves the object alone; then the entry is made, and put behind the others.
  obtain ⟨entry, hentry⟩ : ∃ entry : Node, entry = .entry
      (if isIdentifier binding.1 then .bare binding.1 else .quoted binding.1) value kind := ⟨_, rfl⟩
  have hpushed : builder₁.arena.Spares [object] (Arena.push entry builder₁.arena).2 :=
    Arena.spares_push entry builder₁.arena
  obtain ⟨arena, harena⟩ : ∃ arena, arena = (Arena.push entry builder₁.arena).2.appendEntry object
      (Arena.push entry builder₁.arena).1 := ⟨_, rfl⟩
  obtain rfl : builder' = { builder₁ with arena } := by
    rw [harena, hentry]
    exact (onArena_eq_ok h).2
  have happended : (Arena.push entry builder₁.arena).2.Spares [object] arena := by
    rw [harena]
    exact Arena.spares_appendEntry (List.mem_singleton.2 rfl) _
  have hnew : arena.node? (Arena.push entry builder₁.arena).1 = some entry :=
    happended.node?_eq (Arena.node?_push_self entry builder₁.arena) (by rw [hentry]; rfl)
      (.inr (by rw [hentry]; rfl))
  refine ⟨ids.push (Arena.push entry builder₁.arena).1, ?_, ?_⟩
  · show arena.node? object = _
    rw [harena, Arena.appendEntry, Arena.node?_modifyNode, if_pos rfl,
      Arena.node?_push_of_node? hnode entry]
    rfl
  · rw [Array.toList_push]
    refine List.rel_append (hentries.imp fun _ _ hentry =>
      hentry.mono (hpushed.trans happended) fun _ hmem => hmem) ?_
    exact .cons ⟨value, hnoted, by rw [← hentry]; exact hnew⟩ .nil

/-- An object keeps the entries that are there if the next one meets a fault. -/
theorem filled_addEntry_error (hvisit : Visits graph visit) {object : NodeId} {kind : EntryKind}
    {binding : String × ShapeId} {entries : List (EntryKind × String × ShapeId)} {fault : Fault}
    (hfilled : builder.Filled object entries)
    (h : addEntry visit object kind binding builder = (.error fault, builder')) :
    builder'.Filled object entries := by
  obtain ⟨answer, builder₁, hanswer⟩ := exists_run (visit binding.2) builder
  cases answer with
  | ok value => exact nomatch congrArg Prod.fst ((run_bind hanswer).symm.trans h)
  | error fault' =>
    obtain ⟨_, rfl⟩ := Prod.mk.inj ((run_bind_error hanswer).symm.trans h)
    have hvisited := (hvisit.advancing _ _).of_eq hanswer
    exact hfilled.mono hvisited.arena hvisited.visits List.not_mem_nil

/-- A rule may look something up first. -/
theorem Opens.checked {access : Except OutOfRange α} {next : α → Gen NodeId}
    (h : ∀ result, Opens graph id (next result) builder) :
    Opens graph id (checked access >>= next) builder := by
  cases access with
  | ok result => exact h result
  | error failed =>
    exact (advancing_throw (.outOfRange failed)).opens fun heq => nomatch congrArg Prod.fst heq

/-- A rule may see first whether the shape is remembered. -/
theorem Opens.ofKnown {next : Option NodeId → Gen NodeId}
    (h : Opens graph id (next builder.nodes[id.index]?) builder) :
    Opens graph id (known? id >>= next) builder :=
  ⟨⟨h.advances, h.answered⟩, h.settles, h.opens⟩

/-- A rule that makes a node, remembers it for the shape and goes on to fill it. -/
theorem opens_made {made : Node} {hint : String} {next : NodeId → Gen NodeId} {shape : Shape}
    (hid : graph.shape? id = some shape) (hkind : shape.isRemembered = true)
    (hnew : builder.nodes[id.index]? = none)
    (hnext : ∀ builder', builder'.arena.node? builder.next = some made →
      Advancing graph [builder.next] (next builder.next) builder')
    (hanswer : ∀ {builder' answer builder''}, builder'.arena.node? builder.next = some made →
      next builder.next builder' = (answer, builder'') → builder''.Begun graph id builder.next ∧
        ∀ node, answer = .ok node → node = builder.next ∧ builder''.Done graph id node) :
    Opens graph id (do
      let node ← onArena (Arena.pushHinted made hint)
      remember id node
      next node) builder := by
  obtain ⟨builder₂, hbuilder₂⟩ : ∃ builder₂ : Builder, builder₂ = { builder with
      arena := (Arena.pushHinted made hint builder.arena).2
      nodes := builder.nodes.insert id.index builder.next } := ⟨_, rfl⟩
  have hrun : (do
      let node ← onArena (Arena.pushHinted made hint)
      remember id node
      next node) builder = next builder.next builder₂ := by
    rw [hbuilder₂]
    exact (run_bind rfl).trans (run_bind rfl)
  have hmade : builder₂.arena.node? builder.next = some made := by
    rw [hbuilder₂]
    exact Arena.node?_push_self made builder.arena
  have hsize : builder₂.arena.size = builder.arena.size + 1 := by
    rw [hbuilder₂]
    exact Arena.size_push made builder.arena
  have hremembered : builder₂.nodes = builder.nodes.insert id.index builder.next := by
    rw [hbuilder₂]
  have hadvances : builder.Advances graph [builder.next] builder₂ := by
    rw [hbuilder₂]
    exact (Builder.advances_arena (Arena.spares_pushHinted made hint builder.arena)).remember hid
      hkind hnew (Nat.le_refl _) (.inl (List.mem_singleton.2 rfl))
  have hrest := hnext builder₂ hmade
  refine ⟨⟨?_, fun heq visit hmem => ?_⟩, fun {node builder'} heq => ?_, fun {other} hnone hnode => ?_⟩
  · rw [hrun]
    exact hadvances.trans hrest.advances
  · have hvisits : builder₂.visits = builder.visits := by rw [hbuilder₂]
    exact hvisits ▸ hrest.answered (hrun.symm.trans heq) visit hmem
  · have heq := hrun.symm.trans heq
    obtain ⟨rfl, _⟩ := (hanswer hmade heq).2 node rfl
    exact .node ((hrest.of_eq heq).nodes (by rw [hremembered, Std.TreeMap.getElem?_insert_self]))
  · rw [hrun] at hnode ⊢
    -- Later nodes are further on, so it is this shape that the node is remembered for.
    have hother : other = id := by
      rcases hrest.advances.fresh hnode with hformer | ⟨hlater, _⟩
      · rw [hremembered, Std.TreeMap.getElem?_insert] at hformer
        split at hformer
        · next heq => exact congrArg ShapeId.mk (Std.LawfulEqCmp.eq_of_compare heq).symm
        · cases hnone.symm.trans hformer
      · rw [hsize] at hlater
        exact absurd hlater (Nat.not_succ_le_self _)
    subst hother
    obtain ⟨answer, builder', heq⟩ := exists_run (next builder.next) builder₂
    rw [heq]
    obtain ⟨hbegun, hdone⟩ := hanswer hmade heq
    cases answer with
    | error fault => exact .inr ⟨rfl, hbegun, fault, rfl⟩
    | ok node =>
      obtain ⟨rfl, hdone⟩ := hdone node rfl
      exact .inl hdone

/-- The entries of an object are added one by one. -/
theorem object_eq (entries : Aggregate) :
    object graph visit id entries = (do
      let label ← checked (graph.label id)
      let node ← onArena (Arena.pushHinted (.object #[]) ("obj_" ++ toString label))
      remember id node
      entries.entryList.forM fun entry => addEntry visit node entry.1 entry.2
      return node) := by
  simp [object, Aggregate.entryList, List.forM_append, List.forM_map]

/-- An object is filled entry by entry, and other shapes are rebuilt by the same rule. -/
theorem opens_object (hvisit : Visits graph visit) {shape : Shape} {entries : Aggregate}
    (hid : graph.shape? id = some shape) (hkind : shape.isRemembered = true)
    (hentries : ∀ other, shape = .object other → other = entries)
    (hnew : builder.nodes[id.index]? = none) :
    Opens graph id (object graph visit id entries) builder := by
  have hadd (builder' : Builder) : Advancing graph [builder.next] (entries.entryList.forM fun entry =>
      addEntry visit builder.next entry.1 entry.2) builder' :=
    advancing_forM fun entry _ _ =>
      advancing_addEntry hvisit (List.mem_singleton.2 rfl) entry.1 entry.2
  rw [object_eq]
  refine .checked fun label => opens_made hid hkind hnew
    (fun builder' _ => (hadd builder').andThen fun _ _ => advancing_pure _)
    fun {builder' answer builder''} hmade h => ?_
  obtain ⟨added, builder₁, hadded⟩ := exists_run (entries.entryList.forM fun entry =>
    addEntry visit builder.next entry.1 entry.2) builder'
  -- The object is filled with what was added, up to a fault if there is one.
  obtain ⟨done, hprefix, hfilled, hall⟩ := forM_prefix (fun done builder' =>
      builder'.Filled builder.next done)
    (fun done entry {_ _} hfilled h => filled_addEntry hvisit hfilled h)
    (fun done entry {_ _ _} hfilled h => filled_addEntry_error hvisit hfilled h)
    hadded ⟨#[], hmade, .nil⟩
  have hother {other : Aggregate} (hother : graph.shape? id = some (.object other)) :
      other = entries := hentries other (Option.some.inj (hid.symm.trans hother))
  cases added with
  | error fault =>
    obtain ⟨rfl, rfl⟩ := Prod.mk.inj ((run_bind_error hadded).symm.trans h)
    exact ⟨fun other heq => hother heq ▸ ⟨done, hprefix, hfilled⟩, nofun⟩
  | ok _ =>
    obtain ⟨rfl, rfl⟩ := Prod.mk.inj ((run_bind hadded).symm.trans h)
    refine ⟨fun other heq => hother heq ▸ ⟨done, hprefix, hfilled⟩, fun node hnode => ?_⟩
    obtain rfl := Except.ok.inj hnode
    exact ⟨rfl, fun other heq => hother heq ▸ ⟨done, hprefix, hfilled, .inl (hall rfl)⟩⟩

/-- A node of a shape other than an object is not left open. -/
theorem done_of_ne_object {shape : Shape} {node : NodeId} (hid : graph.shape? id = some shape)
    (hshape : ∀ entries, shape ≠ .object entries) : builder.Done graph id node :=
  fun entries hentries => absurd (Option.some.inj (hid.symm.trans hentries)) (hshape entries)

/-- An array literal is remembered before its elements are asked for. -/
theorem opens_denseArray (hvisit : Visits graph visit) {shape : Shape}
    (hid : graph.shape? id = some shape) (hkind : shape.isRemembered = true)
    (hshape : ∀ entries, shape ≠ .object entries) (hnew : builder.nodes[id.index]? = none)
    (elements : List (Nat × ShapeId)) :
    Opens graph id (denseArray graph visit id elements) builder := by
  refine .checked fun label => opens_made hid hkind hnew (fun builder' hmade => ?_)
    fun {builder' answer builder''} _ h => ⟨(done_of_ne_object hid hshape).begun, ?_⟩
  · -- The visits leave the array alone, so it is still there when it is filled.
    have hslots (slots : Array (Option NodeId)) : Advancing graph [] (elements.foldlM
        (fun slots element => do
          let value ← visit element.2
          return slots.setIfInBounds element.1 (some value)) slots) builder' :=
      advancing_foldlM (fun _ element _ => (hvisit.within element.2 _).andThen fun _ _ =>
        advancing_pure _) slots
    refine ((hslots _).mono (List.nil_subset _)).bind fun slots builder'' heq _ => ?_
    have harray := ((hslots _).of_eq heq).arena.node?_eq hmade rfl (.inl List.not_mem_nil)
    refine (advancing_onArena ?_).andThen fun _ _ => advancing_pure _
    refine Arena.spares_modifyNode fun former hformer => .inr (.inr ⟨List.mem_singleton.2 rfl, ?_⟩)
    rw [← Option.some.inj (harray.symm.trans hformer)]
    rfl
  · rintro node rfl
    obtain ⟨slots, builder₁, _, h⟩ := run_bind_eq_ok h
    obtain ⟨_, builder₂, _, h⟩ := run_bind_eq_ok h
    obtain ⟨rfl, rfl⟩ := pure_eq_ok h
    exact ⟨rfl, done_of_ne_object hid hshape⟩

/-- An array is written as an array literal or as an object, and both are remembered first. -/
theorem opens_array (hvisit : Visits graph visit) {entries : Aggregate} {degraded : Bool}
    (hid : graph.shape? id = some (.array entries degraded))
    (hnew : builder.nodes[id.index]? = none) :
    Opens graph id (array graph visit id entries degraded) builder := by
  unfold array
  split
  · exact opens_object hvisit hid rfl nofun hnew
  · split
    · exact opens_denseArray hvisit hid rfl nofun hnew _
    · exact opens_object hvisit hid rfl nofun hnew

/-- A chain of alternatives is new if it has two at least. -/
theorem le_foldlM_or {size : Nat} {operands : List NodeId} {node : NodeId} {arena : Arena}
    (hsize : size ≤ arena.size) (hnode : operands ≠ [] ∨ size ≤ node.index) :
    size ≤ (operands.foldlM Arena.or node arena).1.index := by
  induction operands generalizing node arena with
  | nil => exact hnode.resolve_left (fun hne => hne rfl)
  | cons operand operands ih =>
    refine ih ?_ (.inr hsize)
    show size ≤ (Arena.push (.or node operand) arena).2.size
    rw [Arena.size_push]
    exact Nat.le_succ_of_le hsize

/-- The members of a union are joined and remembered, unless one of them has done so. -/
theorem advancing_joined {members : List ShapeId} (hid : graph.shape? id = some (.union members))
    (hkind : (Shape.union members).isRemembered = true) {head : NodeId} {operands : List NodeId}
    (hoperands : operands ≠ []) :
    Advancing graph own (do
      match ← known? id with
      | some node => return node
      | none =>
        let node ← onArena (operands.foldlM Arena.or head)
        onArena (modify fun arena => arena.setHint node ("union_" ++ toString id.index))
        remember id node
        return node) builder := by
  refine (advancing_known? id).bind fun known builder₁ hknown _ => ?_
  obtain ⟨rfl, rfl⟩ := known?_eq_ok hknown
  split
  · exact advancing_pure _
  · next hnone =>
    have hbuild : Advancing graph own (do
        let node ← onArena (operands.foldlM Arena.or head)
        onArena (modify fun arena => arena.setHint node ("union_" ++ toString id.index))
        return node) builder₁ :=
      (advancing_allocation (Arena.allocates_foldlM (fun _ _ => Arena.allocates_push rfl)
        operands head)).andThen fun _ _ =>
          (advancing_onArena (Arena.spares_of_nodes_eq rfl)).andThen fun _ _ => advancing_pure _
    -- Joining remembers nothing, so the union is still not remembered when it is joined.
    have hremembered := hbuild.remembered id (fun node builder₂ heq => ?_)
      fun node _ => advancing_pure node
    · simpa only [bind_assoc, pure_bind] using hremembered
    · refine (hbuild.of_eq heq).remember hid hkind ?_ ?_ (.inr nofun)
      · obtain ⟨made, builder₃, hjoined, h⟩ := run_bind_eq_ok heq
        obtain ⟨_, rfl⟩ := onArena_eq_ok hjoined
        obtain ⟨_, builder₄, hhint, h⟩ := run_bind_eq_ok h
        obtain ⟨_, rfl⟩ := onArena_eq_ok hhint
        obtain ⟨_, rfl⟩ := pure_eq_ok h
        exact hnone
      · obtain ⟨made, builder₃, hjoined, h⟩ := run_bind_eq_ok heq
        obtain ⟨rfl, _⟩ := onArena_eq_ok hjoined
        obtain ⟨_, builder₄, _, h⟩ := run_bind_eq_ok h
        obtain ⟨rfl, _⟩ := pure_eq_ok h
        exact le_foldlM_or (Nat.le_refl _) (.inl hoperands)

/-- A union is remembered when all members are there, unless a member did so on the way. -/
theorem opens_union (hvisit : Visits graph visit) {members : List ShapeId}
    (hid : graph.shape? id = some (.union members)) :
    Opens graph id (union visit id members) builder := by
  match members with
  | [] => exact (advancing_allocation Arena.allocates_undefined).opens fun _ => .empty _ hid
  | [only] =>
    exact (hvisit.advancing only builder).opens fun h => .member hid (hvisit.settles h)
  | first :: second :: rest =>
    refine Advancing.opens ?_ fun {node builder'} h => .node ?_
    · refine (hvisit.advancing first builder).andThen fun head _ => ?_
      rw [List.mapM_cons]
      simp only [bind_assoc, pure_bind]
      refine (hvisit.advancing second _).andThen fun operand _ => ?_
      refine (advancing_mapM hvisit.advancing).andThen fun operands _ => ?_
      exact advancing_joined hid rfl (List.cons_ne_nil operand operands)
    · -- The chain is remembered in the end, unless one of the members has led to it.
      obtain ⟨head, builder₁, _, h⟩ := run_bind_eq_ok h
      obtain ⟨operands, builder₂, _, h⟩ := run_bind_eq_ok h
      obtain ⟨known, builder₃, hknown, h⟩ := run_bind_eq_ok h
      obtain ⟨rfl, rfl⟩ := known?_eq_ok hknown
      cases hnode : builder₃.nodes[id.index]? with
      | some former =>
        rw [hnode] at h
        obtain ⟨rfl, rfl⟩ := pure_eq_ok h
        exact hnode
      | none =>
        rw [hnode] at h
        obtain ⟨made, builder₄, _, h⟩ := run_bind_eq_ok h
        obtain ⟨_, builder₅, _, h⟩ := run_bind_eq_ok h
        obtain ⟨_, builder₆, hremember, h⟩ := run_bind_eq_ok h
        obtain ⟨_, rfl⟩ := Prod.mk.inj hremember
        obtain ⟨rfl, rfl⟩ := pure_eq_ok h
        exact Std.TreeMap.getElem?_insert_self

/-! ### Functions -/

/-- A copy is put into a body that is being filled, after a request for the placeholder. -/
theorem advancing_copyParam (hvisit : Visits graph visit) {body : NodeId} (hown : body ∈ own)
    (used : Nat × ShapeId) : Advancing graph own (copyParam visit id body used) builder :=
  (hvisit.within used.2 builder).andThen fun target _ => (advancing_leaf _).andThen fun source _ =>
    advancing_assignIn hown target source

/-- A property of a function value is written at the top level, after a request for its value. -/
theorem advancing_writeStatic (hvisit : Visits graph visit) (node : NodeId)
    (binding : String × ShapeId) :
    Advancing graph own (writeStatic settings graph visit node binding) builder := by
  unfold writeStatic
  split
  · exact advancing_pure _
  · exact (hvisit.within _ builder).andThen fun value _ =>
      (advancing_allocation (Arena.allocates_member node _)).andThen fun target _ =>
        advancing_emitAssign target value

/-- A property of an instance is written in the body, after a request for its value. -/
theorem advancing_writeToReceiver (hvisit : Visits graph visit) {body : NodeId}
    (hown : body ∈ own) (binding : String × ShapeId) :
    Advancing graph own (writeToReceiver visit id body binding) builder :=
  (hvisit.within _ builder).andThen fun value _ => (advancing_leaf _).andThen fun receiver _ =>
    (advancing_allocation (Arena.allocates_member receiver _)).andThen fun target _ =>
      advancing_assignIn hown target value

/-- A body is filled part by part. -/
theorem advancing_fillFunction (hvisit : Visits graph visit) (fn : FunctionShape) (node : NodeId)
    {body : NodeId} (hown : body ∈ own) :
    Advancing graph own (fillFunction settings graph visit id fn node body) builder := by
  have hreturn (builder : Builder) : Advancing graph own (do
      unless ← checked (graph.isAbsent fn.returns) do
        let value ← visit fn.returns
        onArena do
          let stmt ← Arena.ret value
          modify fun arena => arena.appendStmt body stmt) builder := by
    refine (advancing_checked _).andThen fun absent _ => ?_
    split
    · exact advancing_pure _
    · exact (hvisit.within fn.returns _).andThen fun value _ =>
        advancing_onArena ((Arena.spares_push _ _).trans (Arena.spares_appendStmt hown _))
  -- What comes after the copies is the same for accessors, which have none.
  have hrest (builder : Builder) : Advancing graph own (do
      fn.properties.toList.forM (writeStatic settings graph visit node)
      (instanceProperties graph fn).toList.forM (writeToReceiver visit id body)
      unless ← checked (graph.isAbsent fn.returns) do
        let value ← visit fn.returns
        onArena do
          let stmt ← Arena.ret value
          modify fun arena => arena.appendStmt body stmt) builder :=
    (advancing_forM fun binding _ _ => advancing_writeStatic hvisit node binding).andThen fun _ _ =>
      (advancing_forM fun binding _ _ => advancing_writeToReceiver hvisit hown binding).andThen
        fun _ _ => hreturn _
  unfold fillFunction
  split
  · exact (advancing_forM fun used _ _ => advancing_copyParam hvisit hown used).andThen
      fun _ _ => hrest _
  · exact hrest _

/-- The body is made before the function, and the function remembered before its body is filled. -/
theorem opens_function (hvisit : Visits graph visit) {fn : FunctionShape}
    (hid : graph.shape? id = some (.function fn)) (hnew : builder.nodes[id.index]? = none) :
    Opens graph id (function settings graph visit id fn) builder := by
  refine .checked fun label => ?_
  obtain ⟨builder₁, hbuilder₁⟩ : ∃ builder₁ : Builder, builder₁ = { builder with
      arena := (Arena.push (.block #[]) builder.arena).2 } := ⟨_, rfl⟩
  have hbody : onArena (Arena.push (.block #[])) builder = (.ok builder.next, builder₁) := by
    rw [hbuilder₁]
    rfl
  have hpushed : Advancing graph [builder.next] (onArena (Arena.push (.block #[]))) builder :=
    advancing_push _
  have hfill (node : NodeId) (builder' : Builder) : Advancing graph [builder.next]
      (fillFunction settings graph visit id fn node builder.next) builder' :=
    advancing_fillFunction hvisit fn node (List.mem_singleton.2 rfl)
  -- From here on the body is there, and it is the one container to be filled.
  have hnew : builder₁.nodes[id.index]? = none := by rw [hbuilder₁, hnew]
  have hrest : Advancing graph [builder.next] (do
      let node ← onArena (Arena.pushHinted (.function fn.formals builder.next)
        ("function_" ++ toString label))
      remember id node
      fillFunction settings graph visit id fn node builder.next
      return node) builder₁ := by
    have hmade := (advancing_hinted (.function fn.formals builder.next)
      ("function_" ++ toString label) : Advancing graph [builder.next] _ builder₁)
    refine hmade.remembered id (fun node builder₂ heq => ?_)
      fun node _ => (hfill node _).andThen fun _ _ => advancing_pure node
    refine (hmade.of_eq heq).remember hid rfl ?_ ((answersNew_hinted _ _).size_le heq) (.inr nofun)
    obtain ⟨_, rfl⟩ := onArena_eq_ok heq
    exact hnew
  refine ⟨hpushed.bind fun body builder' heq _ => ?_, fun {node builder'} h => ?_,
    fun {other} hnone hnode => ?_⟩
  · obtain ⟨hanswer, rfl⟩ := Prod.mk.inj (hbody.symm.trans heq)
    exact Except.ok.inj hanswer ▸ hrest
  · rw [run_bind hbody] at h
    obtain ⟨made, builder₂, _, h⟩ := run_bind_eq_ok h
    obtain ⟨_, builder₃, hremember, h⟩ := run_bind_eq_ok h
    obtain ⟨_, rfl⟩ := Prod.mk.inj hremember
    obtain ⟨_, builder₄, hfilled, h⟩ := run_bind_eq_ok h
    obtain ⟨rfl, rfl⟩ := pure_eq_ok h
    exact .node (((hfill _ _).of_eq hfilled).nodes Std.TreeMap.getElem?_insert_self)
  · -- What is remembered comes after the body.
    rw [run_bind hbody] at hnode
    rcases hrest.advances.fresh hnode with hformer | ⟨hlater, _⟩
    · rw [hbuilder₁] at hformer
      cases hnone.symm.trans hformer
    · rw [hbuilder₁] at hlater
      rw [Arena.size_push] at hlater
      exact absurd hlater (Nat.not_succ_le_self _)

/-- The hint for an instance is computed, and nothing else. -/
theorem advancing_instanceHint (constructor : ShapeId) :
    Advancing graph own (instanceHint graph constructor) builder := by
  refine (advancing_checked _).andThen fun shape _ => ?_
  split
  · exact advancing_pure _
  · exact (advancing_checked _).andThen fun _ _ => advancing_pure _

/-- The builder is left as it is. -/
theorem instances_instanceHint {constructor : ShapeId} {result : String}
    (h : instanceHint graph constructor builder = (.ok result, builder')) : builder' = builder := by
  obtain ⟨shape, builder₁, hshape, hrest⟩ := run_bind_eq_ok h
  obtain ⟨_, rfl⟩ := checked_eq_ok hshape
  split at hrest
  · exact (pure_eq_ok hrest).2
  · obtain ⟨label, builder₂, hlabel, hresult⟩ := run_bind_eq_ok hrest
    obtain ⟨_, rfl⟩ := checked_eq_ok hlabel
    exact (pure_eq_ok hresult).2

/-- What constructs the instance is there first, unless it needed the instance itself. -/
theorem opens_instanceOf (hvisit : Visits graph visit) {constructor : ShapeId}
    {properties : Properties} (hid : graph.shape? id = some (.instanceOf constructor properties)) :
    Opens graph id (instanceOf graph visit constructor) builder := by
  refine Advancing.opens ?_ fun {node builder'} h => .constructed hid ?_
  · refine .ofState ?_
    split
    · exact advancing_pure _
    · refine (hvisit.advancing constructor _).andThen fun callee builder₁ => .ofState ?_
      split
      · exact advancing_pure _
      · next hnone =>
        refine (advancing_instanceHint constructor).bind fun hint builder₂ hhint _ => ?_
        obtain rfl := instances_instanceHint hhint
        refine (advancing_hinted _ _).bind fun node builder₃ hmade _ => ?_
        obtain ⟨_, rfl⟩ := onArena_eq_ok hmade
        exact Advancing.andThen (advancing_modify ⟨fun h => h,
          fun hother => getElem?_insert_of_some hnone hother node, fun h => h, fun h => h,
          fun h => h⟩ .rfl rfl rfl) fun _ _ => advancing_pure _
  · -- The instance is found by its constructor, whether it was there before, was made on the way,
    -- or is made here.
    rw [instanceOf, run_get_bind] at h
    cases hnode : builder.instances[constructor.index]? with
    | some former =>
      rw [hnode] at h
      obtain ⟨rfl, rfl⟩ := pure_eq_ok h
      exact hnode
    | none =>
      rw [hnode] at h
      obtain ⟨callee, builder₂, _, h⟩ := run_bind_eq_ok h
      rw [run_get_bind] at h
      cases hnode : builder₂.instances[constructor.index]? with
      | some former =>
        rw [hnode] at h
        obtain ⟨rfl, rfl⟩ := pure_eq_ok h
        exact hnode
      | none =>
        rw [hnode] at h
        obtain ⟨hint, builder₄, _, h⟩ := run_bind_eq_ok h
        obtain ⟨made, builder₅, _, h⟩ := run_bind_eq_ok h
        obtain ⟨_, builder₆, hmodify, h⟩ := run_bind_eq_ok h
        obtain ⟨_, rfl⟩ := Prod.mk.inj hmodify
        obtain ⟨rfl, rfl⟩ := pure_eq_ok h
        exact Std.TreeMap.getElem?_insert_self

/-! ### Visits -/

/-- The primitive shapes are at the ids that stand for them. -/
theorem primitive_of_registered (h : graph.Registered) {kind : PrimitiveKind}
    (hid : graph.shape? id = some (.primitive kind)) : id = ShapeGraph.primitive kind := by
  have hkey : graph.keyOf? id = some (.primitive kind) := by
    rw [ShapeGraph.keyOf?, hid]
    rfl
  exact (Option.some.inj (h.found.2 hkey)).symm

/-- A graph that registers its shapes has all primitives at their places. -/
theorem hasPrimitives_of_registered (h : graph.Registered) : graph.HasPrimitives := by
  intro kind
  obtain ⟨shape, hshape, hkey⟩ :=
    Option.bind_eq_some_iff.1 (h.found.1 (rfl : graph.find? (.primitive kind) = some _))
  cases shape with
  | primitive kind' =>
    cases hkey
    exact hshape
  | _ => simp [Shape.key?] at hkey

/-- What a rule for a new shape adds if its visits go ahead. -/
theorem opens_rule (hgraph : graph.Registered) (hvisit : Visits graph visit)
    (hnew : builder.nodes[id.index]? = none) :
    Opens graph id (rule settings graph visit id) builder := by
  cases hshape : graph.shape id with
  | error failed =>
    rw [rule, hshape]
    refine (advancing_throw (.outOfRange failed)).opens fun heq => ?_
    cases congrArg Prod.fst heq
  | ok shape =>
    rw [rule, hshape]
    rw [ShapeGraph.shape_eq_ok] at hshape
    cases shape with
    | primitive kind =>
      exact opens_primitive (hasPrimitives_of_registered hgraph) kind
        (primitive_of_registered hgraph hshape)
    | object entries =>
      exact opens_object hvisit hshape rfl (fun _ heq => (Shape.object.inj heq).symm) hnew
    | array entries degraded => exact opens_array hvisit hshape hnew
    | function fn => exact opens_function hvisit hshape hnew
    | instanceOf constructor properties => exact opens_instanceOf hvisit hshape
    | union members => exact opens_union hvisit hshape
    | builtin fullName properties constructible => exact opens_builtin hvisit hshape
    | global properties => exact opens_global hshape
    | parameter use => exact opens_parameter hshape

/-- Requests for shapes go ahead at any level. -/
theorem visits_nodeWithin (hgraph : graph.Registered) (settings : Settings) (levels : Nat) :
    Visits graph (nodeWithin settings graph levels) := by
  induction levels with
  | zero =>
    exact ⟨fun id builder => advancing_throw .unfinished, fun heq => (nomatch congrArg Prod.fst heq),
      fun heq => (nomatch congrArg Prod.fst heq)⟩
  | succ levels ih =>
    -- A request leaves nothing open once its answer is noted.
    have hopens (id : ShapeId) (builder : Builder) : Opens graph id (do
        match ← known? id with
        | some node => return node
        | none => rule settings graph (nodeWithin settings graph levels) id) builder := by
      refine .ofKnown ?_
      cases hnode : builder.nodes[id.index]? with
      | some node =>
        refine (advancing_pure node).opens fun {other builder'} heq => .node ?_
        obtain ⟨rfl, rfl⟩ := pure_eq_ok heq
        exact hnode
      | none => exact opens_rule hgraph ih hnode
    refine ⟨fun id builder => (hopens id builder).logged, fun heq => ?_, fun heq => ?_⟩
    · obtain ⟨builder₁, hanswer, rfl⟩ := logged_eq_ok heq
      exact ((hopens _ _).settles hanswer).mono (builder₁.knows_note _)
    · obtain ⟨builder₁, _, rfl⟩ := logged_eq_ok heq
      exact Array.mem_push_self

end Gen

end Semblance
