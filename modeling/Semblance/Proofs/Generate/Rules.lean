import Semblance.Generate.Function
import Semblance.Generate.Primitive
import Semblance.Generate.Scope
import Semblance.Proofs.Generate.Elements
import Semblance.Proofs.Generate.Runs
import Semblance.Proofs.Shape.Recorded

/-!
# The rules come to an end

Each rule ends with an expression in the hands of its caller, provided that the visits it makes do.
A rule that remembers its shape may count on that when it asks for others: `Serves visit ready`
says that a visit serves the shapes that are ready in the builder at that time.

## Key results

- `runs_primitive`, `runs_global`, `runs_parameter`: rules without visits
- `runs_object`, `runs_array`, `runs_union`: rules for aggregates
- `runs_function`, `runs_instanceOf`, `runs_builtin`: rules with statements
-/

namespace Semblance.Gen

variable {graph : ShapeGraph} {builder builder' : Builder} {held : List NodeId} {id : ShapeId}

/-- Visits of the shapes that are ready end with a node in the hands of the caller. -/
def Serves (visit : Visit) (ready : Builder → ShapeId → Prop) : Prop :=
  ∀ ⦃builder held id⦄, Builder.Sound builder held → ready builder id →
    Yields (visit id) builder held

/-- From now on all shapes of the graph are ready. -/
def Ready (graph : ShapeGraph) (ready : Builder → ShapeId → Prop) (builder : Builder) : Prop :=
  ∀ builder', builder.Grows builder' → ∀ ⦃shape⦄, (graph.shape? shape).isSome →
    ready builder' shape

/-! ### Primitives -/

/-- A primitive is found or built, and then remembered, if building it ends with a node that can be
    shared. -/
theorem runs_shared {kind : PrimitiveKind} {build : Gen NodeId} (h : builder.Sound held)
    (hbuild : YieldsShareable build builder held) : Yields (shared kind build) builder held := by
  refine .bind (runs_known? ?_)
  split
  · -- A primitive that was built before is shared.
    next node hnode => exact runs_pure ⟨.rfl, h.share (h.node hnode)⟩
  · refine .bind (hbuild.mono fun node builder' ⟨hbecomes, hshareable⟩ => ?_)
    have hremembered := hbecomes.sound.remembered hshareable (ShapeGraph.primitive kind).index
    exact .bind (runs_modify (runs_pure (.after hbecomes.grows hremembered)))

/-- A leaf with an origin is a new expression. -/
theorem runs_leafOf (h : builder.Sound held) (origin : Origin) :
    Yields (leaf origin) builder held :=
  .step (runs_leaf h fun h => Arena.makes_leaf h (by cases origin <;> rfl) (by cases origin <;> rfl))
    fun _ _ _ h => .step (leaves_modify (h.kept rfl rfl rfl rfl fun h => h)) fun _ _ _ h =>
      runs_pure ⟨.rfl, h⟩

/-- A dotted name of the platform becomes a chain of member accesses over its first component. -/
theorem runs_platform (h : builder.Sound held) (path : String) :
    Yields (platform path) builder held :=
  .step (runs_leafOf h _) fun root _ _ h => runs_onArena (h.made (fun _ => List.mem_cons_of_mem _)
    (Arena.makes_members h.arena (h.expression root List.mem_cons_self) _))

/-- A number is a call of a function of the platform. -/
theorem runs_numberNode (h : builder.Sound held) : Yields numberNode builder held :=
  runs_shared h (.stepShareable (runs_platform h _) fun _ _ _ h => runs_hinted h rfl (by decide))

/-- A boolean is made from a number. -/
theorem runs_booleanNode (h : builder.Sound held) : Yields booleanNode builder held :=
  runs_shared h (.stepShareable (runs_numberNode h) fun _ _ _ h => runs_hinted h rfl (by decide))

/-- A string is made from a number by a function of the platform. -/
theorem runs_stringNode (h : builder.Sound held) : Yields stringNode builder held :=
  runs_shared h (.stepShareable (runs_numberNode h) fun _ _ _ h =>
    .stepShareable (runs_leafOf h _) fun _ _ _ h => runs_hinted h rfl (by decide))

/-- A regular expression is made from a string. -/
theorem runs_regexpNode (h : builder.Sound held) : Yields regexpNode builder held :=
  runs_shared h (.stepShareable (runs_stringNode h) fun _ _ _ h =>
    .stepShareable (runs_leafOf h _) fun _ _ _ h => runs_hinted h rfl (by decide))

/-- Every primitive is generated without a visit. -/
theorem runs_primitive (h : builder.Sound held) (kind : PrimitiveKind) :
    Yields (primitive kind) builder held := by
  cases kind with
  | undefined => exact runs_leaf h fun h => Arena.makes_undefined h
  | null => exact runs_leaf h fun h => Arena.makes_literal h _
  | boolean => exact runs_booleanNode h
  | number => exact runs_numberNode h
  | string => exact runs_stringNode h
  | regexp => exact runs_regexpNode h

/-! ### Names -/

/-- A reference to a binding is a new leaf, which is noted. -/
theorem runs_refer (h : builder.Sound held) (name : String) (referent : Referent) :
    Yields (refer name referent) builder held :=
  .step (runs_ident h name) fun _ _ _ h =>
    .step (leaves_modify (h.kept rfl rfl rfl rfl fun h => h)) fun _ _ _ h => runs_pure ⟨.rfl, h⟩

/-- The global scope is referred to by its name, and the first time it is declared as well. -/
theorem runs_global {settings : Settings} (hname : settings.globalName ≠ "")
    (h : builder.Sound held) : Yields (global settings) builder held := by
  refine .bind (runs_get ?_)
  split
  · next name _ => exact runs_refer h name _
  · refine .bind (runs_freshName hname fun name names => ?_)
    have hnames : builder.Becomes { builder with names } held := h.kept rfl rfl rfl rfl fun h => h
    refine .mono ?_ fun _ _ => .after hnames.grows
    refine .step (runs_leaf hnames.sound fun h => Arena.makes_this h) fun scope _ _ h => ?_
    have hmakes := Arena.makes_declaration h.arena (h.expression scope List.mem_cons_self) name
    refine .emitted h (fun _ => List.mem_cons_of_mem _) hmakes fun _ _ _ h => ?_
    refine .step (leaves_modify (h.kept rfl rfl rfl rfl fun h => h)) fun _ _ _ h => ?_
    exact runs_refer h name _

/-- The declaration of the placeholders is a statement of its own. -/
theorem runs_declarePlaceholder (h : builder.Sound held) (name : String) :
    Leaves (declarePlaceholder name) builder held := by
  have hdeclarator := @Arena.makes_declarator _ _ none h.arena (by simp) name
  refine .bind (runs_onArena (.bind (runs_get ?_)))
  split
  · next decl _ =>
    -- The placeholder joins the declaration of the others.
    have happend := hdeclarator.sound.appendDeclarator hdeclarator.kind decl
    exact runs_onArena (h.consumed (fun _ hid => hid)
      ⟨hdeclarator.grows.trans happend.grows, happend.sound⟩)
  · next hnone =>
    -- The first placeholder starts the declaration.
    have hdecl := Arena.makes_varDecl hdeclarator.sound hdeclarator.kind
    refine .bind (runs_onArena (runs_modify ?_))
    refine h.rooted (fun _ hid => hid) (.after hdeclarator.grows hdecl) rfl ?_ rfl rfl rfl
    simp [Builder.roots, show builder.placeholderDecl = none from hnone]

/-- A shape of the graph has a label. -/
theorem label_isOk {shape : ShapeId} (hshape : (graph.shape? shape).isSome) :
    ∃ label, graph.label shape = .ok label := by
  obtain ⟨known, hknown⟩ := Option.isSome_iff_exists.1 hshape
  exact ⟨_, bind_eq_ok.2 ⟨known, ShapeGraph.shape_eq_ok.2 hknown, rfl⟩⟩

/-- Of a shape of the graph it is known whether it stands for no value. -/
theorem isAbsent_isOk {shape : ShapeId} (hshape : (graph.shape? shape).isSome) :
    ∃ absent, graph.isAbsent shape = .ok absent := by
  obtain ⟨known, hknown⟩ := Option.isSome_iff_exists.1 hshape
  exact ⟨_, bind_eq_ok.2 ⟨known, ShapeGraph.shape_eq_ok.2 hknown, rfl⟩⟩

/-- A parameter is referred to by its placeholder, which is declared the first time. -/
theorem runs_parameter (h : builder.Sound held) {parameter : Parameter}
    (hfunction : (graph.shape? parameter.function).isSome) :
    Yields (Gen.parameter graph id parameter) builder held := by
  refine .bind (runs_get ?_)
  split
  · next name _ => exact runs_refer h name _
  · obtain ⟨label, hlabel⟩ := label_isOk hfunction
    refine .bind (runs_checked hlabel (.bind (runs_freshName ?_ fun name names => ?_)))
    · simp
    · have hnames : builder.Becomes { builder with names } held :=
        h.kept rfl rfl rfl rfl fun h => h
      refine .mono ?_ fun _ _ => .after hnames.grows
      refine .step (runs_declarePlaceholder hnames.sound name) fun _ _ _ h => ?_
      refine .step (leaves_modify (h.kept rfl rfl rfl rfl fun h => h)) fun _ _ _ h => ?_
      exact runs_refer h name _

/-! ### Aggregates -/

variable {visit : Visit} {ready : Builder → ShapeId → Prop}

/-- Shapes that are ready stay so. -/
theorem Ready.mono (h : Ready graph ready builder) (hgrows : builder.Grows builder') :
    Ready graph ready builder' :=
  fun _ hgrows' => h _ (hgrows.trans hgrows')

/-- If all shapes are ready from now on, then they are ready now. -/
theorem Ready.now (h : Ready graph ready builder) {shape : ShapeId}
    (hshape : (graph.shape? shape).isSome) : ready builder shape :=
  h builder .rfl hshape

/-- An entry takes the value that was visited for it. -/
theorem runs_addEntry (hvisit : Serves visit ready) (h : builder.Sound held) (object : NodeId)
    (kind : EntryKind) {binding : String × ShapeId} (hready : ready builder binding.2) :
    Leaves (addEntry visit object kind binding) builder held := by
  refine .step (hvisit h hready) fun value _ _ h => ?_
  have hentry := Arena.makes_entry h.arena (h.expression value List.mem_cons_self) binding.1 kind
  have happend := hentry.sound.appendEntry hentry.kind object
  exact runs_onArena (h.consumed (fun _ => List.mem_cons_of_mem _)
    ⟨hentry.grows.trans happend.grows, happend.sound⟩)

/-- All bindings of a property map are taken up, one after the other. -/
theorem runs_forM_bindings {action : String × ShapeId → Gen PUnit} {properties : Properties}
    (h : builder.Sound held) (hready : Ready graph ready builder)
    (hknown : ∀ ref ∈ properties.refs, (graph.shape? ref).isSome)
    (haction : ∀ {builder'} (binding : String × ShapeId), Builder.Sound builder' held →
      ready builder' binding.2 → Leaves (action binding) builder' held) :
    Leaves (properties.toList.forM action) builder held :=
  runs_forM (fun binding hmem _ hgrows h =>
    haction binding h ((hready.mono hgrows).now (hknown _ (List.mem_map_of_mem hmem)))) h

/-- An object is generated if the shapes are ready once it is remembered. -/
theorem runs_object (hvisit : Serves visit ready) (h : builder.Sound held)
    (hid : (graph.shape? id).isSome)
    (hready : ∀ builder', builder.Grows builder' → (builder'.nodes[id.index]?).isSome →
      Ready graph ready builder')
    {entries : Aggregate} (hknown : ∀ ref ∈ entries.refs, (graph.shape? ref).isSome) :
    Yields (object graph visit id entries) builder held := by
  obtain ⟨label, hlabel⟩ := label_isOk hid
  refine .bind (runs_checked hlabel (.remembered h
    (Arena.makes_hintedLeaf h.arena rfl rfl (by simp)) ?_))
  intro node _ hgrows hmarked h hshareable
  -- The object is remembered, so the shapes of its entries may be visited.
  have hready := hready _ hgrows hmarked
  have hadd {builder' : Builder} {kind : EntryKind} (binding : String × ShapeId)
      (h : builder'.Sound held) (hready : ready builder' binding.2) :
      Leaves (addEntry visit node kind binding) builder' held :=
    runs_addEntry hvisit h node kind hready
  -- The properties, the getters and the setters in turn.
  simp only [Aggregate.refs, List.mem_append] at hknown
  refine .step (runs_forM_bindings h hready (fun ref hmem => hknown ref (.inl (.inl hmem))) hadd) ?_
  intro _ _ hgrows₁ h
  have hready := hready.mono hgrows₁
  refine .step (runs_forM_bindings h hready (fun ref hmem => hknown ref (.inl (.inr hmem))) hadd) ?_
  intro _ _ hgrows₂ h
  have hready := hready.mono hgrows₂
  refine .step (runs_forM_bindings h hready (fun ref hmem => hknown ref (.inr hmem)) hadd) ?_
  intro _ _ hgrows₃ h
  have hgrows := (hgrows₁.trans hgrows₂).trans hgrows₃
  exact runs_pure ⟨.rfl, h.share (hgrows.arena.shareable hshareable)⟩

/-- The elements of an array after one of them is set. -/
theorem count_childIds_set_le (elements : Array (Option NodeId)) (index : Nat)
    (value other : NodeId) :
    (Node.array (elements.setIfInBounds index (some value))).childIds.count other ≤
      (value :: (Node.array elements).childIds).count other := by
  rw [List.count_cons, Node.count_childIds, Node.count_childIds]
  show (elements.setIfInBounds index (some value)).toList.count (some other) ≤
    elements.toList.count (some other) + _
  rw [Array.toList_setIfInBounds]
  by_cases hindex : index < elements.toList.length
  · rw [List.count_set hindex]
    simp
  · rw [List.set_eq_of_length_le (Nat.le_of_not_lt hindex)]
    omega

/-- An array takes up its elements only after all of them have been visited. -/
theorem runs_denseArray (hvisit : Serves visit ready) (h : builder.Sound held)
    (hid : (graph.shape? id).isSome)
    (hready : ∀ builder', builder.Grows builder' → (builder'.nodes[id.index]?).isSome →
      Ready graph ready builder')
    {elements : List (Nat × ShapeId)}
    (hknown : ∀ element ∈ elements, (graph.shape? element.2).isSome) :
    Yields (denseArray graph visit id elements) builder held := by
  obtain ⟨label, hlabel⟩ := label_isOk hid
  refine .bind (runs_checked hlabel (.remembered h
    (Arena.makes_hintedLeaf h.arena rfl rfl (by simp)) ?_))
  intro node builder₁ hgrows hmarked h hshareable
  have hready := hready _ hgrows hmarked
  -- The elements that are there already are in the hands of the rule.
  let inv (slots : Array (Option NodeId)) (builder : Builder) : Prop :=
    builder.Sound ((Node.array slots).childIds ++ held)
  refine .bind (Runs.mono (@runs_foldlM _ _ _ _ _ _ inv
    (fun element hmem slots builder₂ hgrows h => ?_) ?_) fun slots builder₂ ⟨hgrows, h⟩ => ?_)
  · -- An element takes its slot, and what was in the slot is dropped.
    refine .bind ((hvisit h ((hready.mono hgrows).now (hknown element hmem))).mono ?_)
    intro value builder₃ hbecomes
    refine runs_pure ⟨hbecomes.grows, hbecomes.sound.mono fun id => ?_⟩
    have hcount := count_childIds_set_le slots element.1 value id
    rw [List.count_cons] at hcount ⊢
    rw [List.count_append, List.count_append]
    omega
  · have hnone (length : Nat) : (Node.array (Array.replicate length none)).childIds = [] := by
      simp [Node.childIds, Node.operands]
    show Builder.Sound _ (_ ++ held)
    rw [hnone]
    exact h
  · -- In the end the node takes up all elements.
    have harena := h.arena
    rw [List.append_assoc] at harena
    have hnode := hgrows.arena.isExpression hshareable.1
    have hset := harena.setElements hnode fun element hmem =>
      h.expression element (List.mem_append_left _ hmem)
    have hbecomes := h.consumed (fun _ => List.mem_append_right _) hset
    have hgrows := hgrows.trans hbecomes.grows
    exact .bind (runs_onArena (runs_pure
      ⟨hgrows, hbecomes.sound.share (hgrows.arena.shareable hshareable)⟩))

/-- An element of an array is one of its properties. -/
theorem mem_refs_of_elements? {entries : Aggregate} {elements : List (Nat × ShapeId)}
    (h : entries.elements? = some elements) {element : Nat × ShapeId} (hmem : element ∈ elements) :
    element.2 ∈ entries.properties.refs := by
  rw [Properties.refs, properties_of_elements? h, List.map_map]
  exact List.mem_map_of_mem hmem

/-- An array is generated as a list of elements or by the rule for objects. -/
theorem runs_array (hvisit : Serves visit ready) (h : builder.Sound held)
    (hid : (graph.shape? id).isSome)
    (hready : ∀ builder', builder.Grows builder' → (builder'.nodes[id.index]?).isSome →
      Ready graph ready builder')
    {entries : Aggregate} (hknown : ∀ ref ∈ entries.refs, (graph.shape? ref).isSome)
    (degraded : Bool) : Yields (array graph visit id entries degraded) builder held := by
  unfold array
  split
  · exact runs_object hvisit h hid hready hknown
  · split
    · next elements helements =>
      refine runs_denseArray hvisit h hid hready fun element hmem => hknown _ ?_
      simp only [Aggregate.refs, List.mem_append]
      exact .inl (.inl (mem_refs_of_elements? helements hmem))
    · exact runs_object hvisit h hid hready hknown

/-- The members of a union are generated one after the other, and then joined. -/
theorem runs_union (hvisit : Serves visit ready) (h : builder.Sound held) {members : List ShapeId}
    (hready : ∀ member ∈ members, ∀ builder', builder.Grows builder' → ready builder' member) :
    Yields (union visit id members) builder held := by
  match members with
  | [] => exact runs_leaf h fun h => Arena.makes_undefined h
  | [only] => exact hvisit h (hready only List.mem_cons_self builder .rfl)
  | first :: second :: rest =>
    refine .step (hvisit h (hready first List.mem_cons_self builder .rfl)) ?_
    intro head builder₁ hgrows₁ h
    refine .step (runs_mapM (fun member hmem held builder₂ hgrows₂ h => hvisit h
      (hready member (List.mem_cons_of_mem _ hmem) _ (hgrows₁.trans hgrows₂))) h) ?_
    intro operands builder₂ _ h
    have h : builder₂.Sound (head :: operands ++ held) := h.perm List.perm_middle
    refine .bind (runs_known? ?_)
    split
    · next node hnode =>
      -- A visit of a member has come back to the union, whose node is used instead.
      have hdrop : builder₂.Sound held := h.mono fun id => by
        rw [List.count_append]
        omega
      exact runs_pure ⟨.rfl, hdrop.share (h.node hnode)⟩
    · -- The alternatives become shareable with the hint.
      have harena := h.arena
      rw [List.append_assoc] at harena
      have hmakes := Arena.makes_alternatives harena (h.expression head List.mem_cons_self)
        fun operand hmem => h.expression operand
          (List.mem_append_left _ (List.mem_cons_of_mem _ hmem))
      obtain ⟨node, hnode, _⟩ := hmakes.kind
      obtain ⟨hsound, hgrows, hnamed⟩ := hmakes.sound.setHint (by rw [hnode, Option.isSome_some])
        (show "union_" ++ toString id.index ≠ "" by simp)
      have hexpression := hgrows.isExpression hmakes.kind
      have hjoined := h.changed ⟨hmakes.grows.trans hgrows, hsound⟩ fun other hmem => by
        rcases List.mem_cons.1 hmem with rfl | hmem
        · exact hexpression
        · exact (hmakes.grows.trans hgrows).isExpression
            (h.expression other (List.mem_append_right _ hmem))
      have hremembered := hjoined.sound.remembered ⟨hexpression, hnamed⟩ id.index
      exact .bind (runs_onArena (.bind (runs_onArena (.bind (runs_modify
        (runs_pure (.after hjoined.grows hremembered)))))))

/-! ### Functions -/

/-- Copying a parameter to its placeholder adds a statement to the body of the function. -/
theorem runs_copyParam (hvisit : Serves visit ready) (h : builder.Sound held) (body : NodeId)
    {used : Nat × ShapeId} (hready : ready builder used.2) :
    Leaves (copyParam visit id body used) builder held := by
  refine .step (hvisit h hready) fun target _ _ h => ?_
  refine .step (runs_leafOf h _) fun source _ _ h => ?_
  exact runs_assignIn body (h.perm (.swap target source held))

/-- A property of a function is written outside of its body, to the node of the function. -/
theorem runs_writeStatic (hvisit : Serves visit ready) (h : builder.Sound held)
    {settings : Settings} {node : NodeId} (hnode : builder.arena.Shareable node)
    {binding : String × ShapeId} (hready : ready builder binding.2) :
    Leaves (writeStatic settings graph visit node binding) builder held := by
  unfold writeStatic
  split
  · exact runs_pure ⟨.rfl, h⟩
  · refine .step (hvisit h hready) fun value _ hgrows h => ?_
    refine .step (runs_member (h.share (hgrows.arena.shareable hnode)) _) fun target _ _ h => ?_
    exact runs_emitAssign h

/-- A property of the instances is written in the body, to what the function is called on. -/
theorem runs_writeToReceiver (hvisit : Serves visit ready) (h : builder.Sound held) (body : NodeId)
    {binding : String × ShapeId} (hready : ready builder binding.2) :
    Leaves (writeToReceiver visit id body binding) builder held := by
  refine .step (hvisit h hready) fun value _ _ h => ?_
  refine .step (runs_leafOf h _) fun receiver _ _ h => ?_
  refine .step (runs_member h _) fun target _ _ h => ?_
  exact runs_assignIn body h

/-- The body of a function is filled, while its node is there already. -/
theorem runs_fillFunction (hvisit : Serves visit ready) (h : builder.Sound held)
    (hready : Ready graph ready builder)
    {fn : FunctionShape} (hknown : ∀ ref ∈ (Shape.function fn).refs, (graph.shape? ref).isSome)
    (hinstance : ∀ ref ∈ (instanceProperties graph fn).refs, (graph.shape? ref).isSome)
    (settings : Settings) {node : NodeId} (hnode : builder.arena.Shareable node) (body : NodeId) :
    Leaves (fillFunction settings graph visit id fn node body) builder held := by
  simp only [Shape.refs, List.mem_append] at hknown
  unfold fillFunction
  -- Accessors copy no parameters.
  refine .when h ?_ ?_
  · exact runs_forM (fun used hmem _ hgrows h => runs_copyParam hvisit h _
      ((hready.mono hgrows).now (hknown _ (.inl (.inl (List.mem_map_of_mem hmem)))))) h
  intro _ hgrows₁ h
  have hready := hready.mono hgrows₁
  -- The static properties are written outside of the function, its instance properties within.
  refine .step (runs_forM (fun binding hmem _ hgrows₂ h => runs_writeStatic hvisit h
    ((hgrows₁.trans hgrows₂).arena.shareable hnode)
    ((hready.mono hgrows₂).now (hknown _ (.inl (.inr (List.mem_map_of_mem hmem)))))) h) ?_
  intro _ _ hgrows₂ h
  have hready := hready.mono hgrows₂
  refine .step (runs_forM_bindings h hready hinstance fun binding h hready =>
    runs_writeToReceiver hvisit h _ hready) ?_
  intro _ _ hgrows₃ h
  have hreturns := hknown fn.returns (.inr (by simp))
  obtain ⟨absent, habsent⟩ := isAbsent_isOk hreturns
  refine .bind (runs_checked habsent ?_)
  -- A value is returned unless the function was seen to return none.
  split
  · exact runs_pure ⟨.rfl, h⟩
  · refine .step (hvisit h ((hready.mono hgrows₃).now hreturns)) fun value _ _ h => ?_
    have hret := Arena.makes_ret h.arena (h.expression value List.mem_cons_self)
    have happend := hret.sound.appendStmt hret.kind body
    exact runs_onArena (h.consumed (fun _ => List.mem_cons_of_mem _)
      ⟨hret.grows.trans happend.grows, happend.sound⟩)

/-- A function is generated if the shapes are ready once it is remembered. -/
theorem runs_function (hvisit : Serves visit ready) (h : builder.Sound held)
    (hid : (graph.shape? id).isSome)
    (hready : ∀ builder', builder.Grows builder' → (builder'.nodes[id.index]?).isSome →
      Ready graph ready builder')
    {fn : FunctionShape} (hknown : ∀ ref ∈ (Shape.function fn).refs, (graph.shape? ref).isSome)
    (hinstance : ∀ ref ∈ (instanceProperties graph fn).refs, (graph.shape? ref).isSome)
    (settings : Settings) : Yields (function settings graph visit id fn) builder held := by
  obtain ⟨label, hlabel⟩ := label_isOk hid
  have hbody : builder.arena.Makes Arena.IsStatement (held ++ builder.roots)
      (Arena.push (.block #[]) builder.arena) :=
    Arena.makes_statement h.arena rfl rfl (by simp [Node.childIds, Node.operands])
  -- The block goes into the function, so it is not held any more when the body is filled.
  have hdropped := h.consumed (fun _ hid => hid) hbody.toBecomes.drop
  refine .bind (runs_checked hlabel (.bind (runs_onArena ?_)))
  refine .mono ?_ fun _ _ => .after hdropped.grows
  refine .remembered hdropped.sound (Arena.makes_hinted hbody.sound rfl (fun child hmem => ?_)
    (by simp)) ?_
  · obtain rfl := List.mem_singleton.1 hmem
    exact hbody.kind.standalone
  intro node builder₁ hgrows hmarked h hshareable
  have hready := hready _ (hdropped.grows.trans hgrows) hmarked
  refine .step (runs_fillFunction hvisit h hready hknown hinstance settings hshareable _) ?_
  exact fun _ _ hgrows h => runs_pure ⟨.rfl, h.share (hgrows.arena.shareable hshareable)⟩

/-! ### Instances and builtins -/

/-- The hint for the name of an instance is never empty. -/
theorem runs_instanceHint {constructor : ShapeId} (hid : (graph.shape? constructor).isSome)
    {post : String → Builder → Prop} (h : ∀ hint, hint ≠ "" → post hint builder) :
    Runs (instanceHint graph constructor) builder post := by
  obtain ⟨shape, hshape⟩ := Option.isSome_iff_exists.1 hid
  obtain ⟨label, hlabel⟩ := label_isOk hid
  refine .bind (runs_checked (ShapeGraph.shape_eq_ok.2 hshape) ?_)
  split
  · exact runs_pure (h _ (by simp))
  · exact .bind (runs_checked hlabel (runs_pure (h _ (by simp))))

/-- An instance takes the constructor that was visited for it, unless the visit has led to the
    instance itself. -/
theorem runs_instanceOf (hvisit : Serves visit ready) (h : builder.Sound held)
    {constructor : ShapeId} (hid : (graph.shape? constructor).isSome)
    (hready : ready builder constructor) :
    Yields (instanceOf graph visit constructor) builder held := by
  refine .bind (runs_get ?_)
  split
  · next node hnode => exact runs_pure ⟨.rfl, h.share (h.inst hnode)⟩
  · refine .step (hvisit h hready) fun callee builder₁ _ h => ?_
    refine .bind (runs_get ?_)
    split
    · -- The visit of the constructor has built the instance on its way.
      next node hnode => exact runs_pure ⟨.rfl, h.drop.share (h.inst hnode)⟩
    · refine .bind (runs_instanceHint hid fun hint hhint => ?_)
      refine .bind (Runs.mono (runs_hinted h rfl hhint) ?_)
      intro node builder₂ ⟨hbecomes, hshareable⟩
      have hremembered := hbecomes.sound.rememberedInstance hshareable constructor.index
      exact .bind (runs_modify (runs_pure (.after hbecomes.grows hremembered)))

/-- A property that was added to a builtin is visited even if it is not written out. -/
theorem runs_patch (hvisit : Serves visit ready) (h : builder.Sound held) (fullName : String)
    {binding : String × ShapeId} (hready : ready builder binding.2) :
    Leaves (patch graph visit fullName binding) builder held := by
  refine .step (hvisit h hready) fun value _ _ h => ?_
  split
  · exact runs_pure ⟨.rfl, h.drop⟩
  · refine .step (runs_platform h _) fun owner _ _ h => ?_
    refine .step (runs_member h _) fun target _ _ h => ?_
    exact runs_emitAssign h

/-- A builtin is generated if the shapes are ready once it is marked. -/
theorem runs_builtin (hvisit : Serves visit ready) (h : builder.Sound held)
    (hready : builder.patched.contains id.index = false → ∀ builder', builder.Grows builder' →
      builder'.patched.contains id.index = true → Ready graph ready builder')
    {properties : Properties} (hknown : ∀ ref ∈ properties.refs, (graph.shape? ref).isSome)
    (fullName : String) : Yields (builtin graph visit id fullName properties) builder held := by
  refine .bind (runs_get ?_)
  dsimp only
  split
  · exact runs_platform h _
  · next hpatched =>
    -- The builtin is marked before its properties are visited.
    have hmarked : builder.Becomes
        { builder with patched := builder.patched.insert id.index } held :=
      h.kept rfl rfl rfl rfl fun hindex => by simp [hindex]
    have hready := hready (Bool.eq_false_iff.2 hpatched) _ hmarked.grows (by simp)
    refine .bind (runs_modify (.mono ?_ fun _ _ => .after hmarked.grows))
    refine .step (runs_forM_bindings hmarked.sound hready hknown fun binding h hready =>
      runs_patch hvisit h fullName hready) fun _ _ _ h => ?_
    exact runs_platform h _

end Semblance.Gen
